import WorkQueue.Proofs.Store.Coupling

/-!
# Deliveries and returns

A message is delivered whenever a transaction takes it, and it is returned whenever it comes back
from a transaction that had taken it. What a step does to a row, and what it delivers and returns,
go together: a return counts one attempt and takes the message out of a transaction's hands, and a
delivery puts it there.
-/

namespace WorkQueue

namespace Message

/-- Was the message delivered without having been returned since? -/
def isOut (m : Message) : Bool :=
  m.isTaken || m.state = .processed

/-- Is the message out of the hands of transactions, to be tried again or for good? -/
def isBack (m : Message) : Bool :=
  m.state = .active || m.state = .attemptsExceeded

/-- A message that is given back is not out any more. -/
theorem isOut_giveBack (m : Message) (now : Instant) : (m.giveBack now).isOut = false := by
  unfold giveBack
  split <;> rfl

/-- How often the message was delivered, by its row. -/
def takes (m : Message) : Nat :=
  m.attempts + if m.isOut then 1 else 0

/-- A coupled message was not delivered more often than it may be. -/
theorem Coupled.takes_le {m : Message} (h : m.Coupled) : m.takes ≤ m.maxAttempts := by
  by_cases hexceeded : m.state = .attemptsExceeded
  · have hback : m.isOut = false := by simp [isOut, isTaken, hexceeded]
    rw [takes, hback, h.attempts_eq hexceeded]
    exact Nat.le_refl _
  · have hlt := h.attempts_lt hexceeded
    rw [takes]
    split <;> omega

end Message

/-- What becomes of a row goes together with its delivery and its return: a return counts one
attempt, and the message is out after it was delivered until it is returned. -/
structure Message.Tally (m kept : Message) (delivered : Bool) : Prop where
  attempts_eq : kept.attempts = m.attempts + if m.isTaken && kept.isBack then 1 else 0
  out_eq : ((if kept.isOut then 1 else 0) + if m.isTaken && kept.isBack then 1 else 0) =
    (if m.isOut then 1 else 0) + if delivered then 1 else 0

namespace Message.Tally

variable {m : Message} {now : Instant} {owner : TransactionId}

/-- A row that stays as it is was neither delivered nor returned. -/
theorem refl (m : Message) : Tally m m false := by
  have hnot : (m.isTaken && m.isBack) = false := by
    cases hstate : m.state <;> simp [isTaken, isBack, hstate]
  constructor <;> simp [hnot]

/-- A message that is taken is delivered. -/
theorem take (hactive : m.state = .active) : Tally m (m.take owner) true := by
  constructor <;> simp [Message.take, isOut, isTaken, isBack, hactive]

/-- A message that is given back is returned. -/
theorem giveBack (htaken : m.isTaken = true) : Tally m (m.giveBack now) false := by
  obtain ⟨hstate, haction⟩ := isTaken_iff.1 htaken
  unfold Message.giveBack
  split <;> constructor <;> simp [exhaust, requeue, isOut, isTaken, isBack, hstate, haction]

/-- A message whose adding is committed was neither delivered nor returned. -/
theorem release (hadded : m.isHeldBy owner .add = true) :
    Tally m (m.moveTo .active now) false := by
  obtain ⟨_, haction, hstate⟩ := isHeldBy_iff.1 hadded
  constructor <;> simp [moveTo, isOut, isTaken, isBack, haction, hstate]

/-- A message whose taking is committed is not returned. -/
theorem process (htaken : m.isTaken = true) : Tally m (m.moveTo .processed now) false := by
  obtain ⟨hstate, haction⟩ := isTaken_iff.1 htaken
  constructor <;> simp [moveTo, isOut, isTaken, isBack, hstate, haction]

/-- A message that is not in a transaction and is closed was neither delivered nor returned. -/
theorem close (hactive : m.state = .active) {target : MessageState}
    (htarget : target = .expired ∨ target = .attemptsExceeded) :
    Tally m (m.close target now) false := by
  rcases htarget with rfl | rfl <;>
    constructor <;> simp [Message.close, isOut, isTaken, isBack, hactive]

end Message.Tally

namespace Change

variable {change : Change} {store : Store} {m kept : Message}

/-- What becomes of a message goes together with what the change delivers. -/
theorem tally_of_fate (hfate : Message.Fate store m change kept) :
    Message.Tally m kept (change.delivers m.id) := by
  cases hfate with
  | same _ _ hnot => rw [hnot]; exact .refl m
  | released id now hadded => exact .release hadded
  | processed id now htaken => exact .process (Message.isTaken_of_isHeldBy htaken)
  | undone id target reason now htaken => exact .giveBack (Message.isTaken_of_isHeldBy htaken)
  | recovered now horphan => exact .giveBack (Message.isTaken_of_isOrphan horphan)
  | taken owner now hnext hopen =>
      have hdelivers : (Change.take m owner now).delivers m.id = true := by
        simp [delivers, delivery?]
      rw [hdelivers]
      exact .take (Message.isEligible_iff.1 (Store.nextMessage?_eq_some hnext).2).2.1
  | lapsed now hactive hpassed => exact .close hactive (.inl rfl)
  | outworn now hactive hworn => exact .close hactive (.inr rfl)

/-- A message that is at its end stays as it is as long as it is there. -/
theorem eq_of_isTerminal (hfate : Message.Fate store m change kept)
    (hterminal : m.state.isTerminal = true) : kept = m := by
  have hnot {P : Prop} (hstate : m.state = .inTransaction ∨ m.state = .active) : P := by
    rcases hstate with hstate | hstate <;> rw [hstate] at hterminal <;> cases hterminal
  cases hfate with
  | same => rfl
  | released id now hheld | processed id now hheld | undone id target reason now hheld =>
      exact hnot (.inl (Message.isHeldBy_iff.1 hheld).2.2)
  | recovered now horphan =>
      exact hnot (.inl (Message.isTaken_iff.1 (Message.isTaken_of_isOrphan horphan)).1)
  | taken owner now hnext hopen =>
      exact hnot (.inr (Message.isEligible_iff.1 (Store.nextMessage?_eq_some hnext).2).2.1)
  | lapsed now hactive hpassed | outworn now hactive hworn => exact hnot (.inr hactive)

end Change

namespace Step

/-- Does the step deliver the message? -/
def delivers (step : Step) (id : MessageId) : Bool :=
  step.delivery?.any fun delivery => delivery.1 = id

/-- Does the step return the message: was it taken before, and is it back after? -/
def returns (step : Step) (id : MessageId) : Bool :=
  (step.before.store.message? id).any Message.isTaken &&
    (step.after.store.message? id).any Message.isBack

end Step

/-- How many steps deliver the message. -/
def deliveries (steps : List Step) (id : MessageId) : Nat :=
  steps.countP fun step => step.delivers id

/-- How many steps return the message. -/
def returns (steps : List Step) (id : MessageId) : Nat :=
  steps.countP fun step => step.returns id

/-- One more step may deliver the message once more. -/
theorem deliveries_append_singleton (steps : List Step) (step : Step) (id : MessageId) :
    deliveries (steps ++ [step]) id =
      deliveries steps id + if step.delivers id then 1 else 0 := by
  rw [deliveries, deliveries, List.countP_append, List.countP_singleton]

/-- One more step may return the message once more. -/
theorem returns_append_singleton (steps : List Step) (step : Step) (id : MessageId) :
    returns (steps ++ [step]) id = returns steps id + if step.returns id then 1 else 0 := by
  rw [returns, returns, List.countP_append, List.countP_singleton]

namespace Step

variable {step : Step}

/-- A step delivers what its change delivers. -/
theorem delivers_eq {change : Change} {step : Step}
    (hcomes : ComesTo step.before.store step.before.clock step.move
      (step.move.answer step.before) change) (id : MessageId) :
    step.delivers id = change.delivers id := by
  rw [delivers, delivery?, hcomes.delivery_eq, Change.delivers]

/-- A step delivers a message that is there and active, and leaves it in its taker's hands. -/
theorem exists_of_delivers {id : MessageId} (h : step.delivers id = true) :
    ∃ m ∈ step.before.store.messages, m.id = id ∧ m.state = .active ∧
      ∃ owner, m.take owner ∈ step.after.store.messages := by
  obtain ⟨change, hallowed, hcomes, hstore⟩ := step.explained
  obtain ⟨m, hm, hid, hactive, owner, hafter⟩ :=
    Change.exists_active_of_delivers hallowed ((delivers_eq hcomes id).symm.trans h)
  refine ⟨m, hm, hid, hactive, owner, ?_⟩
  rw [hstore]
  exact Change.mem_messages_apply.2 (.inl ⟨m, hm, hafter⟩)

/-- Whether a step returns a message is seen from its rows. -/
theorem returns_eq (h : step.before.store.Sound) {m kept : Message}
    (hm : m ∈ step.before.store.messages) (hkept : kept ∈ step.after.store.messages)
    (hid : kept.id = m.id) : step.returns m.id = (m.isTaken && kept.isBack) := by
  have hafter : step.after.store.message? m.id = some kept := by
    rw [← hid]
    exact (step.sound_after h).numbered.message?_eq hkept
  rw [returns, h.numbered.message?_eq hm, hafter]
  rfl

/-- A step neither delivers nor returns a message whose number was not given out before it. -/
theorem not_delivers_of_lt (step : Step) (h : step.before.store.Sound) {id : MessageId}
    (hlt : step.before.store.lastMessage < id.value) :
    step.delivers id = false ∧ step.returns id = false := by
  have hnone : ∀ m ∈ step.before.store.messages, m.id ≠ id := by
    rintro m hm rfl
    exact absurd (h.numbered.messages.le_last m hm) (Nat.not_le.2 hlt)
  constructor
  · cases hdelivers : step.delivers id with
    | false => rfl
    | true =>
        obtain ⟨m, hm, hid, _⟩ := exists_of_delivers hdelivers
        exact absurd hid (hnone m hm)
  · have hfind : step.before.store.message? id = none :=
      List.find?_eq_none.2 fun m hm => by simpa using hnone m hm
    rw [returns, hfind]
    rfl

/-- The rows after a step tell what it delivered and returned, as the rows before it do. -/
theorem tally (step : Step) (h : step.before.store.Sound) {kept : Message}
    (hkept : kept ∈ step.after.store.messages) :
    (∃ m ∈ step.before.store.messages, kept.content = m.content ∧
      kept.attempts = m.attempts + (if step.returns m.id then 1 else 0) ∧
      (if kept.isOut then 1 else 0) + (if step.returns m.id then 1 else 0) =
        (if m.isOut then 1 else 0) + if step.delivers m.id then 1 else 0) ∨
      (step.before.store.lastMessage < kept.id.value ∧ kept.attempts = 0 ∧
        kept.isOut = false) := by
  obtain ⟨change, hallowed, hcomes, hstore⟩ := step.explained
  have hrow := hkept
  rw [hstore] at hrow
  rcases Change.origin hallowed h.numbered hrow with ⟨m, hm, hcontent, hfate⟩ | ⟨draft, _, rfl⟩
  · have htally := Change.tally_of_fate hfate
    refine .inl ⟨m, hm, hcontent, ?_⟩
    rw [returns_eq h hm hkept (Message.id_eq_of_content hcontent), delivers_eq hcomes]
    exact ⟨htally.attempts_eq, htally.out_eq⟩
  · exact .inr ⟨Nat.lt_succ_self _, rfl, rfl⟩

/-- Does the step undo what the transaction did: does it roll the transaction back, find it lapsed
and say so, or give back what it holds once it has expired? -/
def Undoes (step : Step) (owner : TransactionId) : Prop :=
  (∃ reason, step.move = .rollback owner reason ∧
    ∃ undone, step.move.answer step.before = .ok undone) ∨
  (step.move.owner? = some owner ∧ step.before.store.HasLapsed owner step.before.clock ∧
    step.move.answer step.before = .error (.expired owner)) ∨
  ∃ instant, step.move = .sweep .orphanedPulls instant ∧
    ∃ t, step.before.store.transaction? owner = some t ∧ t.state = .expired

/-- A step that returns a message undoes what the transaction did that had taken the message. -/
theorem undoes_of_returns (step : Step) (h : step.before.store.Sound) {id : MessageId}
    (hreturns : step.returns id = true) :
    ∃ m owner, step.before.store.message? id = some m ∧ m.isHeldBy owner .pull = true ∧
      step.Undoes owner := by
  simp only [returns, Bool.and_eq_true, Option.any_eq_true] at hreturns
  obtain ⟨⟨m, hfind, htaken⟩, kept, hkept, hback⟩ := hreturns
  obtain ⟨hm, hid⟩ := Store.message?_eq_some hfind
  obtain ⟨hrow, hsame⟩ := Store.message?_eq_some hkept
  obtain ⟨change, hallowed, hcomes, hstore⟩ := step.explained
  rw [hstore] at hrow
  rcases Change.origin hallowed h.numbered hrow with ⟨old, hold, hcontent, hfate⟩ | ⟨draft, _, rfl⟩
  · -- Only two of the ways in which a row changes lead from taken to back.
    cases h.numbered.message_eq hm hold
      (hid.trans (hsame.symm.trans (Message.id_eq_of_content hcontent)))
    obtain ⟨hstate, haction⟩ := Message.isTaken_iff.1 htaken
    cases hfate with
    | same => simp [Message.isBack, hstate] at hback
    | released owner now hadded =>
        cases haction.symm.trans (Message.isHeldBy_iff.1 hadded).2.1
    | processed => cases hback
    | undone owner target reason now hheld =>
        refine ⟨m, owner, hfind, hheld, ?_⟩
        rcases hcomes.of_undo with ⟨⟨given, hmove⟩, hanswer, _⟩ | ⟨howner, hanswer, rfl, rfl⟩
        · exact .inl ⟨given, hmove, hanswer⟩
        · rcases hallowed with ⟨hrolled, _⟩ | ⟨_, _, hlapsed⟩
          · cases hrolled
          · exact .inr (.inl ⟨howner, hlapsed, hanswer⟩)
    | recovered now horphan =>
        simp only [Store.isOrphan, Store.hasExpired, Bool.and_eq_true, Option.any_eq_true,
          List.any_eq_true, decide_eq_true_eq] at horphan
        obtain ⟨_, owner, howner, t, ht, rfl, hexpired⟩ := horphan
        refine ⟨m, t.id, hfind, Message.isHeldBy_iff.2 ⟨howner, haction, hstate⟩, ?_⟩
        exact .inr (.inr ⟨now, hcomes.of_repair, t, h.numbered.transaction?_eq ht, hexpired⟩)
    | taken owner now hnext =>
        cases hstate.symm.trans
          (Message.isEligible_iff.1 (Store.nextMessage?_eq_some hnext).2).2.1
    | lapsed now hactive | outworn now hactive => cases hstate.symm.trans hactive
  · have hlast : m.id.value = step.before.store.lastMessage + 1 := by rw [hid, ← hsame]; rfl
    exact absurd (h.numbered.messages.le_last m hm) (by omega)

end Step

end WorkQueue
