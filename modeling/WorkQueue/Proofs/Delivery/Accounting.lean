import WorkQueue.Proofs.Delivery.Tally

/-!
# Accounting for deliveries

Added up over a run, the tallies of its steps say how often a message was delivered and returned
since the run began. From the empty store on, that is what the message's row says; from a delivery
on, it is that one return makes room for the next delivery. So a row shows how often its message
was delivered, nothing is delivered more often than it may be, and whatever is at its end stays
there: `deliveries_accounted`.
-/

namespace WorkQueue

/-- The steps account for a message that had so many attempts, and was out or not, when they
began: what they delivered and returned adds up to what its row says now. -/
structure Accounts (id : MessageId) (attempts out : Nat) (steps : List Step) (broker : Broker) :
    Prop where
  sound : broker.store.Sound
  attempts_eq : ∀ m ∈ broker.store.messages, m.id = id → m.attempts = attempts + returns steps id
  out_eq : ∀ m ∈ broker.store.messages, m.id = id →
    (if m.isOut then 1 else 0) + returns steps id = out + deliveries steps id
  unborn : broker.store.lastMessage < id.value →
    attempts = 0 ∧ out = 0 ∧ deliveries steps id = 0 ∧ returns steps id = 0

namespace Accounts

variable {id : MessageId} {attempts out : Nat} {steps : List Step} {broker : Broker}

/-- Nothing was delivered from the empty store. -/
theorem emptied (id : MessageId) (broker : Broker) : Accounts id 0 0 [] broker.emptied where
  sound := Store.sound_empty
  attempts_eq m hm := by cases hm
  out_eq m hm := by cases hm
  unborn _ := ⟨rfl, rfl, rfl, rfl⟩

/-- An account can be opened for any message that is there. -/
theorem opened (h : broker.store.Sound) {m : Message} (hm : m ∈ broker.store.messages) :
    Accounts m.id m.attempts (if m.isOut then 1 else 0) [] broker where
  sound := h
  attempts_eq other hother hid := by
    rw [h.numbered.message_eq hother hm hid]
    rfl
  out_eq other hother hid := by
    rw [h.numbered.message_eq hother hm hid]
    rfl
  unborn hlt := absurd (h.numbered.messages.le_last m hm) (Nat.not_le.2 hlt)

/-- The account goes on with every step. -/
theorem step (h : Accounts id attempts out steps broker) (move : Move) :
    Accounts id attempts out (steps ++ [⟨broker, move⟩]) (move.after broker) := by
  have hlast : broker.store.lastMessage ≤ (move.after broker).store.lastMessage := by
    obtain ⟨change, _, _, hstore⟩ := move.explained broker
    rw [Move.after, hstore]
    exact Nat.le_add_right _ _
  have hunborn (hlt : broker.store.lastMessage < id.value) :=
    Step.not_delivers_of_lt ⟨broker, move⟩ h.sound hlt
  constructor
  case sound => exact Step.sound_after ⟨broker, move⟩ h.sound
  case attempts_eq =>
    rintro kept hkept rfl
    rw [returns_append_singleton]
    rcases Step.tally ⟨broker, move⟩ h.sound hkept with
      ⟨m, hm, hcontent, hattempts, _⟩ | ⟨hlt, hattempts, _⟩
    · have hid := Message.id_eq_of_content hcontent
      have hbefore := h.attempts_eq m hm hid.symm
      rw [hid] at hbefore ⊢
      omega
    · obtain ⟨hzero, _, _, hreturns⟩ := h.unborn hlt
      rw [(hunborn hlt).2, hattempts, hzero, hreturns]
      rfl
  case out_eq =>
    rintro kept hkept rfl
    rw [returns_append_singleton, deliveries_append_singleton]
    rcases Step.tally ⟨broker, move⟩ h.sound hkept with ⟨m, hm, hcontent, _, hout⟩ | ⟨hlt, _, hout⟩
    · have hid := Message.id_eq_of_content hcontent
      have hbefore := h.out_eq m hm hid.symm
      rw [hid] at hbefore ⊢
      omega
    · obtain ⟨_, hzero, hdeliveries, hreturns⟩ := h.unborn hlt
      rw [(hunborn hlt).1, (hunborn hlt).2, hout, hzero, hdeliveries, hreturns]
      rfl
  case unborn =>
    intro hlt
    have hbefore := Nat.lt_of_le_of_lt hlast hlt
    obtain ⟨hattempts, hout, hdeliveries, hreturns⟩ := h.unborn hbefore
    rw [returns_append_singleton, deliveries_append_singleton, (hunborn hbefore).1,
      (hunborn hbefore).2]
    exact ⟨hattempts, hout, hdeliveries, hreturns⟩

/-- The account goes on with every run. -/
theorem play (h : Accounts id attempts out [] broker) (moves : List Move) :
    Accounts id attempts out (Broker.trace moves broker) (Broker.play moves broker) :=
  Broker.play_invariant (Accounts id attempts out) h (fun _ _ move h => h.step move) moves

end Accounts

/-- The steps deliver a message at most as often as is left to it since they began, and what it was
made with stays. -/
structure Within (m : Message) (steps : List Step) (broker : Broker) : Prop where
  accounts : Accounts m.id m.attempts (if m.isOut then 1 else 0) steps broker
  tells : broker.store.Tells m.id fun kept => kept.content = m.content
  takes_le : m.takes + deliveries steps m.id ≤ m.maxAttempts

namespace Within

variable {m : Message} {steps : List Step} {broker : Broker}

/-- Nothing was delivered yet. -/
theorem opened (h : broker.store.Sound) (hm : m ∈ broker.store.messages) : Within m [] broker where
  accounts := .opened h hm
  tells := h.numbered.tells hm rfl
  takes_le := (h.coupled.messages m hm).takes_le

/-- A delivery leaves the message with an attempt that is not yet counted, so that there was room
for it. -/
theorem step (h : Within m steps broker) (move : Move) :
    Within m (steps ++ [⟨broker, move⟩]) (move.after broker) := by
  have haccounts := h.accounts.step move
  have htells : (move.after broker).store.Tells m.id fun kept => kept.content = m.content := by
    obtain ⟨change, hallowed, _, hstore⟩ := move.explained broker
    rw [Move.after, hstore]
    refine h.tells.apply hallowed h.accounts.sound.numbered ?_
    intro old kept _ _ htold hfate
    exact hfate.content_eq.trans htold
  refine ⟨haccounts, htells, ?_⟩
  cases hdelivers : Step.delivers ⟨broker, move⟩ m.id with
  | false =>
      rw [deliveries_append_singleton, hdelivers]
      exact h.takes_le
  | true =>
      -- Right after the delivery the row is coupled again, and its attempts leave room for the one
      -- delivery that is not counted yet.
      obtain ⟨old, _, hid, _, owner, hkept⟩ := Step.exists_of_delivers hdelivers
      have hbound := (haccounts.sound.coupled.messages _ hkept).takes_le
      have hattempts := haccounts.attempts_eq _ hkept hid
      have hout := haccounts.out_eq _ hkept hid
      rw [Message.maxAttempts_eq_of_content (htells.told _ hkept hid)] at hbound
      unfold Message.takes at hbound ⊢
      omega

end Within

/-- However a run goes on, a message is not delivered more often than it may be. -/
theorem takes_add_deliveries_le {broker : Broker} (h : broker.store.Sound) {m : Message}
    (hm : m ∈ broker.store.messages) (moves : List Move) :
    m.takes + deliveries (Broker.trace moves broker) m.id ≤ m.maxAttempts :=
  (Broker.play_invariant (Within m) (.opened h hm) (fun _ _ move h => h.step move) moves).takes_le

/-- However a run goes on, a message at its end is not delivered again. -/
theorem deliveries_of_isTerminal {broker : Broker} (h : broker.store.Sound) {m : Message}
    (hm : m ∈ broker.store.messages) (hterminal : m.state.isTerminal = true) (moves : List Move) :
    deliveries (Broker.trace moves broker) m.id = 0 := by
  have hplay := Broker.play_invariant
    (fun steps broker => broker.store.Sound ∧ (broker.store.Tells m.id fun kept => kept = m) ∧
      deliveries steps m.id = 0)
    ⟨h, h.numbered.tells hm rfl, rfl⟩ ?_ moves
  · exact hplay.2.2
  · rintro steps before move ⟨hsound, htells, hnone⟩
    refine ⟨Step.sound_after ⟨before, move⟩ hsound, ?_, ?_⟩
    · obtain ⟨change, hallowed, _, hstore⟩ := move.explained before
      rw [Move.after, hstore]
      refine htells.apply hallowed hsound.numbered ?_
      rintro old kept _ _ rfl hfate
      exact Change.eq_of_isTerminal hfate hterminal
    · rw [deliveries_append_singleton, hnone]
      cases hdelivers : Step.delivers ⟨before, move⟩ m.id with
      | false => rfl
      | true =>
          obtain ⟨old, hold, hid, hactive, _⟩ := Step.exists_of_delivers hdelivers
          rw [htells.told old hold hid] at hactive
          rw [hactive] at hterminal
          cases hterminal

/-- Between a delivery and the next delivery of the message there is exactly one return. -/
theorem returns_between {one : Step} (h : one.before.store.Sound) {id : MessageId}
    (hone : one.delivers id = true) (between : List Move) (second : Move)
    (htwo : Step.delivers ⟨Broker.play between one.after, second⟩ id = true)
    (hnone : deliveries (Broker.trace between one.after) id = 0) :
    returns (Broker.trace between one.after) id = 1 := by
  -- The account is opened with the message out, and the next delivery finds it back.
  obtain ⟨old, _, rfl, _, owner, htaken⟩ := Step.exists_of_delivers hone
  have haccounts : Accounts old.id old.attempts 1 [] one.after :=
    .opened (one.sound_after h) htaken
  obtain ⟨m, hm, hid, hactive, _⟩ := Step.exists_of_delivers htwo
  have hin : m.isOut = false := by simp [Message.isOut, Message.isTaken, hactive]
  have hout := (haccounts.play between).out_eq m hm hid
  rw [hnone, hin] at hout
  simpa using hout

namespace Broker

/-- After every run from the empty store, a message that is there was delivered as often as its
attempts say, and once more if it is taken or processed. However the run goes on, the message is
not delivered more often than it may be, and not at all once it is at its end. Between two
deliveries of a message there is exactly one return, by a step that undoes what its taker did. -/
theorem deliveries_accounted (broker : Broker) (moves : List Move) :
    let start := broker.emptied
    (∀ m ∈ (play moves start).store.messages,
      deliveries (trace moves start) m.id =
        m.attempts + (if m.isTaken ∨ m.state = .processed then 1 else 0) ∧
      (∀ later, deliveries (trace (moves ++ later) start) m.id ≤ m.maxAttempts) ∧
      (m.state.isTerminal = true →
        ∀ later, deliveries (trace later (play moves start)) m.id = 0)) ∧
    ∀ (first second : Move) (between : List Move) (id : MessageId),
      let one : Step := ⟨play moves start, first⟩
      let two : Step := ⟨play between one.after, second⟩
      one.delivers id = true → two.delivers id = true →
        deliveries (trace between one.after) id = 0 →
        returns (trace between one.after) id = 1 ∧
          ∀ step ∈ trace between one.after, step.returns id = true →
            ∃ m owner, step.before.store.message? id = some m ∧
              m.isHeldBy owner .pull = true ∧ step.Undoes owner := by
  have hsound := play_sound broker moves
  refine ⟨fun m hm => ⟨?_, ?_, ?_⟩, ?_⟩
  · have haccounts := (Accounts.emptied m.id broker).play moves
    have hattempts := haccounts.attempts_eq m hm rfl
    have hout := haccounts.out_eq m hm rfl
    simp only [Message.isOut, Bool.or_eq_true, decide_eq_true_eq] at hout
    omega
  · intro later
    have haccounts := (Accounts.emptied m.id broker).play moves
    have hattempts := haccounts.attempts_eq m hm rfl
    have hout := haccounts.out_eq m hm rfl
    have hbound := takes_add_deliveries_le hsound hm later
    rw [trace_append, deliveries, List.countP_append]
    unfold Message.takes at hbound
    unfold deliveries at hout hbound
    omega
  · intro hterminal later
    exact deliveries_of_isTerminal hsound hm hterminal later
  · intro first second between id one two hone htwo hnone
    refine ⟨returns_between hsound hone between second htwo hnone, ?_⟩
    intro step hstep hreturns
    have hafter : one.after.store.Sound := one.sound_after hsound
    exact step.undoes_of_returns (sound_of_mem_trace hafter hstep) hreturns

end Broker

end WorkQueue
