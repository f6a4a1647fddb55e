import WorkQueue.Proofs.Statements.Writes
import WorkQueue.Proofs.Sweep.Exactness
import WorkQueue.Proofs.Time.StoredForm

/-!
# Statements by the order of time

The tables know instants as texts and compare them byte by byte. What a statement would do if it
compared the instants themselves is said beside that: transactions expire that are over, messages
that are over are closed or passed by, and the message that is taken is the first of the ranking.
As long as all instants that are compared are in the years from 0 to 9999, statements answer the
same and leave the same rows, one after the other, whatever they are.
-/

namespace WorkQueue

namespace Store

/-! ## What statements do by the order of time -/

/-- Close the active transactions that are over, and count them. -/
def expireTransactionsByTime (now : Instant) : Store → Nat × Store :=
  updateTransactions (fun t => t.isActive && t.isExpiredAt now)
    fun t => t.close .expired now expiredReason

/-- Take the first message of the ranking from a queue. The transaction that takes it has to be
there. -/
def claimMessageByTime (queue : QueueId) (owner : TransactionId) (now : Instant) :
    Work (Option Message) := do
  let store ← get
  match (store.ranked queue now).head? with
  | none => pure none
  | some next =>
      if (store.transaction? owner).isNone then throw (.storage .missingReference)
      set (store.updateMessages (fun m => m.id = next.id) fun m => m.take owner).2
      pure (some (next.take owner))

/-- Close the active messages whose own lifetime is over, and count them. -/
def expireMessagesByTime (now : Instant) : Store → Nat × Store :=
  updateMessages (fun m => m.state = .active && m.isExpiredAt now) fun m => m.close .expired now

end Store

namespace Statement

/-- What a statement does, and replies, if it compares instants as instants. -/
def effectByTime : (statement : Statement) → Work statement.Reply
  | .expireTransactions now => modifyGet (Store.expireTransactionsByTime now)
  | .peekMessage queue now => do pure ((← get).ranked queue now).head?
  | .claimMessage queue owner now => Store.claimMessageByTime queue owner now
  | .expireMessages now => modifyGet (Store.expireMessagesByTime now)
  | statement => statement.effect

/-- The work of a statement if it compares instants as instants. -/
def workByTime (statement : Statement) : Work Answer :=
  statement.told <$> statement.effectByTime

/-- Can the instants be stored that the statement compares, and those that it puts where they are
compared? -/
def Storable : Statement → Prop
  | .insertTransaction _ expiryTime | .setTransactionExpiry _ expiryTime => expiryTime.Storable
  | .insertMessage draft =>
      draft.addTime.Storable ∧ ∀ expiry ∈ draft.expiryTime, expiry.Storable
  | .expireTransactions now | .peekMessage _ now | .claimMessage _ _ now | .expireMessages now =>
      now.Storable
  | _ => True

/-- Whether the instants of a statement can be stored is decided one by one. -/
instance : (statement : Statement) → Decidable statement.Storable
  | .insertTransaction _ expiryTime | .setTransactionExpiry _ expiryTime =>
      inferInstanceAs (Decidable expiryTime.Storable)
  | .insertMessage draft =>
      inferInstanceAs (Decidable (_ ∧ ∀ expiry ∈ draft.expiryTime, expiry.Storable))
  | .expireTransactions now | .peekMessage _ now | .claimMessage _ _ now | .expireMessages now =>
      inferInstanceAs (Decidable now.Storable)
  | .insertQueue _ | .findQueue _ | .findQueueNamed _ | .listQueues | .deleteQueue _
  | .findTransaction _ | .closeTransaction _ _ _ _ | .findMessage _ | .transitionOwned _ _ _ _
  | .discardOwned _ _ | .returnOwned _ _ | .countMessages _ _ | .messageStats _
  | .discardOrphanedAdds | .returnOrphanedPulls _ | .closeExhaustedMessages _ =>
      inferInstanceAs (Decidable True)

end Statement

/-- Run statements one after the other, each comparing instants as instants. -/
def runByTime : List Statement → Store → List (Except Error Answer) × Store
  | [], store => ([], store)
  | statement :: rest, store =>
      let (answer, store) := statement.workByTime.finish store
      let (answers, store) := runByTime rest store
      (answer :: answers, store)

/-! ## The same by both orders -/

namespace Store

variable {store : Store}

/-- Conditions that select the same transactions change the same. -/
theorem updateTransactions_congr {selected other : Transaction → Bool}
    {change : Transaction → Transaction}
    (h : ∀ t ∈ store.transactions, selected t = other t) :
    store.updateTransactions selected change = store.updateTransactions other change := by
  have hcount : store.transactions.countP selected = store.transactions.countP other :=
    List.countP_congr fun t ht => by rw [h t ht]
  have hrows : (store.transactions.map fun t => if selected t then change t else t) =
      store.transactions.map fun t => if other t then change t else t :=
    List.map_congr_left fun t ht => by rw [h t ht]
  rw [updateTransactions, updateTransactions, hcount, hrows]

/-- Conditions that select the same messages change the same. -/
theorem updateMessages_congr {selected other : Message → Bool} {change : Message → Message}
    (h : ∀ m ∈ store.messages, selected m = other m) :
    store.updateMessages selected change = store.updateMessages other change := by
  have hcount : store.messages.countP selected = store.messages.countP other :=
    List.countP_congr fun m hm => by rw [h m hm]
  have hrows : (store.messages.map fun m => if selected m then change m else m) =
      store.messages.map fun m => if other m then change m else m :=
    List.map_congr_left fun m hm => by rw [h m hm]
  rw [updateMessages, updateMessages, hcount, hrows]

end Store

namespace Store.Storable

variable {store : Store} {now : Instant} (h : store.Storable)
include h

/-- The transactions expire that are over. -/
theorem expireTransactions_eq (hnow : now.Storable) :
    store.expireTransactions now = store.expireTransactionsByTime now :=
  updateTransactions_congr fun t ht => by
    rw [Transaction.storedLe_eq_isExpiredAt (h.transactions t ht) hnow]

/-- The messages are closed whose own lifetime is over. -/
theorem expireMessages_eq (hnow : now.Storable) :
    store.expireMessages now = store.expireMessagesByTime now :=
  updateMessages_congr fun m hm => by
    rw [Message.lifetimePassed_eq_isExpiredAt (h.messages m hm) hnow]

/-- The next message is the first of the ranking. -/
theorem nextMessage?_eq (hnow : now.Storable) (hnumbered : store.Numbered) (queue : QueueId) :
    store.nextMessage? queue now = (store.ranked queue now).head? :=
  nextMessage?_eq_head? hnumbered h.messages hnow.2.2 hnow.2.1

/-! ## Instants that stay in the range -/

/-- Messages may change if they keep the instants that are compared. -/
theorem updateMessages {selected : Message → Bool} {change : Message → Message}
    (hadd : ∀ m, (change m).addTime = m.addTime)
    (hexpiry : ∀ m, (change m).expiryTime = m.expiryTime) :
    (store.updateMessages selected change).2.Storable where
  messages kept hkept := by
    obtain ⟨m, hm, rfl⟩ := List.mem_map.1 hkept
    have hold := h.messages m hm
    split
    · exact ⟨hadd m ▸ hold.addTime, hexpiry m ▸ hold.expiryTime⟩
    · exact hold
  transactions := h.transactions

/-- Messages may go. -/
theorem removeMessages (selected : Message → Bool) :
    (store.removeMessages selected).2.Storable where
  messages m hm := h.messages m (List.mem_filter.1 hm).1
  transactions := h.transactions

/-- Messages may be given back. -/
theorem giveBack (selected : Message → Bool) (now : Instant) :
    (store.giveBack selected now).2.Storable := by
  have hexhausted : (store.updateMessages (fun m => selected m && m.isLastAttempt)
      fun m => m.exhaust now).2.Storable := h.updateMessages (fun _ => rfl) fun _ => rfl
  exact hexhausted.updateMessages (fun _ => rfl) fun _ => rfl

/-- Transactions may change if their lifetimes still end in the range. -/
theorem updateTransactions {selected : Transaction → Bool} {change : Transaction → Transaction}
    (hchange : ∀ t, t.expiryTime.Storable → (change t).expiryTime.Storable) :
    (store.updateTransactions selected change).2.Storable where
  messages := h.messages
  transactions kept hkept := by
    obtain ⟨t, ht, rfl⟩ := List.mem_map.1 hkept
    split
    · exact hchange t (h.transactions t ht)
    · exact h.transactions t ht

end Store.Storable

/-! ## One statement -/

namespace Statement

variable {store : Store}

/-- A statement does by the order of the texts what it does by the order of time. -/
theorem effect_eq_byTime (statement : Statement) (hstatement : statement.Storable)
    (hnumbered : store.Numbered) (hstore : store.Storable) :
    statement.effect.run store = statement.effectByTime.run store := by
  cases statement with
  | expireTransactions now => exact congrArg Except.ok (hstore.expireTransactions_eq hstatement)
  | expireMessages now => exact congrArg Except.ok (hstore.expireMessages_eq hstatement)
  | peekMessage queue now =>
      have hnext := hstore.nextMessage?_eq hstatement hnumbered queue
      exact congrArg (fun next => Except.ok (next, store)) hnext
  | claimMessage queue owner now =>
      have hnext := hstore.nextMessage?_eq hstatement hnumbered queue
      show (Store.claimMessage queue owner now).run store =
        (Store.claimMessageByTime queue owner now).run store
      rw [Store.claimMessage, Store.claimMessageByTime, Work.run_get_bind, Work.run_get_bind]
      exact hnext ▸ rfl
  | _ => rfl

/-- A statement whose instants are in the range leaves all instants that are compared in it. -/
theorem storable_effect (statement : Statement) (hstatement : statement.Storable)
    {changed : Store} {reply : statement.Reply} (h : store.Storable)
    (hrun : statement.effect.run store = .ok (reply, changed)) : changed.Storable := by
  cases statement with
  | findQueue | findQueueNamed | listQueues | findTransaction | findMessage | peekMessage
  | countMessages | messageStats => cases hrun; exact h
  | deleteQueue id =>
      cases hrun
      exact ⟨(h.removeMessages _).messages, h.transactions⟩
  | setTransactionExpiry id expiry => cases hrun; exact h.updateTransactions fun _ _ => hstatement
  | closeTransaction | expireTransactions => cases hrun; exact h.updateTransactions fun _ ht => ht
  | discardOwned | discardOrphanedAdds => cases hrun; exact h.removeMessages _
  | returnOwned | returnOrphanedPulls => cases hrun; exact h.giveBack _ _
  | expireMessages | closeExhaustedMessages =>
      cases hrun
      exact h.updateMessages (fun _ => rfl) fun _ => rfl
  | insertQueue name =>
      rcases Work.run_insertQueue name with ⟨error, herror⟩ | ⟨_, hadded⟩
      · cases hrun.symm.trans herror
      · cases hrun.symm.trans hadded
        rw [Change.apply_of_no_loss (fun _ => rfl) (fun _ => rfl) fun _ => rfl]
        exact ⟨by simpa [Change.newMessages] using h.messages,
          by simpa [Change.newTransactions] using h.transactions⟩
  | insertTransaction start expiry =>
      rcases Work.run_insertTransaction expiry with ⟨error, herror⟩ | ⟨_, hadded⟩
      · cases hrun.symm.trans herror
      · cases hrun.symm.trans hadded
        rw [Change.apply_of_no_loss (fun _ => rfl) (fun _ => rfl) fun _ => rfl]
        refine ⟨by simpa [Change.newMessages] using h.messages, fun t ht => ?_⟩
        rcases List.mem_append.1 ht with hold | hnew
        · exact h.transactions t hold
        · exact List.mem_singleton.1 hnew ▸ hstatement
  | insertMessage draft =>
      rcases Work.run_insertMessage_cases store draft with ⟨error, herror⟩ | ⟨_, _, hadded⟩
      · cases hrun.symm.trans herror
      · cases hrun.symm.trans hadded
        refine ⟨fun m hm => ?_, h.transactions⟩
        rcases List.mem_append.1 hm with hold | hnew
        · exact h.messages m hold
        · exact List.mem_singleton.1 hnew ▸ ⟨hstatement.1, hstatement.2⟩
  | claimMessage queue owner now =>
      rcases Work.run_claimMessage_cases store queue owner now with
        ⟨_, hnone⟩ | ⟨_, _, ⟨_, herror⟩ | ⟨_, htaken⟩⟩
      · cases hrun.symm.trans hnone
        exact h
      · cases hrun.symm.trans herror
      · cases hrun.symm.trans htaken
        exact h.updateMessages (fun _ => rfl) fun _ => rfl
  | transitionOwned owner action target instant =>
      by_cases htarget : target = .inTransaction
      · subst htarget
        have hmoved := Work.run_transitionOwned_inTransaction store owner action instant
        split at hmoved
        · cases hrun.symm.trans hmoved
          exact h.updateMessages (fun _ => rfl) fun _ => rfl
        · cases hrun.symm.trans hmoved
      · cases hrun.symm.trans (Work.run_transitionOwned htarget)
        exact h.updateMessages (fun _ => rfl) fun _ => rfl

/-- A statement answers the same by both orders, and leaves the same rows. -/
theorem finish_eq_byTime (statement : Statement) (hstatement : statement.Storable)
    (hnumbered : store.Numbered) (hstore : store.Storable) :
    statement.work.finish store = statement.workByTime.finish store := by
  have hrun : statement.work.run store = statement.workByTime.run store := by
    rw [work_eq, workByTime, StateT.run_map, StateT.run_map,
      statement.effect_eq_byTime hstatement hnumbered hstore]
  rw [Work.finish, Work.finish, hrun]

/-- A statement keeps the rules of the tables, and the instants in the range, made or not. -/
theorem keeps_finish (statement : Statement) (hstatement : statement.Storable)
    (hlawful : store.Lawful) (hstore : store.Storable) :
    (statement.work.finish store).2.Lawful ∧ (statement.work.finish store).2.Storable := by
  cases hrun : statement.effect.run store with
  | error error =>
      rw [finish_of_error hrun]
      exact ⟨hlawful, hstore⟩
  | ok made =>
      rw [finish_of_ok hrun]
      exact ⟨statement.lawful_effect hlawful hrun, statement.storable_effect hstatement hstore hrun⟩

end Statement

/-! ## Statements one after the other -/

/-- Statements whose instants are in the range answer the same by both orders and leave the same
rows, which keep the rules of the tables and have their instants in the range again. -/
theorem runStatements_eq_runByTime {statements : List Statement} {store : Store}
    (hlawful : store.Lawful) (hstore : store.Storable)
    (hstatements : ∀ statement ∈ statements, statement.Storable) :
    runStatements statements store = runByTime statements store ∧
      (runStatements statements store).2.Lawful ∧ (runStatements statements store).2.Storable := by
  induction statements generalizing store with
  | nil => exact ⟨rfl, hlawful, hstore⟩
  | cons statement rest ih =>
      obtain ⟨hfirst, hrest⟩ := List.forall_mem_cons.1 hstatements
      obtain ⟨hlawful', hstore'⟩ := statement.keeps_finish hfirst hlawful hstore
      obtain ⟨hsame, hkept⟩ := ih hlawful' hstore' hrest
      have hstep := statement.finish_eq_byTime hfirst hlawful.numbered hstore
      rw [hstep] at hsame
      refine ⟨?_, hkept⟩
      simp only [runStatements, runByTime, hstep, hsame]

/-- Stored instants sort as instants. In the years from 0 to 9999 the form `YYYY-MM-DDTHH:MM:SS`,
the shortest exact fraction of a second, `+00:00` gives each instant one text, which is what is
stored of it. Byte by byte these texts are in the order of the instants, and instants have one text
only if they are one. The bytes are what the store compares: so all that statements answer and
leave, where lifetimes end and where messages are taken in the order in which they were added, is
what they would if they compared the instants themselves. -/
theorem stored_instants_sort :
    (∀ (t : Instant) (text : List Char), t.StoredAs text ↔ t.Storable ∧ text = t.stored) ∧
      (∀ a b : Instant, a.Storable → b.Storable →
        (a ≤ b ↔ a.storedBytes ≤ b.storedBytes) ∧ (a.stored = b.stored ↔ a = b)) ∧
      (∀ a b : Instant, (a.storedLe b = true ↔ a.storedBytes ≤ b.storedBytes) ∧
        (a.storedLt b = true ↔ a.storedBytes < b.storedBytes)) ∧
      ∀ (statements : List Statement) (store : Store), store.Lawful → store.Storable →
        (∀ statement ∈ statements, statement.Storable) →
        runStatements statements store = runByTime statements store ∧
          (runStatements statements store).2.Lawful ∧
          (runStatements statements store).2.Storable :=
  ⟨fun _ _ => Instant.storedAs_iff,
    fun _ _ ha hb => ⟨(Instant.storedLe_iff ha hb).symm.trans Instant.storedLe_iff_storedBytes,
      Instant.stored_eq_iff ha hb⟩,
    fun _ _ => ⟨Instant.storedLe_iff_storedBytes, Instant.storedLt_iff_storedBytes⟩,
    fun _ _ => runStatements_eq_runByTime⟩

/-- Statements around the end of a leap day. Of two messages that were added in its last second the
one that is stored first was added half a second after the other, and the other's lifetime ends a
microsecond after midnight. -/
def aroundMidnight : List Statement :=
  let draft (addTime : Instant) (expiryTime : Option Instant) : MessageDraft :=
    { queue := ⟨1⟩, owner := ⟨1⟩, addTime, priority := 0, maxAttempts := 3, expiryTime,
      correlation := 0, group := none, metadata := "", payload := [] }
  [.insertQueue ⟨"q"⟩, .insertTransaction ⟨1709251199, 0⟩ ⟨1709251200, 0⟩,
    .insertMessage (draft ⟨1709251199, 500_000_000⟩ none),
    .insertMessage (draft ⟨1709251199, 0⟩ (some ⟨1709251200, 1_000⟩)),
    .transitionOwned ⟨1⟩ .add .active ⟨1709251199, 500_000_000⟩,
    .expireTransactions ⟨1709251199, 999_999_999⟩, .peekMessage ⟨1⟩ ⟨1709251200, 0⟩,
    .expireTransactions ⟨1709251200, 0⟩, .expireMessages ⟨1709251200, 999⟩,
    .expireMessages ⟨1709251200, 1_001⟩, .peekMessage ⟨1⟩ ⟨1709251200, 1_001⟩]

/-- The last nanosecond of the leap day is stored before midnight, although its text is longer. The
transaction expires at midnight and not before; the message that was added first is taken first,
until its lifetime ends. -/
theorem stored_instants_sort_aroundMidnight :
    let last : Instant := ⟨1709251199, 999_999_999⟩
    let midnight : Instant := ⟨1709251200, 0⟩
    let numbers (answers : List (Except Error Answer)) : List Nat :=
      answers.filterMap fun
        | .ok (.count rows) => some rows
        | .ok (.message (some m)) => some m.id.value
        | _ => none
    last.StoredAs "2024-02-29T23:59:59.999999999+00:00".toList ∧
      midnight.StoredAs "2024-03-01T00:00:00+00:00".toList ∧
      last.storedBytes ≤ midnight.storedBytes ∧ last.stored ≠ midnight.stored ∧
      (last.storedLe midnight = true ↔ last.storedBytes ≤ midnight.storedBytes) ∧
      runStatements aroundMidnight {} = runByTime aroundMidnight {} ∧
      numbers (runByTime aroundMidnight {}).1 = [2, 0, 2, 1, 0, 1, 1] := by
  intro last midnight numbers
  obtain ⟨hform, hsort, hcompare, hrun⟩ := stored_instants_sort
  have hlast : last.Storable := by decide +kernel
  have hmidnight : midnight.Storable := by decide +kernel
  obtain ⟨horder, hsame⟩ := hsort last midnight hlast hmidnight
  obtain ⟨hruns, _⟩ := hrun aroundMidnight {} Store.proper_empty.valid.lawful (by decide +kernel)
    (by decide +kernel)
  refine ⟨(hform _ _).2 ⟨hlast, by decide +kernel⟩, (hform _ _).2 ⟨hmidnight, by decide +kernel⟩,
    horder.1 (by decide), fun heq => absurd (hsame.1 heq) (by decide), (hcompare _ _).1, hruns, ?_⟩
  rw [← hruns]
  decide +kernel

end WorkQueue
