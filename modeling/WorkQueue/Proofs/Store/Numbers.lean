import WorkQueue.Proofs.Run.Outcomes
import Mathlib.Data.List.Pairwise

/-!
# Row numbers and row contents

Rows stand in ascending order of their numbers and no number is above the last one given out, so
that a row is known by its number, and a queue that is gone does not come back. What a message was
made with stays with it as long as it is there: changes touch its state, its owner, its attempts and
its close time only.
-/

namespace WorkQueue

/-- The rows are in ascending order of their numbers, and none is above the last number given
out. -/
structure Ascending {Row : Type} (number : Row → Nat) (last : Nat) (rows : List Row) : Prop where
  sorted : rows.Pairwise fun a b => number a < number b
  le_last : ∀ row ∈ rows, number row ≤ last

namespace Ascending

variable {Row : Type} {number : Row → Nat} {last : Nat} {rows : List Row}

/-- There are no rows at first. -/
theorem nil : Ascending number last [] :=
  ⟨List.Pairwise.nil, nofun⟩

/-- Rows may go, and rows may change as long as they keep their numbers. -/
theorem filterMap (h : Ascending number last rows) {after : Row → Option Row}
    (hafter : ∀ row kept, after row = some kept → number kept = number row) :
    Ascending number last (rows.filterMap after) where
  sorted := by
    refine h.sorted.filterMap after ?_
    intro a b hlt a' ha b' hb
    rw [hafter a a' ha, hafter b b' hb]
    exact hlt
  le_last := by
    intro row hrow
    obtain ⟨old, hold, hkept⟩ := List.mem_filterMap.1 hrow
    rw [hafter old row hkept]
    exact h.le_last old hold

/-- Rows may go. -/
theorem filter (h : Ascending number last rows) (keep : Row → Bool) :
    Ascending number last (rows.filter keep) where
  sorted := h.sorted.filter keep
  le_last row hrow := h.le_last row (List.mem_filter.1 hrow).1

/-- Rows may change as long as they keep their numbers. -/
theorem map (h : Ascending number last rows) {after : Row → Row}
    (hafter : ∀ row, number (after row) = number row) : Ascending number last (rows.map after) := by
  rw [← List.filterMap_eq_map]
  refine h.filterMap ?_
  rintro row kept ⟨⟩
  exact hafter row

/-- A row with the next number may come. -/
theorem append (h : Ascending number last rows) {row : Row} (hrow : number row = last + 1) :
    Ascending number (last + 1) (rows ++ [row]) where
  sorted := by
    refine List.pairwise_append.2 ⟨h.sorted, List.pairwise_singleton _ _, ?_⟩
    intro a ha b hb
    rw [List.mem_singleton.1 hb, hrow]
    exact Nat.lt_succ_of_le (h.le_last a ha)
  le_last := by
    intro a ha
    rcases List.mem_append.1 ha with ha | ha
    · exact Nat.le_succ_of_le (h.le_last a ha)
    · exact Nat.le_of_eq (by rw [List.mem_singleton.1 ha, hrow])

/-- A row is known by its number. -/
theorem eq_of_number_eq (h : Ascending number last rows) {a b : Row} (ha : a ∈ rows)
    (hb : b ∈ rows) (hab : number a = number b) : a = b := by
  have hdistinct : rows.Pairwise fun a b => number a ≠ number b :=
    h.sorted.imp fun hlt => Nat.ne_of_lt hlt
  -- Two rows at different places differ in their numbers, whichever of them comes first.
  have : Std.Symm fun a b : Row => number a ≠ number b := ⟨fun _ _ hne => hne.symm⟩
  by_contra hne
  exact hdistinct.forall ha hb hne hab

/-- Names that tell the numbers of rows are given once. -/
theorem nodup_map (h : Ascending number last rows) {Name : Type} {name : Row → Name}
    (hname : ∀ a b, name a = name b → number a = number b) : (rows.map name).Nodup :=
  List.pairwise_map.2 (h.sorted.imp fun hlt hsame => Nat.ne_of_lt hlt (hname _ _ hsame))

end Ascending

namespace Store

/-- The rows of all kinds are in ascending order of their numbers, which were given out. -/
structure Numbered (store : Store) : Prop where
  queues : Ascending (fun q : Queue => q.id.value) store.lastQueue store.queues
  transactions :
    Ascending (fun t : Transaction => t.id.value) store.lastTransaction store.transactions
  messages : Ascending (fun m : Message => m.id.value) store.lastMessage store.messages

/-- The empty store is numbered. -/
theorem numbered_empty : Numbered {} :=
  ⟨.nil, .nil, .nil⟩

namespace Numbered

variable {store : Store} (h : store.Numbered)
include h

/-- Two messages with one number are one message. -/
theorem message_eq {a b : Message} (ha : a ∈ store.messages) (hb : b ∈ store.messages)
    (hab : a.id = b.id) : a = b :=
  h.messages.eq_of_number_eq ha hb (congrArg MessageId.value hab)

/-- Two transactions with one number are one transaction. -/
theorem transaction_eq {a b : Transaction} (ha : a ∈ store.transactions)
    (hb : b ∈ store.transactions) (hab : a.id = b.id) : a = b :=
  h.transactions.eq_of_number_eq ha hb (congrArg TransactionId.value hab)

/-- A transaction is found by its number. -/
theorem transaction?_eq {t : Transaction} (ht : t ∈ store.transactions) :
    store.transaction? t.id = some t := by
  cases hfind : store.transaction? t.id with
  | none => exact absurd (List.find?_eq_none.1 hfind t ht) (by simp)
  | some found =>
      obtain ⟨hfound, hid⟩ := transaction?_eq_some hfind
      exact congrArg some (h.transaction_eq hfound ht hid)

/-- Whether a transaction that is there has expired is seen from its row. -/
theorem hasExpired_eq {t : Transaction} (ht : t ∈ store.transactions) :
    store.hasExpired t.id = decide (t.state = .expired) := by
  rw [hasExpired, Bool.eq_iff_iff, List.any_eq_true, decide_eq_true_eq]
  constructor
  · rintro ⟨found, hfound, hexpired⟩
    rw [Bool.and_eq_true, decide_eq_true_eq, decide_eq_true_eq] at hexpired
    rw [← h.transaction_eq hfound ht hexpired.1]
    exact hexpired.2
  · intro hexpired
    exact ⟨t, ht, by simp [hexpired]⟩

/-- A message is found by its number. -/
theorem message?_eq {m : Message} (hm : m ∈ store.messages) : store.message? m.id = some m := by
  cases hfind : store.message? m.id with
  | none => exact absurd (List.find?_eq_none.1 hfind m hm) (by simp)
  | some found =>
      obtain ⟨hfound, hid⟩ := message?_eq_some hfind
      exact congrArg some (h.message_eq hfound hm hid)

end Numbered

end Store

namespace Message

/-- What a message was made with: all but its state, its owner, its attempts and its close time,
which are blotted out. -/
def content (m : Message) : Message :=
  { m with owner := none, action := none, state := .active, closeTime := none, attempts := 0 }

/-- Nobody holds a message that was given back. -/
theorem owner_giveBack (m : Message) (now : Instant) : (m.giveBack now).owner = none := by
  unfold giveBack
  split <;> rfl

/-- Nobody does anything with a message that was given back. -/
theorem action_giveBack (m : Message) (now : Instant) : (m.giveBack now).action = none := by
  unfold giveBack
  split <;> rfl

/-- Giving a message back does not touch what it was made with. -/
theorem content_giveBack (m : Message) (now : Instant) : (m.giveBack now).content = m.content := by
  unfold giveBack
  split <;> rfl

variable {a b : Message} (h : a.content = b.content)
include h

/-- Messages of one content have one number. -/
theorem id_eq_of_content : a.id = b.id := by
  show a.content.id = b.content.id
  rw [h]

/-- Messages of one content are in one queue. -/
theorem queue_eq_of_content : a.queue = b.queue := by
  show a.content.queue = b.content.queue
  rw [h]

/-- Messages of one content live equally long. -/
theorem expiryTime_eq_of_content : a.expiryTime = b.expiryTime := by
  show a.content.expiryTime = b.content.expiryTime
  rw [h]

/-- Messages of one content may be given back equally often. -/
theorem maxAttempts_eq_of_content : a.maxAttempts = b.maxAttempts := by
  show a.content.maxAttempts = b.content.maxAttempts
  rw [h]

end Message

namespace Change

variable {change : Change} {store : Store}

/-- What a message was made with outlasts every change. -/
theorem content_messageAfter {m kept : Message} (h : change.messageAfter store m = some kept) :
    kept.content = m.content := by
  unfold messageAfter at h
  split at h
  all_goals (try split at h) <;> (try split at h)
  all_goals cases h
  all_goals first | rfl | exact m.content_giveBack _

/-- What a transaction is known by outlasts every change. -/
theorem id_transactionAfter (change : Change) (t : Transaction) :
    (change.transactionAfter t).id = t.id := by
  unfold transactionAfter
  split <;> (try split) <;> rfl

/-- A message after a change was there before it or is new. -/
theorem mem_messages_apply {m : Message} :
    m ∈ (change.apply store).messages ↔
      (∃ old ∈ store.messages, change.messageAfter store old = some m) ∨
        m ∈ change.newMessages store := by
  simp only [apply, List.mem_append, List.mem_filterMap]

/-- A transaction after a change was there before it or is new. -/
theorem mem_transactions_apply {t : Transaction} :
    t ∈ (change.apply store).transactions ↔
      (∃ old ∈ store.transactions, change.transactionAfter old = t) ∨
        t ∈ change.newTransactions store := by
  simp only [apply, List.mem_append, List.mem_map]

/-- A queue after a change was there before it or is new. -/
theorem mem_queues_apply {queue : Queue} :
    queue ∈ (change.apply store).queues ↔
      (queue ∈ store.queues ∧ change.keepsQueue queue = true) ∨
        queue ∈ change.newQueues store := by
  simp only [apply, List.mem_append, List.mem_filter]

/-- Every change leaves the rows numbered. -/
theorem numbered_apply (change : Change) (h : store.Numbered) :
    (change.apply store).Numbered where
  queues := by
    have hkept := h.queues.filter change.keepsQueue
    cases change with
    | addQueue name => exact hkept.append rfl
    | _ => simpa [apply, newQueues] using hkept
  transactions := by
    have hkept := h.transactions.map
      fun t => congrArg TransactionId.value (change.id_transactionAfter t)
    cases change with
    | start now expiry => exact hkept.append rfl
    | _ => simpa [apply, newTransactions] using hkept
  messages := by
    have hkept : Ascending (fun m : Message => m.id.value) store.lastMessage
        (store.messages.filterMap (change.messageAfter store)) :=
      h.messages.filterMap fun m kept hm =>
        congrArg MessageId.value (Message.id_eq_of_content (content_messageAfter hm))
    cases change with
    | add draft => exact hkept.append rfl
    | _ => simpa [apply, newMessages] using hkept

/-- A transaction that is found is found after every change, as the change leaves it. -/
theorem transaction?_apply (change : Change) (hnumbered : store.Numbered) {id : TransactionId}
    {t : Transaction} (hfind : store.transaction? id = some t) :
    (change.apply store).transaction? id = some (change.transactionAfter t) := by
  obtain ⟨ht, rfl⟩ := Store.transaction?_eq_some hfind
  rw [← change.id_transactionAfter t]
  exact (change.numbered_apply hnumbered).transaction?_eq
    (mem_transactions_apply.2 (.inl ⟨t, ht, rfl⟩))

end Change

namespace Store

variable {store : Store} {queue : QueueId}

/-- Was there a queue with the number that is not there any more? -/
def HasLost (store : Store) (queue : QueueId) : Prop :=
  queue.value ≤ store.lastQueue ∧ store.queue? queue = none

/-- A queue that is not there any more does not come back. -/
theorem HasLost.apply (change : Change) (hlost : store.HasLost queue) :
    (change.apply store).HasLost queue := by
  obtain ⟨hnumber, hnone⟩ := hlost
  refine ⟨Nat.le_add_right_of_le hnumber, List.find?_eq_none.2 fun row hrow => ?_⟩
  rcases Change.mem_queues_apply.1 hrow with ⟨hold, _⟩ | hnew
  · exact List.find?_eq_none.1 hnone row hold
  · cases change with
    | addQueue name =>
        obtain rfl := List.mem_singleton.1 hnew
        simp only [decide_eq_true_eq]
        rintro rfl
        simp only at hnumber
        omega
    | _ => cases hnew

/-- A queue that is dropped is lost. -/
theorem Numbered.hasLost_dropQueue (hnumbered : store.Numbered)
    (hallowed : (Change.dropQueue queue).Allowed store) :
    ((Change.dropQueue queue).apply store).HasLost queue := by
  obtain ⟨row, hrow⟩ := Option.isSome_iff_exists.1 hallowed
  obtain ⟨hmem, rfl⟩ := queue?_eq_some hrow
  refine ⟨hnumbered.queues.le_last row hmem, List.find?_eq_none.2 fun other hother => ?_⟩
  rcases Change.mem_queues_apply.1 hother with ⟨_, hkept⟩ | hnew
  · simpa [Change.keepsQueue] using hkept
  · cases hnew

end Store

end WorkQueue
