import Mathlib.Data.List.Nodup
import WorkQueue.Proofs.Store.Numbers
import WorkQueue.Proofs.Time.StoredOrder

/-!
# The order in which messages are taken

The messages that can be taken from a queue, ranked: higher priorities first, then those that were
added earlier, then lower numbers, with instants compared as instants. In a store whose instants can
be stored, the next message is the first of these, and once the first so many of them have been
taken, the others are ranked as they were.
-/

namespace WorkQueue

namespace Message

/-- Is the first message to be taken before the second? -/
def Outranks (a b : Message) : Prop :=
  b.priority < a.priority ∨
    a.priority = b.priority ∧
      (¬ b.addTime ≤ a.addTime ∨ a.addTime = b.addTime ∧ a.id.value < b.id.value)

/-- Which of two messages comes first is decided by comparing their fields. -/
instance (a b : Message) : Decidable (a.Outranks b) :=
  inferInstanceAs (Decidable (_ ∨ _))

/-- Is the message in the queue, active, with attempts left and within its lifetime? -/
def isAvailable (m : Message) (queue : QueueId) (now : Instant) : Bool :=
  m.queue = queue && m.state = .active && m.attempts < m.maxAttempts &&
    !m.expiryTime.any fun expiry => decide (expiry ≤ now)

/-- Can the message's instants be stored? -/
structure Storable (m : Message) : Prop where
  addTime : m.addTime.Storable
  expiryTime : ∀ expiry, m.expiryTime = some expiry → expiry.Storable

/-- Whether a message's instants can be stored is decided one by one. -/
instance (m : Message) : Decidable m.Storable :=
  decidable_of_iff (m.addTime.Storable ∧ ∀ expiry ∈ m.expiryTime, expiry.Storable)
    ⟨fun h => ⟨h.1, h.2⟩, fun h => ⟨h.addTime, h.expiryTime⟩⟩

variable {a b c m : Message} {queue : QueueId} {now : Instant}

/-- Among messages with storable instants the order of the store is the ranking. -/
theorem precedes_iff (ha : a.Storable) (hb : b.Storable) : a.precedes b = true ↔ a.Outranks b := by
  simp only [precedes, Outranks, Bool.or_eq_true, Bool.and_eq_true, decide_eq_true_eq,
    Instant.storedLt_iff ha.addTime hb.addTime, Instant.stored_eq_iff ha.addTime hb.addTime]

/-- Storable messages are eligible when they are available. -/
theorem isEligible_eq (hm : m.Storable) (hclock : now.WellFormed) (hyear : now.date.year ≤ 9999) :
    m.isEligible queue now = m.isAvailable queue now := by
  unfold isEligible isAvailable lifetimePassed
  cases hexpiry : m.expiryTime with
  | none => rfl
  | some expiry =>
      have hpassed := Instant.storedLe_iff_of_year_le (hm.expiryTime expiry hexpiry) hclock hyear
      simp only [Option.any_some, Bool.eq_iff_iff.2 (hpassed.trans decide_eq_true_iff.symm)]

/-- The ranking compares numbers, one after the other. -/
theorem outranks_iff :
    a.Outranks b ↔ b.priority < a.priority ∨ a.priority = b.priority ∧
      (a.addTime.second < b.addTime.second ∨ a.addTime.second = b.addTime.second ∧
        (a.addTime.nano < b.addTime.nano ∨
          a.addTime.nano = b.addTime.nano ∧ a.id.value < b.id.value)) := by
  have hsame : a.addTime = b.addTime ↔
      a.addTime.second = b.addTime.second ∧ a.addTime.nano = b.addTime.nano := by
    cases a.addTime
    cases b.addTime
    exact Instant.mk.injEq .. ▸ Iff.rfl
  rw [Outranks, hsame, Instant.le_iff]
  omega

/-- Not to be outranked is transitive. -/
theorem not_outranks_trans (hab : ¬ b.Outranks a) (hbc : ¬ c.Outranks b) : ¬ c.Outranks a := by
  rw [outranks_iff] at *
  omega

/-- Of two messages one does not outrank the other. -/
theorem not_outranks_total (a b : Message) : ¬ b.Outranks a ∨ ¬ a.Outranks b := by
  rw [outranks_iff, outranks_iff]
  omega

/-- Messages of which none outranks the other have one number. -/
theorem id_eq_of_not_outranks (hab : ¬ b.Outranks a) (hba : ¬ a.Outranks b) : a.id = b.id := by
  have hvalue : a.id.value = b.id.value := by
    rw [outranks_iff] at *
    omega
  exact congrArg MessageId.mk hvalue

/-- Of two messages with numbers of their own one outranks the other. -/
theorem outranks_of_not_outranks (hid : a.id ≠ b.id) (h : ¬ b.Outranks a) : a.Outranks b := by
  by_contra hnot
  exact hid (id_eq_of_not_outranks h hnot)

end Message

/-- Messages in the order in which they are to be taken. -/
def rankMessages (messages : List Message) : List Message :=
  messages.mergeSort fun a b => !decide (b.Outranks a)

/-- Ranking keeps the messages. -/
theorem rankMessages_perm (messages : List Message) : (rankMessages messages).Perm messages :=
  List.mergeSort_perm _ _

/-- No message is ranked behind one that it outranks. -/
theorem pairwise_rankMessages (messages : List Message) :
    (rankMessages messages).Pairwise fun a b => ¬ b.Outranks a := by
  have htrans (a b c : Message) (hab : (!decide (b.Outranks a)) = true)
      (hbc : (!decide (c.Outranks b)) = true) : (!decide (c.Outranks a)) = true := by
    simp only [Bool.not_eq_true', decide_eq_false_iff_not] at *
    exact Message.not_outranks_trans hab hbc
  have htotal (a b : Message) : (!decide (b.Outranks a) || !decide (a.Outranks b)) = true := by
    simp only [Bool.or_eq_true, Bool.not_eq_true', decide_eq_false_iff_not]
    exact Message.not_outranks_total a b
  exact (List.pairwise_mergeSort htrans htotal messages).imp fun h => by simpa using h

/-- Messages with numbers of their own that stand in their order are ranked. -/
theorem eq_rankMessages {messages ranked : List Message} (hperm : ranked.Perm messages)
    (hdistinct : ∀ a ∈ messages, ∀ b ∈ messages, a.id = b.id → a = b)
    (hsorted : ranked.Pairwise fun a b => ¬ b.Outranks a) : rankMessages messages = ranked := by
  refine List.Perm.eq_of_pairwise ?_ (pairwise_rankMessages messages) hsorted
    ((rankMessages_perm messages).trans hperm.symm)
  intro a b ha hb hab hba
  exact hdistinct a ((rankMessages_perm messages).subset ha) b (hperm.subset hb)
    (Message.id_eq_of_not_outranks hab hba)

/-- There is no first message only among none. -/
theorem firstMessage_eq_none {messages : List Message} :
    firstMessage messages = none ↔ messages = [] := by
  cases messages with
  | nil => exact ⟨fun _ => rfl, fun _ => rfl⟩
  | cons message rest =>
      unfold firstMessage
      split
      · simp
      · split <;> simp

/-- The first of some messages is outranked by none of them. -/
theorem not_outranks_firstMessage {messages : List Message}
    (hstorable : ∀ m ∈ messages, m.Storable) {first m : Message}
    (hfirst : firstMessage messages = some first) (hm : m ∈ messages) : ¬ m.Outranks first := by
  induction messages generalizing first m with
  | nil => cases hm
  | cons message rest ih =>
      obtain ⟨hmessage, hrest⟩ := List.forall_mem_cons.1 hstorable
      unfold firstMessage at hfirst
      split at hfirst
      · next hnone =>
          rw [firstMessage_eq_none.1 hnone] at hm
          cases hfirst
          rw [List.mem_singleton.1 hm]
          exact (Message.not_outranks_total _ _).elim id id
      · next other hother =>
          have hprecedes := Message.precedes_iff (hrest other (firstMessage_mem hother)) hmessage
          split at hfirst
          · next hbefore =>
              -- The other message comes before this one, and nothing behind it outranks it.
              cases hfirst
              rcases List.mem_cons.1 hm with rfl | hm
              · exact (Message.not_outranks_total _ _).resolve_right
                  (not_not_intro (hprecedes.1 hbefore))
              · exact ih hrest hother hm
          · next hbehind =>
              cases hfirst
              rcases List.mem_cons.1 hm with rfl | hm
              · exact (Message.not_outranks_total _ _).elim id id
              · exact Message.not_outranks_trans (mt hprecedes.2 hbehind) (ih hrest hother hm)

/-- The first of some messages is the one that is ranked first. -/
theorem firstMessage_eq_head? {messages : List Message}
    (hstorable : ∀ m ∈ messages, m.Storable)
    (hdistinct : ∀ a ∈ messages, ∀ b ∈ messages, a.id = b.id → a = b) :
    firstMessage messages = (rankMessages messages).head? := by
  have hperm := rankMessages_perm messages
  cases hfirst : firstMessage messages with
  | none =>
      rw [firstMessage_eq_none.1 hfirst] at hperm ⊢
      rw [List.perm_nil.1 hperm]
      rfl
  | some first =>
      cases hranked : rankMessages messages with
      | nil =>
          rw [hranked] at hperm
          rw [List.nil_perm.1 hperm] at hfirst
          cases hfirst
      | cons best rest =>
          have hsorted := pairwise_rankMessages messages
          rw [hranked] at hperm hsorted
          have hmem := hperm.subset (List.mem_cons_self (a := best))
          have hbest : ¬ first.Outranks best := by
            rcases List.mem_cons.1 (hperm.symm.subset (firstMessage_mem hfirst)) with rfl | hlater
            · exact (Message.not_outranks_total _ _).elim id id
            · exact (List.pairwise_cons.1 hsorted).1 first hlater
          have hid := Message.id_eq_of_not_outranks hbest
            (not_outranks_firstMessage hstorable hfirst hmem)
          exact congrArg some
            (hdistinct best hmem first (firstMessage_mem hfirst) hid).symm

namespace Store

/-- Can the instants of the store be stored that are compared with others? -/
structure Storable (store : Store) : Prop where
  messages : ∀ m ∈ store.messages, m.Storable
  transactions : ∀ t ∈ store.transactions, t.expiryTime.Storable

/-- Whether a store's instants can be stored is decided row by row. -/
instance (store : Store) : Decidable store.Storable :=
  decidable_of_iff ((∀ m ∈ store.messages, m.Storable) ∧
      ∀ t ∈ store.transactions, t.expiryTime.Storable)
    ⟨fun h => ⟨h.1, h.2⟩, fun h => ⟨h.messages, h.transactions⟩⟩

/-- The messages that can be taken from a queue, in the order in which they are to be taken. -/
def ranked (store : Store) (queue : QueueId) (now : Instant) : List Message :=
  rankMessages (store.messages.filter fun m => m.isAvailable queue now)

/-- The store with some messages in place of those with their numbers. -/
def withTaken (store : Store) (taken : List Message) : Store :=
  { store with
    messages := store.messages.map fun m => (taken.find? fun t => t.id = m.id).getD m }

variable {store : Store} {queue : QueueId} {now : Instant} {m : Message}

/-- Before the end of an open transaction, which can be stored, it is not yet the year 10000. -/
theorem Storable.year_le (h : store.Storable) {owner : TransactionId}
    (hopen : store.IsOpen owner now) : now.date.year ≤ 9999 := by
  obtain ⟨t, hfind, _, hexpiry⟩ := hopen
  have hend : t.expiryTime.Storable := h.transactions t (transaction?_eq_some hfind).1
  have hle : now ≤ t.expiryTime := by
    rw [Transaction.isExpiredAt, decide_eq_false_iff_not, Instant.le_iff] at hexpiry
    rw [Instant.le_iff]
    omega
  exact Int.le_trans (Instant.year_le_of_le hle) hend.2.1

/-- The ranked messages are those that are available. -/
theorem mem_ranked :
    m ∈ store.ranked queue now ↔ m ∈ store.messages ∧ m.isAvailable queue now = true := by
  rw [ranked, (rankMessages_perm _).mem_iff, List.mem_filter]

/-- The ranked messages are as many as are available. -/
theorem length_ranked :
    (store.ranked queue now).length =
      store.messages.countP fun m => m.isAvailable queue now := by
  rw [ranked, (rankMessages_perm _).length_eq, List.countP_eq_length_filter]

/-- No number is ranked twice. -/
theorem Numbered.nodup_ranked (h : store.Numbered) (queue : QueueId) (now : Instant) :
    ((store.ranked queue now).map Message.id).Nodup := by
  rw [ranked, ((rankMessages_perm _).map Message.id).nodup_iff]
  refine List.Nodup.sublist (List.filter_sublist.map Message.id) ?_
  rw [List.nodup_iff_pairwise_ne, List.pairwise_map]
  exact h.messages.sorted.imp fun hlt heq => Nat.ne_of_lt hlt (congrArg MessageId.value heq)

/-- The next message is the one that is ranked first. -/
theorem nextMessage?_eq_head? (hnumbered : store.Numbered)
    (hstorable : ∀ m ∈ store.messages, m.Storable) (hclock : now.WellFormed)
    (hyear : now.date.year ≤ 9999) :
    store.nextMessage? queue now = (store.ranked queue now).head? := by
  have heligible : (store.messages.filter fun m => m.isEligible queue now) =
      store.messages.filter fun m => m.isAvailable queue now :=
    List.filter_congr fun m hm => Message.isEligible_eq (hstorable m hm) hclock hyear
  rw [nextMessage?, heligible]
  refine firstMessage_eq_head? (fun m hm => hstorable m (List.mem_filter.1 hm).1) ?_
  exact fun a ha b hb =>
    hnumbered.message_eq (List.mem_filter.1 ha).1 (List.mem_filter.1 hb).1

/-- Of messages with numbers of their own those that have not the number of one of the first so many
are the others. -/
theorem filter_take_eq_drop {messages : List Message} {count : Nat}
    (hdistinct : (messages.map Message.id).Nodup) :
    (messages.filter fun m => decide (m.id ∉ (messages.take count).map Message.id)) =
      messages.drop count := by
  have hparts := hdistinct
  rw [← List.take_append_drop count messages, List.map_append, List.nodup_append] at hparts
  have hfirst : (messages.take count).filter
      (fun m => decide (m.id ∉ (messages.take count).map Message.id)) = [] := by
    refine List.filter_eq_nil_iff.2 fun m hm => ?_
    have hmem : m.id ∈ (messages.take count).map Message.id := List.mem_map_of_mem hm
    simpa using hmem
  have hrest : (messages.drop count).filter
      (fun m => decide (m.id ∉ (messages.take count).map Message.id)) = messages.drop count := by
    refine List.filter_eq_self.2 fun m hm => decide_eq_true fun hmem => ?_
    exact hparts.2.2 _ hmem _ (List.mem_map_of_mem hm) rfl
  conv_lhs => rw [← List.take_append_drop count messages]
  rw [List.filter_append, List.take_append_drop, hfirst, hrest, List.nil_append]

/-- The messages that are available once some have been taken are those that were and have not been
taken. -/
theorem filter_withTaken {taken : List Message} (hstate : ∀ t ∈ taken, t.state = .inTransaction) :
    ((store.withTaken taken).messages.filter fun m => m.isAvailable queue now) =
      (store.messages.filter fun m => m.isAvailable queue now).filter
        fun m => decide (m.id ∉ taken.map Message.id) := by
  let row (m : Message) : Message := (taken.find? fun t => t.id = m.id).getD m
  have hrow (m : Message) :
      (row m).isAvailable queue now =
          (decide (m.id ∉ taken.map Message.id) && m.isAvailable queue now) ∧
        (m.id ∉ taken.map Message.id → row m = m) := by
    cases hfind : taken.find? fun t => t.id = m.id with
    | none =>
        have hfree : m.id ∉ taken.map Message.id := by
          intro hmem
          obtain ⟨t, ht, hid⟩ := List.mem_map.1 hmem
          exact List.find?_eq_none.1 hfind t ht (by simpa using hid)
        have hsame : row m = m := by simp only [row, hfind, Option.getD_none]
        exact ⟨by rw [hsame, decide_eq_true hfree, Bool.true_and], fun _ => hsame⟩
    | some t =>
        have ht := List.mem_of_find?_eq_some hfind
        have hid : t.id = m.id := by simpa using List.find?_some hfind
        have hmem : m.id ∈ taken.map Message.id := hid ▸ List.mem_map_of_mem ht
        have htaken : row m = t := by simp only [row, hfind, Option.getD_some]
        refine ⟨?_, fun hfree => absurd hmem hfree⟩
        rw [htaken, decide_eq_false (not_not_intro hmem)]
        simp [Message.isAvailable, hstate t ht]
  have hsame : (store.messages.filter fun m => (row m).isAvailable queue now) =
      (store.messages.filter fun m => m.isAvailable queue now).filter
        fun m => decide (m.id ∉ taken.map Message.id) := by
    rw [List.filter_filter]
    exact List.filter_congr fun m _ => (hrow m).1
  refine List.filter_map.trans ?_
  refine (congrArg (List.map row) hsame).trans ?_
  refine (List.map_congr_left fun m hm => (hrow m).2 ?_).trans (List.map_id' _)
  exact of_decide_eq_true (List.mem_filter.1 hm).2

/-- Once the first so many messages have been taken the others are ranked as they were. -/
theorem ranked_withTaken (hnumbered : store.Numbered) {taken : List Message} {count : Nat}
    (hids : taken.map Message.id = ((store.ranked queue now).take count).map Message.id)
    (hstate : ∀ t ∈ taken, t.state = .inTransaction) :
    (store.withTaken taken).ranked queue now = (store.ranked queue now).drop count := by
  have hperm : ((store.ranked queue now).drop count).Perm
      ((store.withTaken taken).messages.filter fun m => m.isAvailable queue now) := by
    rw [filter_withTaken hstate, hids, ← filter_take_eq_drop (hnumbered.nodup_ranked queue now)]
    exact (rankMessages_perm _).filter _
  refine eq_rankMessages hperm (fun a ha b hb => ?_) (pairwise_rankMessages _).drop
  have hmem {m : Message} (hm : m ∈ (store.withTaken taken).messages.filter
      fun m => m.isAvailable queue now) : m ∈ store.messages := by
    rw [filter_withTaken hstate] at hm
    exact (List.mem_filter.1 (List.mem_filter.1 hm).1).1
  exact hnumbered.message_eq (hmem ha) (hmem hb)

/-- Without messages that have been taken the store is as it was. -/
theorem withTaken_nil (store : Store) : store.withTaken [] = store := by
  simp [withTaken]

/-- The row of a message once some have been taken is one of these, or its own. -/
theorem exists_row_withTaken {taken : List Message} {row : Message}
    (h : row ∈ (store.withTaken taken).messages) : row ∈ taken ∨ row ∈ store.messages := by
  obtain ⟨m, hm, rfl⟩ := List.mem_map.1 h
  cases hfind : taken.find? fun t => t.id = m.id with
  | none => exact .inr hm
  | some t => exact .inl (List.mem_of_find?_eq_some hfind)

/-- Messages that have been taken keep their numbers. -/
theorem Numbered.withTaken (h : store.Numbered) (taken : List Message) :
    (store.withTaken taken).Numbered := by
  refine ⟨h.queues, h.transactions, h.messages.map fun m => ?_⟩
  cases hfind : taken.find? fun t => t.id = m.id with
  | none => rfl
  | some t =>
      have hid : t.id = m.id := by simpa using List.find?_some hfind
      exact congrArg MessageId.value hid

/-- One more message is taken after the others. -/
theorem take_withTaken (hnumbered : store.Numbered) {taken : List Message}
    (hm : m ∈ store.messages) (hfree : m.id ∉ taken.map Message.id) (owner : TransactionId) :
    (Change.take m owner now).apply (store.withTaken taken) =
      store.withTaken (taken ++ [m.take owner]) := by
  have hrow (x : Message) (hx : x ∈ store.messages) :
      (if ((taken.find? fun t => t.id = x.id).getD x).id = m.id then
          ((taken.find? fun t => t.id = x.id).getD x).take owner
        else (taken.find? fun t => t.id = x.id).getD x) =
        ((taken ++ [m.take owner]).find? fun t => t.id = x.id).getD x := by
    rw [List.find?_append]
    cases hfind : taken.find? fun t => t.id = x.id with
    | some t =>
        have ht : t.id ≠ m.id := fun hsame =>
          hfree (hsame ▸ List.mem_map_of_mem (List.mem_of_find?_eq_some hfind))
        simp [ht]
    | none =>
        by_cases hsame : x.id = m.id
        · rw [hnumbered.message_eq hx hm hsame]
          simp [Message.take]
        · have hother : (m.take owner).id ≠ x.id := fun heq => hsame heq.symm
          simp [hsame, hother]
  rw [Change.apply_take]
  simp only [withTaken, List.map_map, Function.comp_def]
  congr 1
  exact List.map_congr_left hrow

/-- A message that has been taken is in the store. -/
theorem mem_withTaken {taken : List Message} (hdistinct : (taken.map Message.id).Nodup)
    {row : Message} (hm : m ∈ store.messages) (hrow : row ∈ taken) (hid : row.id = m.id) :
    row ∈ (store.withTaken taken).messages := by
  refine List.mem_map.2 ⟨m, hm, ?_⟩
  cases hfind : taken.find? fun t => t.id = m.id with
  | none => exact absurd hid (by simpa using List.find?_eq_none.1 hfind row hrow)
  | some t =>
      have ht := List.mem_of_find?_eq_some hfind
      have hsame : t.id = m.id := by simpa using List.find?_some hfind
      exact List.inj_on_of_nodup_map hdistinct ht hrow (hsame.trans hid.symm)

end Store

end WorkQueue
