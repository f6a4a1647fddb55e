import Mathlib.Algebra.GroupWithZero.Nat
import WorkQueue.Proofs.Store.Coupling

/-!
# A store whose transactions have expired

What the store comes to once some transactions have expired and everything they held is given up,
told in one look at each row. Undoing the transactions one after the other, in any order, comes to
that, and so do the first three stages of a sweep. What is given up for each of the transactions
adds up to what is given up for all.
-/

namespace WorkQueue

/-- Does one of the transactions hold the message for this action? -/
def Message.isHeldByAny (m : Message) (ids : List TransactionId) (action : TransactionAction) :
    Bool :=
  ids.any fun id => m.isHeldBy id action

/-- What becomes of a message once the transactions are over. -/
def Message.givenUp (m : Message) (ids : List TransactionId) (now : Instant) : Option Message :=
  if m.isHeldByAny ids .add then none
  else if m.isHeldByAny ids .pull then some (m.giveBack now)
  else some m

/-- What becomes of a transaction once those of the list have expired. -/
def Transaction.expireIn (t : Transaction) (ids : List TransactionId) (now : Instant) :
    Transaction :=
  if t.id ∈ ids ∧ t.state = .active then t.close .expired now expiredReason else t

/-- The store once the active ones of some transactions have expired and what all of them held is
given up. -/
def Store.withExpired (store : Store) (ids : List TransactionId) (now : Instant) : Store :=
  { store with
    transactions := store.transactions.map fun t => t.expireIn ids now
    messages := store.messages.filterMap fun m => m.givenUp ids now }

namespace Message

variable {m : Message} {ids : List TransactionId} {id : TransactionId} {now : Instant}
  {action : TransactionAction}

/-- One of the transactions holds the message when its owner is among them. -/
theorem isHeldByAny_iff :
    m.isHeldByAny ids action = true ↔ ∃ id ∈ ids, m.isHeldBy id action = true :=
  List.any_eq_true

/-- Who they are matters, not their order. -/
theorem isHeldByAny_congr {other : List TransactionId} (h : ∀ id, id ∈ ids ↔ id ∈ other) :
    m.isHeldByAny ids action = m.isHeldByAny other action := by
  rw [Bool.eq_iff_iff, isHeldByAny_iff, isHeldByAny_iff]
  simp only [h]

/-- No transaction holds a message that is given back. -/
theorem isHeldBy_giveBack (m : Message) (now : Instant) (id : TransactionId)
    (action : TransactionAction) : (m.giveBack now).isHeldBy id action = false := by
  unfold giveBack
  split <;> simp [isHeldBy, exhaust, requeue]

/-- A message that is being added was not taken by anybody. -/
theorem not_isHeldByAny_pull (h : m.isHeldBy id .add = true) : m.isHeldByAny ids .pull = false := by
  refine Bool.eq_false_iff.2 fun hpull => ?_
  obtain ⟨other, _, hother⟩ := isHeldByAny_iff.1 hpull
  cases (m.not_pull_of_isHeldBy_add h).symm.trans hother

/-- One transaction more holds what it holds itself. -/
theorem isHeldByAny_append (m : Message) (ids : List TransactionId) (id : TransactionId)
    (action : TransactionAction) :
    m.isHeldByAny (ids ++ [id]) action = (m.isHeldByAny ids action || m.isHeldBy id action) := by
  simp [isHeldByAny]

/-- What is given up by one transaction more is given up after what the others give up. -/
theorem givenUp_append (m : Message) (ids : List TransactionId) (id : TransactionId)
    (now : Instant) (target : TransactionState) (reason : String) (store : Store) :
    m.givenUp (ids ++ [id]) now =
      (m.givenUp ids now).bind ((Change.undo id target reason now).messageAfter store) := by
  rw [givenUp, givenUp, isHeldByAny_append, isHeldByAny_append]
  cases hadded : m.isHeldByAny ids .add with
  | true => rfl
  | false =>
      cases hadd : m.isHeldBy id .add with
      | true => simp [not_isHeldByAny_pull hadd, Change.messageAfter, hadd]
      | false =>
          cases htaken : m.isHeldByAny ids .pull with
          | true => simp [Change.messageAfter, isHeldBy_giveBack]
          | false => cases hpull : m.isHeldBy id .pull <;> simp [Change.messageAfter, hadd, hpull]

end Message

namespace Store

variable {store : Store} {ids : List TransactionId} {id : TransactionId} {now : Instant}

/-- Undoing one transaction more comes after undoing the others. -/
theorem undo_withExpired (store : Store) (ids : List TransactionId) (id : TransactionId)
    (now : Instant) :
    (Change.undo id .expired expiredReason now).apply (store.withExpired ids now) =
      store.withExpired (ids ++ [id]) now := by
  have htransactions (t : Transaction) :
      (Change.undo id .expired expiredReason now).transactionAfter (t.expireIn ids now) =
        t.expireIn (ids ++ [id]) now := by
    by_cases hended : t.id ∈ ids ∧ t.state = .active
    · have hmore : t.id ∈ ids ++ [id] ∧ t.state = .active :=
        ⟨List.mem_append_left [id] hended.1, hended.2⟩
      have hexpired : t.expireIn ids now = t.close .expired now expiredReason := if_pos hended
      have hexpired' : t.expireIn (ids ++ [id]) now = t.close .expired now expiredReason :=
        if_pos hmore
      rw [hexpired, hexpired']
      exact if_neg (by simp [Transaction.isActive, Transaction.close])
    · have hsame : t.expireIn ids now = t := if_neg hended
      rw [hsame]
      by_cases hactive : t.state = .active <;> by_cases hid : t.id = id <;>
        simp_all [Change.transactionAfter, Transaction.expireIn, Transaction.isActive]
  rw [Change.apply_of_no_new (fun _ => rfl) rfl rfl rfl]
  simp only [withExpired, List.map_map, List.filterMap_filterMap, Function.comp_def,
    htransactions]
  congr 1
  exact List.filterMap_congr fun m _ => (m.givenUp_append ids id now _ _ _).symm

/-- Without transactions nothing is given up. -/
theorem withExpired_nil (store : Store) (now : Instant) : store.withExpired [] now = store := by
  have htransactions (t : Transaction) : t.expireIn [] now = t := by
    simp [Transaction.expireIn]
  have hmessages (m : Message) : m.givenUp [] now = some m := by
    simp [Message.givenUp, Message.isHeldByAny]
  simp only [withExpired, htransactions, hmessages, List.map_id', List.filterMap_some]

/-- What becomes of the store depends on which transactions they are, not on their order. -/
theorem withExpired_congr {other : List TransactionId} (h : ∀ id, id ∈ ids ↔ id ∈ other) :
    store.withExpired ids now = store.withExpired other now := by
  have hany (m : Message) (action : TransactionAction) :
      m.isHeldByAny ids action = m.isHeldByAny other action := Message.isHeldByAny_congr h
  simp only [withExpired, Transaction.expireIn, Message.givenUp, hany, h]

/-- A transaction that is not among those that have expired is found as it was. -/
theorem transaction?_withExpired (h : id ∉ ids) :
    (store.withExpired ids now).transaction? id = store.transaction? id := by
  have hid (t : Transaction) : (t.expireIn ids now).id = t.id := by
    unfold Transaction.expireIn
    split <;> rfl
  have hfind : (store.withExpired ids now).transaction? id =
      (store.transaction? id).map fun t => t.expireIn ids now := by
    simp only [transaction?, withExpired, List.find?_map, Function.comp_def, hid]
  rw [hfind]
  cases hfound : store.transaction? id with
  | none => rfl
  | some t =>
      have hsame : t.id = id := (transaction?_eq_some hfound).2
      simp [Transaction.expireIn, hsame, h]

/-- A transaction that has lapsed still has when others have expired. -/
theorem HasLapsed.withExpired (h : store.HasLapsed id now) (hid : id ∉ ids) :
    (store.withExpired ids now).HasLapsed id now := by
  unfold HasLapsed
  rw [transaction?_withExpired hid]
  exact h

/-- What a transaction holds is not given up by others. -/
theorem countP_withExpired (store : Store) (now : Instant) (h : id ∉ ids)
    (action : TransactionAction) (p : Message → Bool) :
    (store.withExpired ids now).messages.countP (fun m => m.isHeldBy id action && p m) =
      store.messages.countP fun m => m.isHeldBy id action && p m := by
  have hother {m : Message} {other : TransactionAction} (hany : m.isHeldByAny ids other = true) :
      m.isHeldBy id action = false := by
    obtain ⟨holder, hmem, hheld⟩ := Message.isHeldByAny_iff.1 hany
    refine Bool.eq_false_iff.2 fun hid => h ?_
    cases (Message.isHeldBy_iff.1 hid).1.symm.trans (Message.isHeldBy_iff.1 hheld).1
    exact hmem
  simp only [Store.withExpired, List.countP_filterMap]
  refine List.countP_congr fun m _ => ?_
  unfold Message.givenUp
  split
  · next hadded => simp [hother hadded]
  · split
    · next htaken => simp [hother htaken, Message.isHeldBy_giveBack]
    · rfl

/-- What there is to undo for a transaction does not depend on others that have expired. -/
theorem unwound_withExpired (h : id ∉ ids) :
    ((store.withExpired ids now).unwound fun action m => m.isHeldBy id action) =
      store.unwound fun action m => m.isHeldBy id action := by
  have hadded := countP_withExpired store now h .add fun _ => true
  simp only [Bool.and_true] at hadded
  simp only [unwound, countP_withExpired store now h, hadded]

/-- Rows are counted under one of two conditions, never both, by counting them under each. -/
theorem countP_or {p q : Message → Bool} (h : ∀ m, p m = true → q m = false)
    (rows : List Message) :
    rows.countP (fun m => p m || q m) = rows.countP p + rows.countP q := by
  induction rows with
  | nil => rfl
  | cons m rest ih =>
      simp only [List.countP_cons, ih]
      cases hp : p m with
      | true => simp [h m hp]; omega
      | false => simp; omega

/-- What each of some transactions holds adds up to what one of them holds. -/
theorem sum_countP (hdistinct : ids.Nodup) (action : TransactionAction) (p : Message → Bool)
    (rows : List Message) :
    (ids.map fun id => rows.countP fun m => m.isHeldBy id action && p m).sum =
      rows.countP fun m => m.isHeldByAny ids action && p m := by
  induction ids with
  | nil => simp [Message.isHeldByAny]
  | cons id rest ih =>
      -- A message has one holder at most, so that no row is counted twice.
      obtain ⟨hnew, hrest⟩ := List.nodup_cons.1 hdistinct
      have hor := countP_or (p := fun m => m.isHeldBy id action && p m)
        (q := fun m => m.isHeldByAny rest action && p m) ?_ rows
      · rw [List.map_cons, List.sum_cons, ih hrest, ← hor]
        simp only [Message.isHeldByAny, List.any_cons, Bool.and_or_distrib_right]
      · intro m hheld
        refine Bool.eq_false_iff.2 fun hany => hnew ?_
        obtain ⟨other, hmem, hother⟩ :=
          Message.isHeldByAny_iff.1 (Bool.and_eq_true_iff.1 hany).1
        have howner := (Message.isHeldBy_iff.1 (Bool.and_eq_true_iff.1 hheld).1).1
        cases howner.symm.trans (Message.isHeldBy_iff.1 hother).1
        exact hmem

/-- The transactions that are active past their lifetime. -/
def lapsed (store : Store) (now : Instant) : List TransactionId :=
  (store.transactions.filter fun t => t.isActive && t.isExpiredAt now).map Transaction.id

/-- What it is to have lapsed. -/
theorem mem_lapsed :
    id ∈ store.lapsed now ↔
      ∃ t ∈ store.transactions, t.id = id ∧ t.state = .active ∧ t.isExpiredAt now = true := by
  simp only [lapsed, List.mem_map, List.mem_filter, Transaction.isActive, Bool.and_eq_true,
    decide_eq_true_eq]
  constructor
  · rintro ⟨t, ⟨ht, hactive, hexpired⟩, hid⟩
    exact ⟨t, ht, hid, hactive, hexpired⟩
  · rintro ⟨t, ht, hid, hactive, hexpired⟩
    exact ⟨t, ⟨ht, hactive, hexpired⟩, hid⟩

/-- A transaction among those that have lapsed is found so. -/
theorem Numbered.hasLapsed (h : store.Numbered) (hlapsed : id ∈ store.lapsed now) :
    store.HasLapsed id now := by
  obtain ⟨t, ht, rfl, hactive, hexpired⟩ := mem_lapsed.1 hlapsed
  exact ⟨t, h.transaction?_eq ht, hactive, hexpired⟩

/-- Transactions lapse once. -/
theorem Numbered.nodup_lapsed (h : store.Numbered) (now : Instant) :
    (store.lapsed now).Nodup := by
  refine List.pairwise_map.2 ((h.transactions.sorted.filter _).imp ?_)
  intro a b hlt hsame
  exact Nat.ne_of_lt hlt (congrArg TransactionId.value hsame)

/-- The store with its lapsed transactions expired, and with these messages. -/
def expireLapsed (store : Store) (now : Instant) (messages : List Message) : Store :=
  { store with
    transactions := store.transactions.map fun t => t.expireIn (store.lapsed now) now
    messages }

/-- An expired transaction does not hold any message. -/
def NoOrphans (store : Store) : Prop :=
  ∀ m ∈ store.messages, ∀ owner, m.owner = some owner → store.hasExpired owner = false

/-- Does the store compare the lifetimes of transactions as they are? -/
def ComparesAt (store : Store) (now : Instant) : Prop :=
  ∀ t ∈ store.transactions, t.expiryTime.storedLe now = t.isExpiredAt now

/-- The first stage of a sweep expires the transactions that have lapsed. -/
theorem repair_transactions (h : store.Numbered) (hcompares : store.ComparesAt now) :
    SweepStage.transactions.repair now store =
      ([(.expireTransactions, (store.lapsed now).length)],
        store.expireLapsed now store.messages) := by
  have hcount : (store.transactions.countP fun t => t.isActive && t.expiryTime.storedLe now) =
      (store.lapsed now).length := by
    rw [lapsed, List.length_map, ← List.countP_eq_length_filter]
    exact List.countP_congr fun t ht => by rw [hcompares t ht]
  have hrows : (store.transactions.map fun t =>
      if t.isActive && t.expiryTime.storedLe now then t.close .expired now expiredReason else t) =
      store.transactions.map fun t => t.expireIn (store.lapsed now) now := by
    refine List.map_congr_left fun t ht => ?_
    have hiff : (t.isActive && t.expiryTime.storedLe now) = true ↔
        t.id ∈ store.lapsed now ∧ t.state = .active := by
      rw [hcompares t ht, mem_lapsed, Bool.and_eq_true, Transaction.isActive, decide_eq_true_eq]
      constructor
      · rintro ⟨hactive, hexpired⟩
        exact ⟨⟨t, ht, rfl, hactive, hexpired⟩, hactive⟩
      · rintro ⟨⟨other, hother, hid, _, hexpired⟩, hactive⟩
        rw [← h.transaction_eq hother ht hid]
        exact ⟨by rw [h.transaction_eq hother ht hid]; exact hactive, hexpired⟩
    simp only [Transaction.expireIn, hiff]
  simp only [SweepStage.repair, expireTransactions, updateTransactions, hcount, hrows,
    expireLapsed]

/-- Once the lapsed transactions have expired, expired ones are those and the ones from before. -/
theorem hasExpired_expireLapsed (store : Store) (now : Instant) (id : TransactionId)
    (messages : List Message) :
    (store.expireLapsed now messages).hasExpired id = true ↔
      id ∈ store.lapsed now ∨ store.hasExpired id = true := by
  simp only [hasExpired, expireLapsed, List.any_map, List.any_eq_true, Function.comp_apply,
    Bool.and_eq_true, decide_eq_true_eq]
  constructor
  · rintro ⟨t, ht, hid, hexpired⟩
    by_cases hlapsed : t.id ∈ store.lapsed now ∧ t.state = .active
    · rw [Transaction.expireIn, if_pos hlapsed] at hid
      exact .inl (hid ▸ hlapsed.1)
    · rw [Transaction.expireIn, if_neg hlapsed] at hid hexpired
      exact .inr ⟨t, ht, hid, hexpired⟩
  · rintro (hmem | ⟨t, ht, hid, hexpired⟩)
    · obtain ⟨t, ht, rfl, hactive, _⟩ := mem_lapsed.1 hmem
      refine ⟨t, ht, ?_⟩
      rw [Transaction.expireIn, if_pos ⟨hmem, hactive⟩]
      exact ⟨rfl, rfl⟩
    · refine ⟨t, ht, ?_⟩
      rw [Transaction.expireIn, if_neg (by simp [hexpired])]
      exact ⟨hid, hexpired⟩

/-- Once the lapsed transactions have expired, the orphans are the messages that they hold, if there
were none before. -/
theorem isOrphan_expireLapsed (hclean : store.NoOrphans) {m : Message} (hm : m ∈ store.messages)
    (action : TransactionAction) (messages : List Message) :
    (store.expireLapsed now messages).isOrphan action m =
      m.isHeldByAny (store.lapsed now) action := by
  rw [Bool.eq_iff_iff, Message.isHeldByAny_iff]
  simp only [isOrphan, Bool.and_eq_true, decide_eq_true_eq, Option.any_eq_true,
    hasExpired_expireLapsed]
  constructor
  · rintro ⟨⟨hstate, haction⟩, owner, howner, hmem | hexpired⟩
    · exact ⟨owner, hmem, Message.isHeldBy_iff.2 ⟨howner, haction, hstate⟩⟩
    · cases hexpired.symm.trans (hclean m hm owner howner)
  · rintro ⟨owner, hmem, hheld⟩
    obtain ⟨howner, haction, hstate⟩ := Message.isHeldBy_iff.1 hheld
    exact ⟨⟨hstate, haction⟩, owner, howner, .inl hmem⟩

/-- The second stage deletes what the lapsed transactions were adding. -/
theorem repair_orphanedAdds (now : Instant) (hclean : store.NoOrphans) :
    SweepStage.orphanedAdds.repair now (store.expireLapsed now store.messages) =
      ([(.discardOrphanedAdds,
          (store.unwound fun action m => m.isHeldByAny (store.lapsed now) action).discarded)],
        store.expireLapsed now
          (store.messages.filter fun m => !m.isHeldByAny (store.lapsed now) .add)) := by
  let expired := store.expireLapsed now store.messages
  have horphan (m : Message) (hm : m ∈ store.messages) :
      expired.isOrphan .add m = m.isHeldByAny (store.lapsed now) .add :=
    isOrphan_expireLapsed hclean hm .add store.messages
  have hcount : store.messages.countP (expired.isOrphan .add) =
      store.messages.countP fun m => m.isHeldByAny (store.lapsed now) .add :=
    List.countP_congr fun m hm => by rw [horphan m hm]
  have hrows : (store.messages.filter fun m => !expired.isOrphan .add m) =
      store.messages.filter fun m => !m.isHeldByAny (store.lapsed now) .add :=
    List.filter_congr fun m hm => by rw [horphan m hm]
  show ([(SweepStep.discardOrphanedAdds, store.messages.countP (expired.isOrphan .add))],
    { expired with messages := store.messages.filter fun m => !expired.isOrphan .add m }) = _
  rw [hcount, hrows]
  rfl

/-- The third stage gives back what the lapsed transactions had taken. -/
theorem repair_orphanedPulls (now : Instant) (hclean : store.NoOrphans) :
    SweepStage.orphanedPulls.repair now (store.expireLapsed now
        (store.messages.filter fun m => !m.isHeldByAny (store.lapsed now) .add)) =
      ([(.requeueOrphanedPulls,
          (store.unwound fun action m => m.isHeldByAny (store.lapsed now) action).requeued),
        (.exhaustOrphanedPulls,
          (store.unwound fun action m => m.isHeldByAny (store.lapsed now) action).exhausted)],
        store.withExpired (store.lapsed now) now) := by
  let rest := store.messages.filter fun m => !m.isHeldByAny (store.lapsed now) .add
  let expired := store.expireLapsed now rest
  have horphan (m : Message) (hm : m ∈ store.messages) :
      expired.isOrphan .pull m = m.isHeldByAny (store.lapsed now) .pull :=
    isOrphan_expireLapsed hclean hm .pull rest
  -- What was taken was not being added, so nothing of it has been deleted.
  have hcount (p : Message → Bool) :
      (rest.countP fun m => expired.isOrphan .pull m && p m) =
        store.messages.countP fun m => m.isHeldByAny (store.lapsed now) .pull && p m := by
    rw [List.countP_filter]
    refine List.countP_congr fun m hm => ?_
    rw [horphan m hm]
    cases hadded : m.isHeldByAny (store.lapsed now) .add with
    | false => simp
    | true =>
        obtain ⟨id, _, hheld⟩ := Message.isHeldByAny_iff.1 hadded
        simp [Message.not_isHeldByAny_pull hheld]
  have hrows : (rest.map fun m => if expired.isOrphan .pull m then m.giveBack now else m) =
      store.messages.filterMap fun m => m.givenUp (store.lapsed now) now := by
    have hmap : (rest.map fun m => if expired.isOrphan .pull m then m.giveBack now else m) =
        rest.map fun m => if m.isHeldByAny (store.lapsed now) .pull then m.giveBack now else m :=
      List.map_congr_left fun m hm => by rw [horphan m (List.mem_filter.1 hm).1]
    rw [hmap]
    refine map_filter_eq_filterMap fun m => ?_
    rw [Message.givenUp]
    cases m.isHeldByAny (store.lapsed now) .add <;>
      cases m.isHeldByAny (store.lapsed now) .pull <;> rfl
  have hgive := giveBack_eq (expired.isOrphan .pull) now expired
    fun m => m.isOrphan_exhaust expired .pull now
  have hmessages : expired.messages = rest := rfl
  rw [hmessages, hcount, hcount, hrows] at hgive
  show ([(SweepStep.requeueOrphanedPulls,
      (expired.giveBack (expired.isOrphan .pull) now).1.requeued),
    (SweepStep.exhaustOrphanedPulls,
      (expired.giveBack (expired.isOrphan .pull) now).1.exhausted)],
    (expired.giveBack (expired.isOrphan .pull) now).2) = _
  rw [hgive]
  rfl

end Store

end WorkQueue
