import WorkQueue.Proofs.Sweep.Rows
import WorkQueue.Proofs.Store.Numbers

/-!
# What a stage of a sweep has changed, seen from the store

Two states of the store, one before and one after a stage of a sweep, tell by themselves which rows
the stage has repaired and in which step: each step ends in a state of its own, or begins in one.
`Store.changedRows` counts the rows by that, with no regard to what the stage says of itself. A
stage tells a step of every row that it changes (`SweepStage.messageAfter_ne_iff`), and it reports
in each step as many rows as it has changed: `SweepStage.rowsOf_repair_eq_changedRows`.
-/

namespace WorkQueue

namespace SweepStep

/-- The step that has made of a transaction's row what is there afterwards. -/
def ofTransaction? (before : Transaction) (after : Option Transaction) : Option SweepStep :=
  match before.state, after.map Transaction.state with
  | .active, some .expired => some .expireTransactions
  | _, _ => none

/-- The step that has made of a message's row what is there afterwards, or has deleted it. -/
def ofMessage? (before : Message) (after : Option Message) : Option SweepStep :=
  match before.state, after.map Message.state with
  | .inTransaction, none => some .discardOrphanedAdds
  | .inTransaction, some .active => some .requeueOrphanedPulls
  | .inTransaction, some .attemptsExceeded => some .exhaustOrphanedPulls
  | .active, some .expired => some .expireMessages
  | .active, some .attemptsExceeded => some .closeExhaustedMessages
  | _, _ => none

/-- No step is seen from a transaction that is as it was. -/
theorem ofTransaction?_self (t : Transaction) : ofTransaction? t (some t) = none := by
  rw [ofTransaction?, Option.map_some]
  cases t.state <;> rfl

/-- No step is seen from a message that is as it was. -/
theorem ofMessage?_self (m : Message) : ofMessage? m (some m) = none := by
  rw [ofMessage?, Option.map_some]
  cases m.state <;> rfl

end SweepStep

/-- The number of rows of which a step of a sweep has made what is there afterwards. -/
def Store.changedRows (before after : Store) (step : SweepStep) : Nat :=
  before.transactions.countP
      (fun t => SweepStep.ofTransaction? t (after.transaction? t.id) = some step) +
    before.messages.countP fun m => SweepStep.ofMessage? m (after.message? m.id) = some step

namespace Change

variable {store : Store}

/-- A message that is there is found after every change as the change leaves it, and is not found if
the change deletes it. -/
theorem message?_apply (change : Change) (hnumbered : store.Numbered) {m : Message}
    (hm : m ∈ store.messages) :
    (change.apply store).message? m.id = change.messageAfter store m := by
  cases hafter : change.messageAfter store m with
  | some kept =>
      rw [← Message.id_eq_of_content (content_messageAfter hafter)]
      exact (change.numbered_apply hnumbered).message?_eq
        (mem_messages_apply.2 (.inl ⟨m, hm, hafter⟩))
  | none =>
      refine List.find?_eq_none.2 fun row hrow hid => ?_
      have hsame : row.id = m.id := of_decide_eq_true hid
      rcases mem_messages_apply.1 hrow with ⟨old, hold, hkept⟩ | hnew
      · have hm_eq : old = m := hnumbered.message_eq hold hm
          ((Message.id_eq_of_content (content_messageAfter hkept)).symm.trans hsame)
        rw [hm_eq, hafter] at hkept
        cases hkept
      · -- A new message has a number that no message before it has.
        cases change with
        | add draft =>
            have hle := hnumbered.messages.le_last m hm
            rw [List.mem_singleton.1 hnew] at hsame
            have hnext : store.lastMessage + 1 = m.id.value := congrArg MessageId.value hsame
            omega
        | _ => cases hnew

end Change

namespace SweepStage

variable {store : Store}

/-- A stage repairs a transaction's row in the step that is seen from the row afterwards. -/
theorem onTransaction_fst (stage : SweepStage) (now : Instant) (t : Transaction) :
    (stage.onTransaction now t).1 =
      (SweepStep.ofTransaction? t
        (some ((Change.repair stage now).transactionAfter t))).toList := by
  cases stage with
  | transactions =>
      rw [onTransaction, Change.transactionAfter]
      split
      · next hends =>
          have hactive : t.state = .active :=
            of_decide_eq_true (Bool.and_eq_true_iff.1 hends).1
          rw [SweepStep.ofTransaction?, hactive]
          rfl
      · rw [SweepStep.ofTransaction?_self]
        rfl
  | orphanedAdds | orphanedPulls | lifetimes | attempts =>
      exact congrArg Option.toList (SweepStep.ofTransaction?_self t).symm

/-- A stage repairs a message's row in the step that is seen from the row afterwards. -/
theorem onMessage_fst (stage : SweepStage) (now : Instant) (store : Store) (m : Message) :
    (stage.onMessage store.hasExpired now m).1 =
      (SweepStep.ofMessage? m ((Change.repair stage now).messageAfter store m)).toList := by
  have hheld {action : TransactionAction} (h : store.isOrphan action m = true) :
      m.state = .inTransaction := by
    rw [Store.isOrphan, Bool.and_eq_true, Bool.and_eq_true] at h
    exact of_decide_eq_true h.1.1
  cases stage with
  | transactions => exact congrArg Option.toList (SweepStep.ofMessage?_self m).symm
  | orphanedAdds =>
      rw [onMessage, findsOrphan_hasExpired, Change.messageAfter]
      split
      · next horphan => rw [SweepStep.ofMessage?, hheld horphan]; rfl
      · exact congrArg Option.toList (SweepStep.ofMessage?_self m).symm
  | orphanedPulls =>
      rw [onMessage, findsOrphan_hasExpired, Change.messageAfter, Message.giveBack]
      split
      · next horphan =>
          rw [SweepStep.ofMessage?, hheld horphan]
          cases m.isLastAttempt <;> rfl
      · exact congrArg Option.toList (SweepStep.ofMessage?_self m).symm
  | lifetimes | attempts =>
      rw [onMessage, Change.messageAfter]
      split
      · next hfound =>
          have hactive : m.state = .active :=
            of_decide_eq_true (Bool.and_eq_true_iff.1 hfound).1
          rw [SweepStep.ofMessage?, hactive]
          rfl
      · exact congrArg Option.toList (SweepStep.ofMessage?_self m).symm

/-- A stage that repairs a transaction's row in no step leaves it as it was. -/
theorem onTransaction_snd_of_nothing {stage : SweepStage} {now : Instant} {t : Transaction}
    (h : (stage.onTransaction now t).1 = []) : (stage.onTransaction now t).2 = some t := by
  cases stage with
  | transactions =>
      simp only [onTransaction] at h ⊢
      split at h
      · cases h
      · next hstays => rw [if_neg hstays]
  | _ => rfl

/-- A stage that repairs a message's row in no step leaves it as it was. -/
theorem onMessage_snd_of_nothing {stage : SweepStage} {expired : TransactionId → Bool}
    {now : Instant} {m : Message} (h : (stage.onMessage expired now m).1 = []) :
    (stage.onMessage expired now m).2 = some m := by
  cases stage with
  | transactions => rfl
  | orphanedPulls =>
      simp only [onMessage] at h ⊢
      split at h
      · split at h <;> cases h
      · next hstays => rw [if_neg hstays]
  | orphanedAdds | lifetimes | attempts =>
      simp only [onMessage] at h ⊢
      split at h
      · cases h
      · next hstays => rw [if_neg hstays]

/-- A stage changes the transactions of which a step is seen, and no others. -/
theorem transactionAfter_ne_iff (stage : SweepStage) (now : Instant) (t : Transaction) :
    (Change.repair stage now).transactionAfter t ≠ t ↔
      (SweepStep.ofTransaction? t
        (some ((Change.repair stage now).transactionAfter t))).isSome := by
  constructor
  · intro hne
    rw [Option.isSome_iff_ne_none]
    intro hnone
    have hlook := onTransaction_fst stage now t
    rw [hnone] at hlook
    have hkept := onTransaction_snd_of_nothing hlook
    rw [onTransaction_snd] at hkept
    exact hne (Option.some.inj hkept)
  · intro hsome heq
    rw [heq, SweepStep.ofTransaction?_self] at hsome
    cases hsome

/-- A stage changes the messages of which a step is seen, and no others. -/
theorem messageAfter_ne_iff (stage : SweepStage) (now : Instant) (store : Store) (m : Message) :
    (Change.repair stage now).messageAfter store m ≠ some m ↔
      (SweepStep.ofMessage? m ((Change.repair stage now).messageAfter store m)).isSome := by
  constructor
  · intro hne
    rw [Option.isSome_iff_ne_none]
    intro hnone
    have hlook := onMessage_fst stage now store m
    rw [hnone] at hlook
    have hkept := onMessage_snd_of_nothing hlook
    rw [onMessage_snd] at hkept
    exact hne hkept
  · intro hsome heq
    rw [heq, SweepStep.ofMessage?_self] at hsome
    cases hsome

/-- Looks that repair each row in the step that is seen of it, if any, count the rows of which the
step is seen. -/
theorem count_eq_countP_seen {Row : Type} {repair : Repair Row} {seen : Row → Option SweepStep}
    (h : ∀ row, (repair row).1 = (seen row).toList) (step : SweepStep) (rows : List Row) :
    repair.count step rows = rows.countP fun row => seen row = some step := by
  refine Repair.count_eq_countP fun row => ?_
  rw [h row]
  cases seen row with
  | none => rfl
  | some made => simp [List.count_singleton]

/-- Every row of which a step is seen is counted in one step. -/
theorem sum_countP_seen {Row : Type} (seen : Row → Option SweepStep) (rows : List Row) :
    (SweepStep.all.map fun step => rows.countP fun row => seen row = some step).sum =
      rows.countP fun row => (seen row).isSome := by
  induction rows with
  | nil => rfl
  | cons row rest ih =>
      rw [List.countP_cons, ← ih]
      simp only [List.countP_cons, SweepStep.all, List.map_cons, List.map_nil, List.sum_cons,
        List.sum_nil, decide_eq_true_eq]
      rcases seen row with _ | step
      · simp
      · cases step <;> simp <;> omega

/-- The steps of a stage together make up all the rows that it has changed. -/
theorem sum_changedRows (h : store.Numbered) (stage : SweepStage) (now : Instant) :
    (SweepStep.all.map (store.changedRows (stage.repair now store).2)).sum =
      store.transactions.countP
          (fun t => (stage.repair now store).2.transaction? t.id ≠ some t) +
        store.messages.countP fun m => (stage.repair now store).2.message? m.id ≠ some m := by
  have hsum : (SweepStep.all.map (store.changedRows (stage.repair now store).2)).sum = _ :=
    List.sum_map_add
  rw [hsum, sum_countP_seen, sum_countP_seen, Work.repair_eq_apply]
  congr 1
  · refine List.countP_congr fun t ht => ?_
    rw [Change.transaction?_apply _ h (h.transaction?_eq ht), ← transactionAfter_ne_iff,
      decide_eq_true_eq, ne_eq, ne_eq, Option.some.injEq]
  · refine List.countP_congr fun m hm => ?_
    rw [Change.message?_apply _ h hm, ← messageAfter_ne_iff, decide_eq_true_eq]

/-- A stage reports in each step the rows of which the step has made what is there afterwards. -/
theorem rowsOf_repair_eq_changedRows (h : store.Numbered) (stage : SweepStage) (now : Instant)
    (step : SweepStep) :
    SweepReport.rowsOf (stage.repair now store).1 step =
      store.changedRows (stage.repair now store).2 step := by
  rw [rowsOf_repair, Store.changedRows, Work.repair_eq_apply,
    count_eq_countP_seen (onTransaction_fst stage now),
    count_eq_countP_seen (onMessage_fst stage now store)]
  congr 1
  · refine List.countP_congr fun t ht => ?_
    rw [Change.transaction?_apply _ h (h.transaction?_eq ht)]
  · refine List.countP_congr fun m hm => ?_
    rw [Change.message?_apply _ h hm]

end SweepStage

end WorkQueue
