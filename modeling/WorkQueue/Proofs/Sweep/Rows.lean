import WorkQueue.Proofs.Sweep.Settled

/-!
# A sweep, row by row

What the stages of a sweep do to a row, told without the other rows: the steps that repair it, and
the row that is left. Such looks at a row are put together with `Repair.andThen`, and what they
count and leave of many rows goes along with that. `SweepStage.repair_eq` says that every stage is
such a look at each row, so that a whole sweep is one look as well: `SweepStage.sweep_eq`.
-/

namespace WorkQueue

/-- A look at a row: the steps that repair it, in their order, and the row that is left, unless it
is deleted. -/
abbrev Repair (Row : Type) : Type :=
  Row → List SweepStep × Option Row

namespace Repair

variable {Row : Type}

/-- What is left of the row after the first look is looked at again. -/
def andThen (first second : Repair Row) : Repair Row := fun row =>
  match first row with
  | (steps, none) => (steps, none)
  | (steps, some left) => (steps ++ (second left).1, (second left).2)

/-- The rows that are left of some rows. -/
def leave (repair : Repair Row) : List Row → List Row :=
  List.filterMap fun row => (repair row).2

/-- How many of some rows are repaired in a step. -/
def count (repair : Repair Row) (step : SweepStep) : List Row → Nat
  | [] => 0
  | row :: rest => (repair row).1.count step + repair.count step rest

variable {first second : Repair Row} {rows : List Row} {step : SweepStep}

/-- Two looks leave of some rows what the second leaves of what the first has left. -/
theorem leave_andThen : (first.andThen second).leave rows = second.leave (first.leave rows) := by
  rw [leave, leave, leave, List.filterMap_filterMap]
  refine List.filterMap_congr fun row _ => ?_
  rw [andThen]
  rcases first row with ⟨steps, _ | left⟩ <;> rfl

/-- Two looks count what the first counts, and what the second counts of what it has left. -/
theorem count_andThen : (first.andThen second).count step rows =
    first.count step rows + second.count step (first.leave rows) := by
  induction rows with
  | nil => rfl
  | cons row rest ih =>
      rw [count, count, ih, andThen]
      rcases hrow : first row with ⟨steps, _ | left⟩
      · have hleave : first.leave (row :: rest) = first.leave rest :=
          List.filterMap_cons_none (congrArg Prod.snd hrow)
        rw [hleave]
        dsimp only
        omega
      · have hleave : first.leave (row :: rest) = left :: first.leave rest :=
          List.filterMap_cons_some (congrArg Prod.snd hrow)
        rw [hleave, count, List.count_append]
        dsimp only
        omega

/-- Two looks that repair each row in the same steps count the same. -/
theorem count_congr {other : Repair Row}
    (h : ∀ row ∈ rows, (first row).1.count step = (other row).1.count step) :
    first.count step rows = other.count step rows := by
  induction rows with
  | nil => rfl
  | cons row rest ih =>
      rw [count, count, h row List.mem_cons_self,
        ih fun row hrow => h row (List.mem_cons_of_mem _ hrow)]

/-- A look that repairs in the step exactly the selected rows of some counts these. -/
theorem count_eq_countP_of_mem {selected : Row → Bool}
    (h : ∀ row ∈ rows, (first row).1.count step = if selected row then 1 else 0) :
    first.count step rows = rows.countP selected := by
  induction rows with
  | nil => rfl
  | cons row rest ih =>
      rw [count, h row List.mem_cons_self, ih fun row hrow => h row (List.mem_cons_of_mem _ hrow),
        List.countP_cons, Nat.add_comm]

/-- A look that repairs in the step exactly the selected rows counts these. -/
theorem count_eq_countP {selected : Row → Bool}
    (h : ∀ row, (first row).1.count step = if selected row then 1 else 0) :
    first.count step rows = rows.countP selected :=
  count_eq_countP_of_mem fun row _ => h row

/-- A look that repairs no row in the step counts none. -/
theorem count_eq_zero (h : ∀ row, (first row).1.count step = 0) : first.count step rows = 0 := by
  induction rows with
  | nil => rfl
  | cons row rest ih => rw [count, h row, ih]

end Repair

namespace SweepStage

/-- What a stage does to the row of a transaction. -/
def onTransaction (stage : SweepStage) (now : Instant) : Repair Transaction := fun t =>
  match stage with
  | .transactions =>
      if t.isActive && t.expiryTime.storedLe now then
        ([.expireTransactions], some (t.close .expired now expiredReason))
      else ([], some t)
  | _ => ([], some t)

/-- Is the message held for this action by one of the expired transactions? -/
def findsOrphan (expired : TransactionId → Bool) (action : TransactionAction) (m : Message) :
    Bool :=
  m.state = .inTransaction && m.action = some action && m.owner.any expired

/-- What a stage does to the row of a message, when these transactions have expired. -/
def onMessage (stage : SweepStage) (expired : TransactionId → Bool) (now : Instant) :
    Repair Message := fun m =>
  match stage with
  | .transactions => ([], some m)
  | .orphanedAdds =>
      if findsOrphan expired .add m then ([.discardOrphanedAdds], none) else ([], some m)
  | .orphanedPulls =>
      if findsOrphan expired .pull m then
        if m.isLastAttempt then ([.exhaustOrphanedPulls], some (m.exhaust now))
        else ([.requeueOrphanedPulls], some m.requeue)
      else ([], some m)
  | .lifetimes =>
      if m.state = .active && m.lifetimePassed now then
        ([.expireMessages], some (m.close .expired now))
      else ([], some m)
  | .attempts =>
      if m.state = .active && m.maxAttempts ≤ m.attempts then
        ([.closeExhaustedMessages], some (m.close .attemptsExceeded now))
      else ([], some m)

/-- What some stages one after the other do to the row of a message, when these transactions have
expired. -/
def onMessageAll (expired : TransactionId → Bool) (now : Instant) :
    List SweepStage → Repair Message
  | [] => fun m => ([], some m)
  | stage :: rest => (stage.onMessage expired now).andThen (onMessageAll expired now rest)

/-- The stages behind the first, which go through the messages. -/
def ofMessages : List SweepStage :=
  [.orphanedAdds, .orphanedPulls, .lifetimes, .attempts]

/-- What a whole sweep does to the row of a message, when these transactions have expired. -/
def sweepMessage (expired : TransactionId → Bool) (now : Instant) : Repair Message :=
  onMessageAll expired now ofMessages

/-- Has the transaction expired once the first stage of a sweep has been made? -/
def expiredAt (store : Store) (now : Instant) : TransactionId → Bool :=
  { store with
    transactions := (transactions.onTransaction now).leave store.transactions }.hasExpired

variable {stage : SweepStage} {now : Instant} {store : Store}

/-- An orphan is found by the transactions that have expired. -/
theorem findsOrphan_hasExpired (action : TransactionAction) (m : Message) :
    findsOrphan store.hasExpired action m = store.isOrphan action m :=
  rfl

/-- A stage leaves of a transaction's row what its change leaves. -/
theorem onTransaction_snd (stage : SweepStage) (now : Instant) (t : Transaction) :
    (stage.onTransaction now t).2 = some ((Change.repair stage now).transactionAfter t) := by
  cases stage with
  | transactions =>
      simp only [onTransaction, Change.transactionAfter]
      split <;> rfl
  | _ => rfl

/-- A stage leaves of a message's row what its change leaves. -/
theorem onMessage_snd (stage : SweepStage) (now : Instant) (store : Store) (m : Message) :
    (stage.onMessage store.hasExpired now m).2 =
      (Change.repair stage now).messageAfter store m := by
  cases stage with
  | transactions => rfl
  | orphanedAdds =>
      rw [onMessage, findsOrphan_hasExpired, Change.messageAfter]
      split <;> rfl
  | orphanedPulls =>
      rw [onMessage, findsOrphan_hasExpired, Change.messageAfter, Message.giveBack]
      cases store.isOrphan .pull m <;> cases m.isLastAttempt <;> rfl
  | lifetimes | attempts =>
      simp only [onMessage, Change.messageAfter]
      split <;> rfl

/-- A stage leaves the rows that its looks at them leave. -/
theorem store_repair_eq (stage : SweepStage) (now : Instant) (store : Store) :
    (stage.repair now store).2 =
      { store with
        transactions := (stage.onTransaction now).leave store.transactions
        messages := (stage.onMessage store.hasExpired now).leave store.messages } := by
  rw [Work.repair_eq_apply, Change.apply_of_no_new (fun _ => rfl) rfl rfl rfl, Repair.leave,
    Repair.leave, funext (onTransaction_snd stage now), funext (onMessage_snd stage now store),
    List.filterMap_eq_map']

/-- The stages behind the first do not count transactions. -/
theorem count_onTransaction (h : stage ≠ .transactions) (step : SweepStep)
    (rows : List Transaction) : (stage.onTransaction now).count step rows = 0 := by
  refine Repair.count_eq_zero fun t => ?_
  cases stage <;> first | rfl | exact absurd rfl h

/-- The stages behind the first leave transactions as they are. -/
theorem leave_onTransaction (h : stage ≠ .transactions) (rows : List Transaction) :
    (stage.onTransaction now).leave rows = rows := by
  have hsame : (fun t => (stage.onTransaction now t).2) = some := by
    funext t
    cases stage <;> first | rfl | exact absurd rfl h
  rw [Repair.leave, hsame, List.filterMap_some]

/-- The first stage does not count messages. -/
theorem count_onMessage_transactions (expired : TransactionId → Bool) (step : SweepStep)
    (rows : List Message) : (transactions.onMessage expired now).count step rows = 0 :=
  Repair.count_eq_zero fun _ => rfl

/-- The rows of one step, when there is only one. -/
theorem rowsOf_singleton (made step : SweepStep) (rows : Nat) :
    SweepReport.rowsOf [(made, rows)] step = if made = step then rows else 0 := by
  unfold SweepReport.rowsOf
  by_cases h : made = step <;> simp [h]

/-- A stage of one step reports the rows that its looks count. -/
theorem rowsOf_eq_count {Row : Type} {repair : Repair Row} {made : SweepStep}
    {selected : Row → Bool} (h : ∀ row, (repair row).1 = if selected row then [made] else [])
    (step : SweepStep) (rows : List Row) :
    SweepReport.rowsOf [(made, rows.countP selected)] step = repair.count step rows := by
  rw [rowsOf_singleton]
  by_cases hstep : made = step
  · rw [if_pos hstep]
    refine (Repair.count_eq_countP fun row => ?_).symm
    rw [h row]
    split <;> simp [hstep]
  · rw [if_neg hstep, Repair.count_eq_zero]
    intro row
    rw [h row]
    split <;> simp [hstep]

/-- A stage reports the rows that its looks count. -/
theorem rowsOf_repair (stage : SweepStage) (now : Instant) (store : Store) (step : SweepStep) :
    SweepReport.rowsOf (stage.repair now store).1 step =
      (stage.onTransaction now).count step store.transactions +
        (stage.onMessage store.hasExpired now).count step store.messages := by
  cases stage with
  | transactions =>
      rw [count_onMessage_transactions, Nat.add_zero]
      refine rowsOf_eq_count (fun t => ?_) step store.transactions
      rw [onTransaction]
      split <;> rfl
  | orphanedAdds =>
      have hsteps (m : Message) : (orphanedAdds.onMessage store.hasExpired now m).1 =
          if store.isOrphan .add m then [.discardOrphanedAdds] else [] := by
        rw [onMessage, findsOrphan_hasExpired]
        split <;> rfl
      rw [count_onTransaction (by decide), Nat.zero_add]
      exact rowsOf_eq_count hsteps step store.messages
  | orphanedPulls =>
      -- The stage has two steps, and a row is repaired in one of them.
      have hreturn := Store.giveBack_eq (store.isOrphan .pull) now store
        fun m => m.isOrphan_exhaust store .pull now
      have hsteps (m : Message) : (orphanedPulls.onMessage store.hasExpired now m).1 =
          if store.isOrphan .pull m && !m.isLastAttempt then [.requeueOrphanedPulls]
          else if store.isOrphan .pull m && m.isLastAttempt then [.exhaustOrphanedPulls]
          else [] := by
        rw [onMessage, findsOrphan_hasExpired]
        cases store.isOrphan .pull m <;> cases m.isLastAttempt <;> rfl
      rw [count_onTransaction (by decide), Nat.zero_add, repair, Store.returnOrphanedPulls, hreturn]
      cases step with
      | requeueOrphanedPulls =>
          refine (Repair.count_eq_countP fun m => ?_).symm
          rw [hsteps]
          cases store.isOrphan .pull m <;> cases m.isLastAttempt <;> rfl
      | exhaustOrphanedPulls =>
          refine (Repair.count_eq_countP fun m => ?_).symm
          rw [hsteps]
          cases store.isOrphan .pull m <;> cases m.isLastAttempt <;> rfl
      | _ =>
          refine (Repair.count_eq_zero fun m => ?_).symm
          rw [hsteps]
          cases store.isOrphan .pull m <;> cases m.isLastAttempt <;> rfl
  | lifetimes =>
      rw [count_onTransaction (by decide), Nat.zero_add]
      refine rowsOf_eq_count (fun m => ?_) step store.messages
      rw [onMessage]
      split <;> rfl
  | attempts =>
      rw [count_onTransaction (by decide), Nat.zero_add]
      refine rowsOf_eq_count (fun m => ?_) step store.messages
      rw [onMessage]
      split <;> rfl

/-- The rows of a step are counted through both halves. -/
theorem rowsOf_append (first second : List (SweepStep × Nat)) (step : SweepStep) :
    SweepReport.rowsOf (first ++ second) step =
      SweepReport.rowsOf first step + SweepReport.rowsOf second step := by
  unfold SweepReport.rowsOf
  induction first with
  | nil => simp
  | cons row rest ih =>
      by_cases h : row.1 = step <;> simp_all [Nat.add_assoc]

/-- What stages behind the first do to a store, they do to its messages one by one. -/
theorem repairAll_ofMessages {stages : List SweepStage} (h : .transactions ∉ stages)
    (now : Instant) (store : Store) :
    repairAll stages now store =
        { store with messages := (onMessageAll store.hasExpired now stages).leave store.messages } ∧
      ∀ step, SweepReport.rowsOf (rowsAll now stages store) step =
        (onMessageAll store.hasExpired now stages).count step store.messages := by
  induction stages generalizing store with
  | nil =>
      refine ⟨?_, fun step => (Repair.count_eq_zero fun _ => rfl).symm⟩
      rw [onMessageAll, Repair.leave, List.filterMap_some]
      rfl
  | cons stage rest ih =>
      obtain ⟨hstage, hrest⟩ := List.ne_and_not_mem_of_not_mem_cons h
      have hafter : (stage.repair now store).2 =
          { store with
            messages := (stage.onMessage store.hasExpired now).leave store.messages } := by
        rw [store_repair_eq, leave_onTransaction hstage.symm]
      obtain ⟨hstore, hrows⟩ := ih hrest (stage.repair now store).2
      -- The stage leaves the transactions alone, so the same ones have expired after it.
      have hexpired : (stage.repair now store).2.hasExpired = store.hasExpired := by
        rw [hafter]
        rfl
      rw [hexpired] at hstore hrows
      refine ⟨?_, fun step => ?_⟩
      · rw [onMessageAll, Repair.leave_andThen]
        show repairAll rest now (stage.repair now store).2 = _
        rw [hstore, hafter]
      · rw [rowsAll, rowsOf_append, rowsOf_repair, count_onTransaction hstage.symm, Nat.zero_add,
          hrows, hafter, onMessageAll, Repair.count_andThen]

/-- What a whole sweep leaves, and what it reports, is told row by row. -/
theorem sweep_eq (now : Instant) (store : Store) :
    repairAll all now store =
        { store with
          transactions := (transactions.onTransaction now).leave store.transactions
          messages := (sweepMessage (expiredAt store now) now).leave store.messages } ∧
      ∀ step, SweepReport.rowsOf (rowsAll now all store) step =
        (transactions.onTransaction now).count step store.transactions +
          (sweepMessage (expiredAt store now) now).count step store.messages := by
  have hafter : (transactions.repair now store).2 =
      { store with
        transactions := (transactions.onTransaction now).leave store.transactions } := by
    have hmessages : (transactions.onMessage store.hasExpired now).leave store.messages =
        store.messages := List.filterMap_some
    rw [store_repair_eq, hmessages]
  have hbehind : .transactions ∉ ofMessages := by decide
  obtain ⟨hstore, hrows⟩ := repairAll_ofMessages hbehind now (transactions.repair now store).2
  rw [hafter] at hstore hrows
  refine ⟨?_, fun step => ?_⟩
  · show repairAll ofMessages now (transactions.repair now store).2 = _
    rw [hafter, hstore]
    rfl
  · show SweepReport.rowsOf ((transactions.repair now store).1 ++
      rowsAll now ofMessages (transactions.repair now store).2) step = _
    rw [rowsOf_append, rowsOf_repair, count_onMessage_transactions, Nat.add_zero, hafter, hrows]
    rfl

end SweepStage

end WorkQueue
