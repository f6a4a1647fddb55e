import WorkQueue.Proofs.Run.Admission
import WorkQueue.Proofs.Run.Calls
import WorkQueue.Proofs.Sweep.Expired
import WorkQueue.Proofs.Time.StoredOrder

/-!
# Calls and sweeps expire alike

A transaction whose lifetime has passed is undone by the first call that works under it, whichever
call that is, or by the first three stages of a sweep. Both come to the same: if every lapsed
transaction is come upon by one call, in any order, the store is the one that the sweep leaves, and
the sweep reports what the calls have entered in the journal, added up: `lazy_expiry_eq_sweep`.
-/

namespace WorkQueue

/-- What was undone in the transactions that calls found lapsed, by the journal. -/
def Journal.lapses (journal : Journal) : List RollbackSummary :=
  journal.filterMap fun
    | .event (.transactionLapsed _ undone) => some undone
    | _ => none

/-- The broker after a call has come upon a lapsed transaction. -/
structure Broker.Lapse (id : TransactionId) (before after : Broker) : Prop where
  store_eq : after.store = (Change.undo id .expired expiredReason before.clock).apply before.store
  clock_eq : after.clock = before.clock
  outages_eq : after.outages = before.outages.pass
  journal_eq : after.journal = before.journal ++
    Broker.lapseEntries id (before.store.unwound fun action m => m.isHeldBy id action)

namespace Broker

variable {broker : Broker} {id : TransactionId}

/-- Work under a lapsed transaction undoes the transaction instead. -/
theorem exists_under_of_lapsed {α β : Type} (broker : Broker) (work : Work α)
    (next : α → Call β) (hbegin : broker.outages.hitsNext = false)
    (hlapsed : broker.store.HasLapsed id broker.clock) :
    ∃ after, (under id broker.clock work >>= next).run broker = (.error (.expired id), after) ∧
      broker.Lapse id after :=
  ⟨_, run_bind_of_error (run_under_of_lapsed hbegin hlapsed), rfl, rfl, rfl, rfl⟩

/-- A claim lock makes no difference to what a call answers and enters. -/
theorem exists_holdingClaim_of_lapse {α : Type} (queue : QueueId) (call : Call α)
    (hcall : ∀ locks, ∃ after,
      call.run { broker with locks } = (.error (.expired id), after) ∧
        Lapse id { broker with locks } after) :
    ∃ after, (holdingClaim queue call).run broker = (.error (.expired id), after) ∧
      broker.Lapse id after := by
  cases hclaims : broker.claims with
  | skipLocked =>
      obtain ⟨after, hrun, hlapse⟩ := hcall broker.locks
      refine ⟨after, ?_, hlapse⟩
      simp only [holdingClaim, ExceptT.run_mk, hclaims]
      exact hrun
  | serialized =>
      obtain ⟨after, hrun, hlapse⟩ := hcall (broker.locks.acquire () queue)
      refine ⟨{ after with locks := after.locks.release () }, ?_, ?_⟩
      · rw [hclaims] at hrun
        simp only [holdingClaim, ExceptT.run_mk, hclaims]
        rw [hrun]
      · exact ⟨hlapse.store_eq, hlapse.clock_eq, hlapse.outages_eq, hlapse.journal_eq⟩

/-- Every call under a lapsed transaction undoes the transaction and says that it has expired. -/
theorem exists_run_of_lapsed {call : Move} (hworks : call.WorksAt broker.clock)
    (howner : call.owner? = some id) (hbegin : broker.outages.hitsNext = false)
    (hlapsed : broker.store.HasLapsed id broker.clock) :
    ∃ after, call.call.run broker = (.error (.expired id), after) ∧ broker.Lapse id after := by
  cases call with
  | commit owner =>
      cases howner
      rw [Move.call, commit, run_now_bind]
      exact exists_under_of_lapsed broker _ _ hbegin hlapsed
  | rollback owner reason =>
      cases howner
      rw [Move.call, rollback, run_now_bind]
      exact exists_under_of_lapsed broker _ _ hbegin hlapsed
  | extend owner lifetime =>
      cases howner
      obtain ⟨expiry, hexpiry⟩ := hworks
      rw [Move.call, extend, run_now_bind, run_bind_of_ok (run_check_of_ok hexpiry)]
      exact exists_under_of_lapsed broker _ _ hbegin hlapsed
  | enqueue owner queue new =>
      cases howner
      obtain ⟨hcheck, expiry, hexpiry⟩ := hworks
      rw [Move.call, enqueue, run_bind_of_ok (run_check_of_ok hcheck), run_now_bind,
        run_bind_of_ok (run_check_of_ok hexpiry)]
      exact exists_under_of_lapsed broker _ _ hbegin hlapsed
  | dequeue owner queue =>
      cases howner
      rw [Move.call, dequeue]
      refine exists_holdingClaim_of_lapse queue _ fun locks => ?_
      rw [run_now_bind]
      exact exists_under_of_lapsed { broker with locks } _ _ hbegin hlapsed
  | _ => cases hworks

/-- The entries about several transactions that were found lapsed, in this order. -/
def lapsesEntries (store : Store) (ids : List TransactionId) : List Entry :=
  ids.flatMap fun id => lapseEntries id (store.unwound fun action m => m.isHeldBy id action)

/-- Calls that come upon different lapsed transactions, one after the other, leave the store with
all of these expired, and each call says so. -/
theorem play_lapsed (store : Store) {now : Instant} (calls : List Move) (broker : Broker)
    (done : List TransactionId) (hclock : broker.clock = now) (houtages : broker.outages = {})
    (hstore : broker.store = store.withExpired done now)
    (hworks : ∀ call ∈ calls, call.WorksAt now) (hdistinct : (calls.filterMap Move.owner?).Nodup)
    (hlapsed : ∀ id ∈ calls.filterMap Move.owner?, id ∉ done ∧ store.HasLapsed id now) :
    (play calls broker).store = store.withExpired (done ++ calls.filterMap Move.owner?) now ∧
      (∀ step ∈ trace calls broker, ∃ id, step.move.owner? = some id ∧
        step.move.answer step.before = .error (.expired id)) ∧
      (play calls broker).journal =
        broker.journal ++ lapsesEntries store (calls.filterMap Move.owner?) := by
  -- Along the calls, `done` collects the transactions that were come upon before.
  induction calls generalizing broker done with
  | nil => simp [play, trace, lapsesEntries, hstore]
  | cons call rest ih =>
      have hcall := hworks call List.mem_cons_self
      obtain ⟨id, howner⟩ : ∃ id, call.owner? = some id := by
        cases call <;> first | exact ⟨_, rfl⟩ | cases hcall
      rw [List.filterMap_cons_some howner] at hdistinct hlapsed ⊢
      obtain ⟨hnew, hrest⟩ := List.nodup_cons.1 hdistinct
      obtain ⟨hfresh, hold⟩ := hlapsed id List.mem_cons_self
      have hnow : broker.store.HasLapsed id broker.clock := by
        rw [hstore, hclock]
        exact hold.withExpired hfresh
      obtain ⟨after, hrun, hlapse⟩ := exists_run_of_lapsed (hclock ▸ hcall) howner
        (by rw [houtages]; rfl) hnow
      have hafter : call.after broker = after := congrArg Prod.snd hrun
      have hanswer : call.answer broker = .error (.expired id) := congrArg Prod.fst hrun
      have hnext : after.store = store.withExpired (done ++ [id]) now := by
        rw [hlapse.store_eq, hstore, hclock, Store.undo_withExpired]
      have hothers : ∀ other ∈ rest.filterMap Move.owner?,
          other ∉ done ++ [id] ∧ store.HasLapsed other now := by
        intro other hmem
        obtain ⟨hother, hlapsed⟩ := hlapsed other (List.mem_cons_of_mem id hmem)
        refine ⟨?_, hlapsed⟩
        rw [List.mem_append, List.mem_singleton]
        rintro (hdone | rfl)
        · exact hother hdone
        · exact hnew hmem
      obtain ⟨hplayed, hsaid, hentries⟩ := ih after (done ++ [id]) (hlapse.clock_eq.trans hclock)
        (by rw [hlapse.outages_eq, houtages]; rfl) hnext
        (fun other hmem => hworks other (List.mem_cons_of_mem call hmem)) hrest hothers
      refine ⟨?_, ?_, ?_⟩
      · rw [play, hafter, hplayed, List.append_assoc]
        rfl
      · intro step hstep
        rcases List.mem_cons.1 hstep with rfl | hlater
        · exact ⟨id, howner, hanswer⟩
        · rw [hafter] at hlater
          exact hsaid step hlater
      · rw [play, hafter, hentries, hlapse.journal_eq, hstore, Store.unwound_withExpired hfresh,
          List.append_assoc]
        rfl

/-- The entries about lapsed transactions tell what was undone. -/
theorem lapses_lapsesEntries (store : Store) (ids : List TransactionId) :
    Journal.lapses (lapsesEntries store ids) =
      ids.map fun id => store.unwound fun action m => m.isHeldBy id action := by
  induction ids with
  | nil => rfl
  | cons id rest ih => exact congrArg _ ih

/-- The stages of a sweep that see to lapsed transactions and what they hold. -/
def lapseStages : List SweepStage :=
  [.transactions, .orphanedAdds, .orphanedPulls]

/-- These stages expire the lapsed transactions, and report what was undone in all of them. -/
theorem run_lapseStages {broker : Broker} {now : Instant} (hnumbered : broker.store.Numbered)
    (hcompares : broker.store.ComparesAt now) (hclean : broker.store.NoOrphans)
    (houtages : broker.outages = {}) :
    ∃ after, (sweepStages now lapseStages).run broker =
      (.ok [(.expireTransactions, (broker.store.lapsed now).length),
          (.discardOrphanedAdds, (broker.store.unwound fun action m =>
            m.isHeldByAny (broker.store.lapsed now) action).discarded),
          (.requeueOrphanedPulls, (broker.store.unwound fun action m =>
            m.isHeldByAny (broker.store.lapsed now) action).requeued),
          (.exhaustOrphanedPulls, (broker.store.unwound fun action m =>
            m.isHeldByAny (broker.store.lapsed now) action).exhausted)], after) ∧
        after.store = broker.store.withExpired (broker.store.lapsed now) now := by
  let first := broker.swept .transactions now
  let second := first.swept .orphanedAdds now
  let third := second.swept .orphanedPulls now
  have hfirst := Store.repair_transactions hnumbered hcompares
  have hsecond := Store.repair_orphanedAdds now hclean
  have hthird := Store.repair_orphanedPulls now hclean
  have hstore₁ : first.store = (SweepStage.transactions.repair now broker.store).2 := rfl
  have hstore₂ : second.store = (SweepStage.orphanedAdds.repair now first.store).2 := rfl
  have hstore₃ : third.store = (SweepStage.orphanedPulls.repair now second.store).2 := rfl
  rw [hfirst] at hstore₁
  rw [hstore₁, hsecond] at hstore₂
  rw [hstore₂, hthird] at hstore₃
  have hbegin : broker.outages.hitsNext = false := by rw [houtages]; rfl
  have hbegin₁ : first.outages.hitsNext = false := by
    show broker.outages.pass.hitsNext = false
    rw [houtages]
    rfl
  have hbegin₂ : second.outages.hitsNext = false := by
    show broker.outages.pass.pass.hitsNext = false
    rw [houtages]
    rfl
  refine ⟨third, ?_, hstore₃⟩
  rw [lapseStages, run_sweepStages_of_ok hbegin, run_sweepStages_of_ok hbegin₁,
    run_sweepStages_of_ok hbegin₂, hstore₂, hthird, hstore₁, hsecond, hfirst]
  rfl

/-- From every reachable store in which no expired transaction holds a message, with the lifetimes
of transactions and the clock in the years that can be stored: let every lapsed transaction be come
upon by one call that works under it, in any order. Each call says that its transaction has expired,
and the store is the one that the first three stages of a sweep leave; these report as many expired
transactions as there are, and what the calls have undone, added up. -/
theorem lazy_expiry_eq_sweep (broker : Broker) (moves : List Move) (now : Instant)
    (calls : List Move) (hnow : now.Storable)
    (hstored : ∀ t ∈ (play moves broker.emptied).store.transactions, t.expiryTime.Storable)
    (hclean : ∀ m ∈ (play moves broker.emptied).store.messages, ∀ owner, m.owner = some owner →
      (play moves broker.emptied).store.hasExpired owner = false)
    (hworks : ∀ call ∈ calls, call.WorksAt now)
    (howners : (calls.filterMap Move.owner?).Perm
      ((play moves broker.emptied).store.lapsed now)) :
    let found := { play moves broker.emptied with clock := now, outages := {} }
    ∃ rows swept entries,
      (sweepStages now lapseStages).run found = (.ok rows, swept) ∧
      (play calls found).store = swept.store ∧
      (∀ step ∈ trace calls found, ∃ id, step.move.owner? = some id ∧
        step.move.answer step.before = .error (.expired id)) ∧
      (play calls found).journal = found.journal ++ entries ∧
      (SweepReport.ofRows rows).transactionsExpired = (found.store.lapsed now).length ∧
      (SweepReport.ofRows rows).addsDiscarded =
        ((Journal.lapses entries).map RollbackSummary.discarded).sum ∧
      (SweepReport.ofRows rows).pullsRequeued =
        ((Journal.lapses entries).map RollbackSummary.requeued).sum ∧
      (SweepReport.ofRows rows).pullsExhausted =
        ((Journal.lapses entries).map RollbackSummary.exhausted).sum := by
  intro found
  have hnumbered : found.store.Numbered := (play_sound broker moves).numbered
  have hcompares : found.store.ComparesAt now := by
    intro t ht
    rw [Bool.eq_iff_iff, Instant.storedLe_iff (hstored t ht) hnow, Transaction.isExpiredAt,
      decide_eq_true_eq]
  obtain ⟨swept, hswept, hstore⟩ := run_lapseStages hnumbered hcompares hclean rfl
  have hdistinct := howners.nodup_iff.2 (hnumbered.nodup_lapsed now)
  obtain ⟨hplayed, hsaid, hentries⟩ := play_lapsed found.store calls found []
    rfl rfl (Store.withExpired_nil _ _).symm hworks hdistinct
    fun id hmem => ⟨List.not_mem_nil, hnumbered.hasLapsed (howners.mem_iff.1 hmem)⟩
  have hany (m : Message) (action : TransactionAction) :
      m.isHeldByAny (calls.filterMap Move.owner?) action =
        m.isHeldByAny (found.store.lapsed now) action :=
    Message.isHeldByAny_congr fun _ => howners.mem_iff
  refine ⟨_, swept, _, hswept, ?_, hsaid, hentries, rfl, ?_, ?_, ?_⟩
  · rw [hplayed, hstore, List.nil_append]
    exact Store.withExpired_congr fun _ => howners.mem_iff
  all_goals rw [lapses_lapsesEntries, List.map_map]
  · have hsum := Store.sum_countP hdistinct .add (fun _ => true) found.store.messages
    simp only [Bool.and_true, hany] at hsum
    exact hsum.symm
  · have hsum := Store.sum_countP hdistinct .pull (fun m => !m.isLastAttempt) found.store.messages
    simp only [hany] at hsum
    exact hsum.symm
  · have hsum := Store.sum_countP hdistinct .pull (fun m => m.isLastAttempt) found.store.messages
    simp only [hany] at hsum
    exact hsum.symm

/-- A run that leaves two transactions with a minute to live: one has taken two messages, of which
one may be given back once only, and the other is adding a third. -/
def twoLapsing : List Move :=
  [.createQueue "q", .start (.ofSeconds 60), .enqueue ⟨1⟩ ⟨1⟩ { payload := [] },
    .enqueue ⟨1⟩ ⟨1⟩ { payload := [], maxAttempts := 1 }, .commit ⟨1⟩, .start (.ofSeconds 60),
    .dequeue ⟨2⟩ ⟨1⟩, .dequeue ⟨2⟩ ⟨1⟩, .start (.ofSeconds 60),
    .enqueue ⟨3⟩ ⟨1⟩ { payload := [] }]

/-- After a minute a sweep comes to the same as two calls under these transactions. -/
theorem lazy_expiry_eq_sweep_twoLapsing :
    let now : Instant := ⟨60, 0⟩
    let calls : List Move := [.commit ⟨3⟩, .dequeue ⟨2⟩ ⟨1⟩]
    let found : Broker :=
      { play twoLapsing { clock := ⟨0, 0⟩ } with clock := now, outages := {} }
    ∃ rows swept, (sweepStages now lapseStages).run found = (.ok rows, swept) ∧
      (play calls found).store = swept.store ∧
      (∀ step ∈ trace calls found, ∃ id, step.move.owner? = some id ∧
        step.move.answer step.before = .error (.expired id)) ∧
      (SweepReport.ofRows rows).transactionsExpired = 2 := by
  intro now calls found
  obtain ⟨rows, swept, _, hswept, hstore, hsaid, _, hexpired, _⟩ :=
    lazy_expiry_eq_sweep { clock := ⟨0, 0⟩ } twoLapsing now calls (by decide +kernel)
      (by decide +kernel) (by decide +kernel)
      (by
        intro call hcall
        obtain rfl | rfl : call = .commit ⟨3⟩ ∨ call = .dequeue ⟨2⟩ ⟨1⟩ := by
          simpa [calls] using hcall
        all_goals exact trivial)
      (by decide +kernel)
  refine ⟨rows, swept, hswept, hstore, hsaid, hexpired.trans ?_⟩
  decide +kernel

end Broker

end WorkQueue
