import WorkQueue.Proofs.Store.Fates
import WorkQueue.Proofs.Time.StoredOrder

/-!
# What a stage of a sweep has settled

A stage is settled when it finds no row to repair. A stage that has been made is settled, stays so
while the stages behind it are made, and has nothing to do when it is made again. So a sweep that is
begun anew does for the stages that were made before nothing, and for the others what it would have
done: `repairAll_take`. What is settled at an instant was settled at every instant before.
-/

namespace WorkQueue

/-- Not to come later as a text is transitive. -/
theorem Instant.storedLe_trans {a b c : Instant} (hab : a.storedLe b = true)
    (hbc : b.storedLe c = true) : a.storedLe c = true := by
  simp only [storedLe, Bool.not_eq_true', decide_eq_false_iff_not, List.not_lt] at *
  exact List.le_trans hab hbc

namespace SweepStage

/-- Is the transaction one that the stage ends? -/
def findsTransaction (stage : SweepStage) (now : Instant) (t : Transaction) : Bool :=
  match stage with
  | .transactions => t.isActive && t.expiryTime.storedLe now
  | _ => false

/-- Is the message one that the stage repairs? -/
def findsMessage (stage : SweepStage) (now : Instant) (store : Store) (m : Message) : Bool :=
  match stage with
  | .transactions => false
  | .orphanedAdds => store.isOrphan .add m
  | .orphanedPulls => store.isOrphan .pull m
  | .lifetimes => m.state = .active && m.lifetimePassed now
  | .attempts => m.state = .active && m.maxAttempts ≤ m.attempts

/-- The number of stages before the stage. -/
def position : SweepStage → Nat
  | .transactions => 0
  | .orphanedAdds => 1
  | .orphanedPulls => 2
  | .lifetimes => 3
  | .attempts => 4

/-- The store after some stages. -/
def repairAll (stages : List SweepStage) (now : Instant) (store : Store) : Store :=
  stages.foldl (fun store stage => (stage.repair now store).2) store

/-- The rows that some stages repair. -/
def rowsAll (now : Instant) : List SweepStage → Store → List (SweepStep × Nat)
  | [], _ => []
  | stage :: rest, store =>
      (stage.repair now store).1 ++ rowsAll now rest (stage.repair now store).2

end SweepStage

namespace Store

/-- There is no row that the stage repairs. -/
structure Settled (store : Store) (stage : SweepStage) (now : Instant) : Prop where
  transactions : ∀ t ∈ store.transactions, stage.findsTransaction now t = false
  messages : ∀ m ∈ store.messages, stage.findsMessage now store m = false

variable {store : Store}

/-- When no row is selected, to change the selected rows changes none. -/
theorem map_ite_of_none {Row : Type} {rows : List Row} {selected : Row → Bool} {change : Row → Row}
    (h : ∀ row ∈ rows, selected row = false) :
    (rows.map fun row => if selected row then change row else row) = rows :=
  (List.map_congr_left fun row hrow => by simp [h row hrow]).trans (List.map_id' _)

/-- Without messages to change nothing is changed. -/
theorem updateMessages_of_none {selected : Message → Bool} {change : Message → Message}
    (h : ∀ m ∈ store.messages, selected m = false) :
    store.updateMessages selected change = (0, store) := by
  have hcount : store.messages.countP selected = 0 :=
    List.countP_eq_zero.2 fun m hm => by simp [h m hm]
  rw [updateMessages, hcount, map_ite_of_none h]

/-- Without messages to delete nothing is deleted. -/
theorem removeMessages_of_none {selected : Message → Bool}
    (h : ∀ m ∈ store.messages, selected m = false) :
    store.removeMessages selected = (0, store) := by
  have hcount : store.messages.countP selected = 0 :=
    List.countP_eq_zero.2 fun m hm => by simp [h m hm]
  have hrows : (store.messages.filter fun m => !selected m) = store.messages :=
    List.filter_eq_self.2 fun m hm => by simp [h m hm]
  rw [removeMessages, hcount, hrows]

/-- Without transactions to change nothing is changed. -/
theorem updateTransactions_of_none {selected : Transaction → Bool}
    {change : Transaction → Transaction} (h : ∀ t ∈ store.transactions, selected t = false) :
    store.updateTransactions selected change = (0, store) := by
  have hcount : store.transactions.countP selected = 0 :=
    List.countP_eq_zero.2 fun t ht => by simp [h t ht]
  rw [updateTransactions, hcount, map_ite_of_none h]

/-- Without messages to give back none is given back. -/
theorem giveBack_of_none {selected : Message → Bool} {now : Instant}
    (h : ∀ m ∈ store.messages, selected m = false) :
    store.giveBack selected now = (⟨0, 0⟩, store) := by
  have hlast : store.updateMessages (fun m => selected m && m.isLastAttempt)
      (fun m => m.exhaust now) = (0, store) :=
    updateMessages_of_none fun m hm => by simp [h m hm]
  have hrest : store.updateMessages selected Message.requeue = (0, store) :=
    updateMessages_of_none h
  rw [giveBack, hlast]
  simp only [hrest]

end Store

namespace SweepStage

variable {stage earlier : SweepStage} {now : Instant} {store : Store} {m : Message}

/-- Each stage has one step, but for the third, which has two. -/
def steps : SweepStage → List SweepStep
  | .transactions => [.expireTransactions]
  | .orphanedAdds => [.discardOrphanedAdds]
  | .orphanedPulls => [.requeueOrphanedPulls, .exhaustOrphanedPulls]
  | .lifetimes => [.expireMessages]
  | .attempts => [.closeExhaustedMessages]

/-- A stage that is settled repairs nothing and changes nothing. -/
theorem repair_of_settled (h : store.Settled stage now) :
    stage.repair now store = (stage.steps.map fun step => (step, 0), store) := by
  cases stage with
  | transactions =>
      have hexpire : store.expireTransactions now = (0, store) :=
        Store.updateTransactions_of_none h.transactions
      rw [repair, hexpire]
      rfl
  | orphanedAdds =>
      have hdiscard : store.discardOrphanedAdds = (0, store) :=
        Store.removeMessages_of_none h.messages
      rw [repair, hdiscard]
      rfl
  | orphanedPulls =>
      have hreturn : store.returnOrphanedPulls now = (⟨0, 0⟩, store) :=
        Store.giveBack_of_none h.messages
      rw [repair, hreturn]
      rfl
  | lifetimes =>
      have hexpire : store.expireMessages now = (0, store) :=
        Store.updateMessages_of_none h.messages
      rw [repair, hexpire]
      rfl
  | attempts =>
      have hclose : store.closeExhaustedMessages now = (0, store) :=
        Store.updateMessages_of_none h.messages
      rw [repair, hclose]
      rfl

/-- No stage repairs a message at the end of its life. -/
theorem findsMessage_of_terminal (h : m.state.isTerminal = true) :
    stage.findsMessage now store m = false := by
  cases stage <;> cases hstate : m.state <;>
    simp_all [findsMessage, Store.isOrphan, MessageState.isTerminal]

/-- The first three stages do not repair a message that is in no transaction. -/
theorem findsMessage_of_free (h : m.state ≠ .inTransaction) (hstage : stage.position ≤ 2) :
    stage.findsMessage now store m = false := by
  cases stage with
  | transactions => rfl
  | orphanedAdds | orphanedPulls => simp [findsMessage, Store.isOrphan, h]
  | lifetimes | attempts => simp [position] at hstage

/-- Which messages a stage repairs depends on the transactions of the store alone. -/
theorem findsMessage_congr {other : Store} (h : other.transactions = store.transactions) :
    stage.findsMessage now other m = stage.findsMessage now store m := by
  have hexpired : other.hasExpired = store.hasExpired := by
    funext id
    rw [Store.hasExpired, Store.hasExpired, h]
  cases stage <;> simp only [findsMessage, Store.isOrphan, hexpired]

/-- The stages behind the first leave transactions as they are. -/
theorem transactions_repair (h : stage ≠ .transactions) (now : Instant) (store : Store) :
    (stage.repair now store).2.transactions = store.transactions := by
  cases stage with
  | transactions => exact absurd rfl h
  | orphanedAdds | orphanedPulls | lifetimes | attempts => rfl

/-- After the first stage no transaction is left that it would end. -/
theorem findsTransaction_repair {t : Transaction}
    (h : t ∈ (transactions.repair now store).2.transactions) :
    transactions.findsTransaction now t = false := by
  obtain ⟨old, _, rfl⟩ := List.mem_map.1 h
  dsimp only
  split
  · simp [findsTransaction, Transaction.isActive, Transaction.close]
  · next hkept => simpa [findsTransaction] using hkept

/-- A message after a stage is one that the stage did not repair, one that the third stage has taken
out of its transaction's hands, or one that is at the end of its life. -/
theorem mem_messages_repair (h : m ∈ (stage.repair now store).2.messages) :
    m ∈ store.messages ∧ stage.findsMessage now store m = false ∨
      stage.position ≤ 2 ∧ m.state ≠ .inTransaction ∨ m.state.isTerminal = true := by
  rw [Work.repair_eq_apply, Change.mem_messages_apply] at h
  rcases h with ⟨old, hold, hafter⟩ | hnew
  · cases stage with
    | transactions =>
        cases hafter
        exact .inl ⟨hold, rfl⟩
    | orphanedAdds =>
        simp only [Change.messageAfter] at hafter
        split at hafter
        · cases hafter
        · next hkept => cases hafter; exact .inl ⟨hold, Bool.eq_false_iff.2 hkept⟩
    | orphanedPulls =>
        simp only [Change.messageAfter] at hafter
        split at hafter
        · cases hafter
          refine .inr (.inl ⟨Nat.le_refl 2, ?_⟩)
          unfold Message.giveBack
          split <;> simp [Message.exhaust, Message.requeue]
        · next hkept => cases hafter; exact .inl ⟨hold, Bool.eq_false_iff.2 hkept⟩
    | lifetimes | attempts =>
        simp only [Change.messageAfter] at hafter
        split at hafter
        · cases hafter
          exact .inr (.inr rfl)
        · next hkept => cases hafter; exact .inl ⟨hold, Bool.eq_false_iff.2 hkept⟩
  · cases hnew

end SweepStage

namespace Store.Settled

variable {store : Store} {stage earlier : SweepStage} {now : Instant}

/-- A stage that has been made is settled, and a stage before it that was settled still is. -/
theorem repair (hposition : earlier.position ≤ stage.position)
    (hearlier : earlier = stage ∨ store.Settled earlier now) :
    (stage.repair now store).2.Settled earlier now := by
  by_cases hfirst : stage = .transactions
  · subst hfirst
    have hsame : earlier = .transactions := by
      cases earlier <;> simp_all [SweepStage.position]
    subst hsame
    exact ⟨fun t ht => SweepStage.findsTransaction_repair ht, fun m _ => rfl⟩
  · have htransactions := SweepStage.transactions_repair hfirst now store
    refine ⟨fun t ht => ?_, fun m hm => ?_⟩
    · rw [htransactions] at ht
      rcases hearlier with rfl | hsettled
      · cases earlier <;> first | rfl | exact absurd rfl hfirst
      · exact hsettled.transactions t ht
    · rw [SweepStage.findsMessage_congr htransactions]
      rcases SweepStage.mem_messages_repair hm with ⟨hold, hleft⟩ | ⟨hthird, hfree⟩ | hterminal
      · rcases hearlier with rfl | hsettled
        · exact hleft
        · exact hsettled.messages m hold
      · exact SweepStage.findsMessage_of_free hfree (hposition.trans hthird)
      · exact SweepStage.findsMessage_of_terminal hterminal

/-- Stages that are made in their order are all settled in the end, and so are those before them
that were settled in the beginning. -/
theorem repairAll {stages : List SweepStage}
    (horder : stages.Pairwise fun first second => first.position ≤ second.position)
    (hearlier : earlier ∈ stages ∨
      (∀ later ∈ stages, earlier.position ≤ later.position) ∧ store.Settled earlier now) :
    (SweepStage.repairAll stages now store).Settled earlier now := by
  induction stages generalizing store with
  | nil => exact (hearlier.resolve_left List.not_mem_nil).2
  | cons stage rest ih =>
      obtain ⟨hbehind, hrest⟩ := List.pairwise_cons.1 horder
      refine ih hrest ?_
      rcases hearlier with hmem | ⟨hbefore, hsettled⟩
      · rcases List.mem_cons.1 hmem with rfl | hmem
        · exact .inr ⟨hbehind, repair (Nat.le_refl _) (.inl rfl)⟩
        · exact .inl hmem
      · exact .inr ⟨fun later hlater => hbefore later (List.mem_cons_of_mem _ hlater),
          repair (hbefore stage List.mem_cons_self) (.inr hsettled)⟩

/-- What is settled at an instant is settled at every earlier one. -/
theorem mono {before : Instant} (hle : before.storedLe now = true)
    (h : store.Settled stage now) : store.Settled stage before := by
  have hpassed {expiry : Instant} (hexpiry : expiry.storedLe before = true) :
      expiry.storedLe now = true := Instant.storedLe_trans hexpiry hle
  refine ⟨fun t ht => ?_, fun m hm => ?_⟩
  · have hnow := h.transactions t ht
    cases stage with
    | transactions =>
        refine Bool.eq_false_iff.2 fun hfound => Bool.eq_false_iff.1 hnow ?_
        obtain ⟨hactive, hexpiry⟩ := Bool.and_eq_true_iff.1 hfound
        exact Bool.and_eq_true_iff.2 ⟨hactive, hpassed hexpiry⟩
    | orphanedAdds | orphanedPulls | lifetimes | attempts => rfl
  · have hnow := h.messages m hm
    cases stage with
    | lifetimes =>
        refine Bool.eq_false_iff.2 fun hfound => Bool.eq_false_iff.1 hnow ?_
        obtain ⟨hactive, hlifetime⟩ := Bool.and_eq_true_iff.1 hfound
        refine Bool.and_eq_true_iff.2 ⟨hactive, ?_⟩
        obtain ⟨expiry, hmem, hexpiry⟩ := (Option.any_eq_true _ _).1 hlifetime
        exact (Option.any_eq_true _ _).2 ⟨expiry, hmem, hpassed hexpiry⟩
    | transactions | orphanedAdds | orphanedPulls | attempts => exact hnow

end Store.Settled

namespace SweepStage

variable {now : Instant} {store : Store}

/-- Stages that are settled repair nothing and change nothing. -/
theorem repairAll_of_settled {stages : List SweepStage}
    (h : ∀ stage ∈ stages, store.Settled stage now) :
    repairAll stages now store = store ∧
      rowsAll now stages store = (stages.flatMap steps).map fun step => (step, 0) := by
  induction stages with
  | nil => exact ⟨rfl, rfl⟩
  | cons stage rest ih =>
      obtain ⟨hstage, hrest⟩ := List.forall_mem_cons.1 h
      obtain ⟨hstore, hrows⟩ := ih hrest
      have hmade := repair_of_settled hstage
      constructor
      · rw [repairAll, List.foldl_cons, hmade]
        exact hstore
      · rw [rowsAll, hmade, hrows, List.flatMap_cons, List.map_append]

/-- The stages of a sweep stand in their order. -/
theorem pairwise_all : all.Pairwise fun first second => first.position ≤ second.position := by
  decide

/-- After a sweep every stage is settled. -/
theorem settled_repairAll (stage : SweepStage) (now : Instant) (store : Store) :
    (repairAll all now store).Settled stage now :=
  .repairAll pairwise_all (.inl (by cases stage <;> decide))

/-- A sweep that follows one that stopped halfway finishes it. -/
theorem repairAll_take (made : Nat) (now : Instant) (store : Store) :
    repairAll all now (repairAll (all.take made) now store) = repairAll all now store := by
  have hagain : repairAll (all.take made) now (repairAll (all.take made) now store) =
      repairAll (all.take made) now store :=
    (repairAll_of_settled fun stage hstage =>
      .repairAll (pairwise_all.sublist (List.take_sublist made all)) (.inl hstage)).1
  have hsplit (start : Store) : repairAll all now start =
      repairAll (all.drop made) now (repairAll (all.take made) now start) := by
    rw [repairAll, repairAll, repairAll, ← List.foldl_append, List.take_append_drop]
  rw [hsplit, hagain, hsplit]

end SweepStage

end WorkQueue
