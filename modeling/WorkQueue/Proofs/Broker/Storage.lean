import WorkQueue.Broker.Lifetime
import WorkQueue.Proofs.Work.Effects

/-!
# Work in storage transactions

Work under a transaction is done if the transaction is open. It is refused if the transaction is not
there or is over, and one whose lifetime has passed is undone instead. The broker does its work in
storage transactions: each of them fails and changes nothing, or does the work.
-/

namespace WorkQueue

namespace Store

/-- Why work under a transaction that is not active is refused. -/
def refusal (store : Store) (id : TransactionId) : Error :=
  match store.transaction? id with
  | none => .notFound id.display
  | some t => if t.state = .expired then .expired id else .closed id

end Store

namespace Work

variable {store : Store} {id : TransactionId} {now : Instant} {α : Type} (work : Work α)

/-- Under an open transaction the work is done. -/
theorem run_under_of_open (h : store.IsOpen id now) :
    (under id now work).run store = (Admitted.done <$> work).run store := by
  obtain ⟨t, hfind, hstate, hopen⟩ := h
  rw [under, run_get_bind]
  simp [hfind, hstate, hopen]

/-- Work under a transaction whose lifetime has passed is not done; the transaction is undone. -/
theorem run_under_of_lapsed (h : store.HasLapsed id now) :
    (under id now work).run store =
      .ok (.lapsed (store.unwound fun action m => m.isHeldBy id action),
        (Change.undo id .expired expiredReason now).apply store) := by
  have hunwind := run_unwind .expired expiredReason now h.exists_active
  obtain ⟨t, hfind, hstate, hlapsed⟩ := h
  rw [under, run_get_bind]
  simp [hfind, hstate, hlapsed, hunwind]

/-- Work under a transaction that is not there or is over is refused. -/
theorem run_under_of_refused (hopen : ¬ store.IsOpen id now) (hlapsed : ¬ store.HasLapsed id now) :
    (under id now work).run store = .error (store.refusal id) := by
  rw [under, run_get_bind, Store.refusal]
  cases hfind : store.transaction? id with
  | none => rfl
  | some t =>
      cases hstate : t.state with
      | active =>
          cases hexpired : t.isExpiredAt now with
          | false => exact absurd ⟨t, hfind, hstate, hexpired⟩ hopen
          | true => exact absurd ⟨t, hfind, hstate, hexpired⟩ hlapsed
      | committed | rolledBack | expired => simp [hstate]; rfl

end Work

namespace Broker

variable {α β : Type} {broker after : Broker} {answer : α}

/-- A call that answers goes on with its answer and the state after it. -/
theorem run_bind_of_ok {State ε : Type} {call : ExceptT ε (StateM State) α}
    {next : α → ExceptT ε (StateM State) β} {state after : State}
    (h : call.run state = (.ok answer, after)) :
    (call >>= next).run state = (next answer).run after := by
  unfold ExceptT.run at h ⊢
  simp only [bind, ExceptT.bind, ExceptT.mk, StateT.bind, h]
  rfl

/-- A call that fails is all that is done. -/
theorem run_bind_of_error {State ε : Type} {call : ExceptT ε (StateM State) α}
    {next : α → ExceptT ε (StateM State) β} {state after : State} {error : ε}
    (h : call.run state = (.error error, after)) :
    (call >>= next).run state = (.error error, after) := by
  unfold ExceptT.run at h ⊢
  simp only [bind, ExceptT.bind, ExceptT.mk, StateT.bind, h]
  rfl

/-- What comes after a part depends on what the part comes to. -/
theorem run_bind_congr {State ε : Type} {call other : ExceptT ε (StateM State) α}
    {next : α → ExceptT ε (StateM State) β} {state : State}
    (h : call.run state = other.run state) :
    (call >>= next).run state = (other >>= next).run state := by
  unfold ExceptT.run at h ⊢
  simp only [bind, ExceptT.bind, ExceptT.mk, StateT.bind, h]

/-- A call that begins by looking at the clock goes on with what it shows. -/
theorem run_now_bind {next : Instant → Call β} :
    (now >>= next).run broker = (next broker.clock).run broker :=
  rfl

/-- A check that is passed lets the call go on. -/
theorem run_check_of_ok {result : Except Error α} (h : result = .ok answer) :
    (check result).run broker = (.ok answer, broker) := by
  rw [h]
  rfl

/-- A check that fails is all that is done. -/
theorem run_check_of_error {result : Except Error α} {error : Error} (h : result = .error error) :
    (check result).run broker = (.error error, broker) := by
  rw [h]
  rfl

/-- The broker once a storage transaction has been asked for. -/
def begun (broker : Broker) : Broker :=
  { broker with outages := broker.outages.pass }

/-- Without outages to come the next storage transaction can be begun. -/
theorem begins_of_calm (h : broker.outages = {}) : broker.outages.hitsNext = false := by
  rw [h]; rfl

/-- Without outages to come there are none after a storage transaction. -/
theorem pass_of_calm (h : broker.outages = {}) : broker.outages.pass = {} := by
  rw [h]; rfl

/-- Work is not done in a storage transaction that cannot be begun. -/
theorem run_inStorage_of_outage {work : Work α} (h : broker.outages.hitsNext = true) :
    (inStorage work).run broker = (.error (.storage .noConnection), broker.begun) := by
  simp only [inStorage, ExceptT.run, ExceptT.mk, h, if_true, begun]

/-- Work that succeeds is done in its storage transaction. -/
theorem run_inStorage_of_ok {work : Work α} {changed : Store}
    (h : broker.outages.hitsNext = false) (hwork : work.run broker.store = .ok (answer, changed)) :
    (inStorage work).run broker = (.ok answer, { broker.begun with store := changed }) := by
  simp [inStorage, ExceptT.run, ExceptT.mk, h, Work.finish, hwork, begun]

/-- Work that fails leaves the store as it was. -/
theorem run_inStorage_of_error {work : Work α} {error : Error}
    (h : broker.outages.hitsNext = false) (hwork : work.run broker.store = .error error) :
    (inStorage work).run broker = (.error error, broker.begun) := by
  simp [inStorage, ExceptT.run, ExceptT.mk, h, Work.finish, hwork, begun]

/-- A storage transaction fails and changes nothing, or does the work. -/
theorem inStorage_cases (work : Work α) (broker : Broker) :
    (∃ error after, (inStorage work).run broker = (.error error, after) ∧
      after.store = broker.store) ∨
      ∃ answer changed, work.run broker.store = .ok (answer, changed) ∧
        (inStorage work).run broker = (.ok answer, { broker.begun with store := changed }) := by
  cases hbegin : broker.outages.hitsNext with
  | true => exact .inl ⟨_, _, run_inStorage_of_outage hbegin, rfl⟩
  | false =>
      cases hwork : work.run broker.store with
      | error error => exact .inl ⟨_, _, run_inStorage_of_error hbegin hwork, rfl⟩
      | ok result => exact .inr ⟨result.1, result.2, rfl, run_inStorage_of_ok hbegin hwork⟩

/-- The entries of the journal about a transaction that was found lapsed. -/
def lapseEntries (id : TransactionId) (undone : RollbackSummary) : List Entry :=
  [.counted (.transactionOutcome .expired) 1] ++ countUndone undone ++
    [.event (.transactionLapsed id undone)]

/-- A call under a transaction whose lifetime has passed undoes the transaction, enters that in the
journal, and says that the transaction has expired. -/
theorem run_under_of_lapsed {id : TransactionId} {now : Instant} {work : Work α}
    (h : broker.outages.hitsNext = false) (hlapsed : broker.store.HasLapsed id now) :
    (under id now work).run broker =
      (.error (.expired id),
        { broker.begun with
          store := (Change.undo id .expired expiredReason now).apply broker.store
          journal := broker.journal ++
            lapseEntries id (broker.store.unwound fun action m => m.isHeldBy id action) }) :=
  run_bind_of_ok (run_inStorage_of_ok h (Work.run_under_of_lapsed work hlapsed))

/-- A call under an open transaction does its work, if the work succeeds. -/
theorem run_under_of_ok {id : TransactionId} {now : Instant} {work : Work α} {changed : Store}
    (h : broker.outages.hitsNext = false) (hopen : broker.store.IsOpen id now)
    (hwork : work.run broker.store = .ok (answer, changed)) :
    (under id now work).run broker = (.ok answer, { broker.begun with store := changed }) := by
  have hunder := Work.run_under_of_open work hopen
  rw [StateT.run_map, hwork] at hunder
  exact run_bind_of_ok (run_inStorage_of_ok h hunder)

/-- A call under a transaction fails and changes nothing, finds the transaction lapsed and undoes
it, or does the work under the open transaction. -/
theorem under_cases (id : TransactionId) (now : Instant) (work : Work α) (broker : Broker) :
    (∃ error after, (under id now work).run broker = (.error error, after) ∧
      after.store = broker.store) ∨
      (∃ after, broker.store.HasLapsed id now ∧
        (under id now work).run broker = (.error (.expired id), after) ∧
        after.store = (Change.undo id .expired expiredReason now).apply broker.store) ∨
      (broker.store.IsOpen id now ∧ ∃ answer changed,
        work.run broker.store = .ok (answer, changed) ∧
        (under id now work).run broker = (.ok answer, { broker.begun with store := changed })) := by
  cases hbegin : broker.outages.hitsNext with
  | true => exact .inl ⟨_, _, run_bind_of_error (run_inStorage_of_outage hbegin), rfl⟩
  | false =>
      by_cases hopen : broker.store.IsOpen id now
      · have hunder := Work.run_under_of_open work hopen
        cases hwork : work.run broker.store with
        | error error =>
            rw [StateT.run_map, hwork] at hunder
            exact .inl ⟨_, _, run_bind_of_error (run_inStorage_of_error hbegin hunder), rfl⟩
        | ok result =>
            exact .inr (.inr ⟨hopen, result.1, result.2, rfl, run_under_of_ok hbegin hopen hwork⟩)
      · by_cases hlapsed : broker.store.HasLapsed id now
        · exact .inr (.inl ⟨_, hlapsed, run_under_of_lapsed hbegin hlapsed, rfl⟩)
        · have hrefused := Work.run_under_of_refused work hopen hlapsed
          exact .inl ⟨_, _, run_bind_of_error (run_inStorage_of_error hbegin hrefused), rfl⟩

end Broker

end WorkQueue
