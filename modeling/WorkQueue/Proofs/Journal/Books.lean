import WorkQueue.Proofs.Run.Calls
import WorkQueue.Proofs.Sweep.Rows

/-!
# The books of the broker

What the journal says has become of transactions, next to what the store says. A transaction is
started, and at most once it is committed, rolled back, or found expired; a change of the store
makes at most one of these so, and the first stage of a sweep ends as many transactions as it
reports. `Broker.Books` says that journal and store agree, and how many rows the journal has for
each step of a sweep: those that were counted, and those that were reported in events. Books are
kept by entering in the journal what a change has made so: `Broker.Books.book`.
-/

namespace WorkQueue

namespace Outcome

/-- Has a transaction in this state come to the outcome? All have been started. -/
def covers : Outcome → TransactionState → Bool
  | .started, _ => true
  | .committed, state => state = .committed
  | .rolledBack, state => state = .rolledBack
  | .expired, state => state = .expired

/-- What a transaction comes to that ends in this state. -/
def ofEnd? : TransactionState → Option Outcome
  | .active => none
  | .committed => some .committed
  | .rolledBack => some .rolledBack
  | .expired => some .expired

/-- An active transaction that ends in a state comes to the outcome of that state, and to no
other. -/
theorem covers_eq (outcome : Outcome) (target : TransactionState) :
    (if outcome.covers target then 1 else 0) =
      (if outcome.covers .active then 1 else 0) +
        if ofEnd? target = some outcome then 1 else 0 := by
  cases outcome <;> cases target <;> rfl

end Outcome

/-- The number of transactions that have come to an outcome. -/
def Store.outcomes (store : Store) (outcome : Outcome) : Nat :=
  store.transactions.countP fun t => outcome.covers t.state

/-- Transactions that are active and end in a state come to its outcome, one by one. -/
theorem countP_covers_map {selected : Transaction → Bool} {change : Transaction → Transaction}
    {target : TransactionState} (hselected : ∀ t, selected t = true → t.state = .active)
    (hchange : ∀ t, (change t).state = target) (outcome : Outcome) (rows : List Transaction) :
    (rows.map fun t => if selected t then change t else t).countP
        (fun t => outcome.covers t.state) =
      rows.countP (fun t => outcome.covers t.state) +
        if Outcome.ofEnd? target = some outcome then rows.countP selected else 0 := by
  induction rows with
  | nil => simp
  | cons t rest ih =>
      rw [List.map_cons, List.countP_cons, List.countP_cons, List.countP_cons, ih]
      by_cases hsel : selected t = true
      · rw [if_pos hsel, if_pos hsel, hchange, hselected t hsel, outcome.covers_eq target]
        split <;> omega
      · rw [if_neg hsel, if_neg hsel]
        split <;> omega

/-- Of the rows that are known by their numbers, one is selected if those that are selected have one
number. -/
theorem Ascending.countP_eq_one {Row : Type} [DecidableEq Row] {number : Row → Nat} {last : Nat}
    {rows : List Row} (h : Ascending number last rows) {selected : Row → Bool} {row : Row}
    (hrow : row ∈ rows) (hselected : selected row = true)
    (hsame : ∀ other, selected other = true → number other = number row) :
    rows.countP selected = 1 := by
  have hdistinct : rows.Nodup := h.sorted.imp fun hlt hab => Nat.ne_of_lt hlt (congrArg number hab)
  rw [← List.count_eq_one_of_mem hdistinct hrow, List.count]
  refine List.countP_congr fun other hother => ?_
  rw [beq_iff_eq]
  constructor
  · exact fun hother' => h.eq_of_number_eq hother hrow (hsame other hother')
  · rintro rfl
    exact hselected

/-- An active transaction that is closed by its number comes to the outcome of its end. -/
theorem Store.Numbered.outcomes_close {store : Store} (h : store.Numbered) {id : TransactionId}
    (hactive : ∃ t ∈ store.transactions, t.id = id ∧ t.isActive = true)
    {change : Transaction → Transaction} {target : TransactionState}
    (hchange : ∀ t, (change t).state = target) (outcome : Outcome) :
    (store.transactions.map fun t => if t.id = id && t.isActive then change t else t).countP
        (fun t => outcome.covers t.state) =
      store.outcomes outcome + if Outcome.ofEnd? target = some outcome then 1 else 0 := by
  obtain ⟨t, ht, hid, hstate⟩ := hactive
  have hone : store.transactions.countP (fun t => t.id = id && t.isActive) = 1 := by
    refine h.transactions.countP_eq_one ht (by simp [hid, hstate]) fun other hother => ?_
    have hother : other.id = id ∧ other.isActive = true := by simpa using hother
    rw [hother.1, hid]
  rw [countP_covers_map (fun t ht => ?_) hchange, hone]
  · rfl
  · exact of_decide_eq_true (Bool.and_eq_true_iff.1 ht).2

namespace Change

variable {store : Store}

/-- What a change makes of one transaction, if it starts or ends one by itself. -/
def outcome? : Change → Option Outcome
  | .start _ _ => some .started
  | .commit _ _ => some .committed
  | .undo _ target _ _ => Outcome.ofEnd? target
  | _ => none

/-- Nothing may always be done. -/
theorem allowed_nothing (store : Store) : nothing.Allowed store :=
  trivial

/-- The rows that a change repairs in a step. -/
def repaired (store : Store) (step : SweepStep) : Change → Nat
  | .repair stage now => SweepReport.rowsOf (stage.repair now store).1 step
  | _ => 0

/-- The outcomes after a change that starts no transaction are those of the rows that it leaves. -/
theorem outcomes_apply_of_kept {change : Change} (hnew : change.newTransactions store = [])
    (outcome : Outcome) :
    (change.apply store).outcomes outcome =
      (store.transactions.map change.transactionAfter).countP fun t => outcome.covers t.state := by
  rw [Store.outcomes, apply, hnew, List.append_nil]

/-- A change that leaves transactions in their states and starts none comes to no outcome. -/
theorem outcomes_apply_of_same {change : Change}
    (hstate : ∀ t, (change.transactionAfter t).state = t.state)
    (hnew : change.newTransactions store = []) (outcome : Outcome) :
    (change.apply store).outcomes outcome = store.outcomes outcome := by
  rw [outcomes_apply_of_kept hnew, List.countP_map]
  refine List.countP_congr fun t _ => ?_
  rw [Function.comp_apply, hstate]

/-- A change adds to each outcome the transaction that it starts or ends, or those that it
repairs. -/
theorem outcomes_apply (change : Change) (hallowed : change.Allowed store) (h : store.Numbered)
    (outcome : Outcome) :
    (change.apply store).outcomes outcome =
      store.outcomes outcome + (if change.outcome? = some outcome then 1 else 0) +
        if outcome = .expired then change.repaired store .expireTransactions else 0 := by
  cases change with
  | nothing | addQueue | dropQueue | add | take =>
      rw [outcomes_apply_of_same (fun _ => rfl) rfl]
      simp [outcome?, repaired]
  | extend id now expiry =>
      rw [outcomes_apply_of_same (fun t => ?_) rfl]
      · simp [outcome?, repaired]
      · rw [transactionAfter]
        split <;> rfl
  | start now expiry =>
      rw [apply_of_no_loss (fun _ => rfl) (fun _ => rfl) fun _ => rfl, Store.outcomes,
        List.countP_append]
      cases outcome <;> rfl
  | commit id now =>
      have hactive := Store.IsOpen.exists_active hallowed
      have hend (t : Transaction) : (t.close .committed now committedReason).state = .committed :=
        rfl
      have hrepaired : repaired store .expireTransactions (commit id now) = 0 := rfl
      rw [outcomes_apply_of_kept rfl, hrepaired, ite_self]
      exact h.outcomes_close hactive hend outcome
  | undo id target reason now =>
      have hactive : ∃ t ∈ store.transactions, t.id = id ∧ t.isActive = true := by
        rcases hallowed with ⟨_, hopen⟩ | ⟨_, _, hlapsed⟩
        · exact hopen.exists_active
        · exact hlapsed.exists_active
      have hend (t : Transaction) : (t.close target now reason).state = target := rfl
      have hrepaired : repaired store .expireTransactions (undo id target reason now) = 0 := rfl
      rw [outcomes_apply_of_kept rfl, hrepaired, ite_self]
      exact h.outcomes_close hactive hend outcome
  | repair stage now =>
      cases stage with
      | transactions =>
          have hselected (t : Transaction) (ht : (t.isActive && t.expiryTime.storedLe now) = true) :
              t.state = .active := of_decide_eq_true (Bool.and_eq_true_iff.1 ht).1
          have hend (t : Transaction) : (t.close .expired now expiredReason).state = .expired := rfl
          rw [outcomes_apply_of_kept rfl]
          refine (countP_covers_map hselected hend outcome store.transactions).trans ?_
          cases outcome <;> simp [Outcome.ofEnd?, outcome?, repaired, SweepStage.repair,
            SweepStage.rowsOf_singleton, Store.expireTransactions, Store.updateTransactions,
            Store.outcomes]
      | _ =>
          rw [outcomes_apply_of_same (fun _ => rfl) rfl]
          simp [outcome?, repaired, SweepStage.repair, SweepReport.rowsOf]

end Change

/-! ## What the journal says -/

namespace Journal

/-- The rows that sweeps have reported in events, step by step. -/
def stepRows (journal : Journal) : List (SweepStep × Nat) :=
  journal.filterMap fun
    | .event (.sweepStep step rows) => some (step, rows)
    | _ => none

/-- What was reported is put together from the parts of a journal. -/
@[simp]
theorem stepRows_append (first second : Journal) :
    stepRows (first ++ second) = first.stepRows ++ second.stepRows :=
  List.filterMap_append

/-- The events about the steps of a sweep report their rows. -/
@[simp]
theorem stepRows_map_sweepStep (rows : List (SweepStep × Nat)) :
    stepRows (rows.map fun (step, count) => .event (.sweepStep step count)) = rows := by
  induction rows with
  | nil => rfl
  | cons row rest ih => exact congrArg _ ih

/-- Events add nothing to a counter. -/
@[simp]
theorem total_map_event {Row : Type} (event : Row → Event) (rows : List Row) (counter : Counter) :
    total (rows.map fun row => .event (event row)) counter = 0 := by
  induction rows with
  | nil => rfl
  | cons row rest ih => exact ih

end Journal

/-- Do the entries say that one transaction has come to the outcome, or none, and say nothing of
sweeps? -/
structure Journal.Tells (entries : Journal) (told : Option Outcome) : Prop where
  outcomes_eq : ∀ outcome,
    entries.total (.transactionOutcome outcome) = if told = some outcome then 1 else 0
  counted_eq : ∀ step, entries.total (.sweepRows step) = 0
  reported_eq : entries.stepRows = []

/-- Is the entry neither about what transactions come to nor about the steps of a sweep? -/
def Entry.isAside : Entry → Bool
  | .counted (.transactionOutcome _) _ | .counted (.sweepRows _) _
  | .event (.sweepStep _ _) => false
  | _ => true

namespace Journal

/-- Entries on the side tell of nothing. -/
theorem tells_aside {entries : Journal} (h : entries.all Entry.isAside = true) :
    entries.Tells none := by
  induction entries with
  | nil => exact ⟨fun _ => rfl, fun _ => rfl, rfl⟩
  | cons entry rest ih =>
      obtain ⟨hentry, hrest⟩ := Bool.and_eq_true_iff.1 h
      obtain ⟨houtcomes, hcounted, hreported⟩ := ih hrest
      -- An entry on the side has no part in either sum, whatever its kind.
      have htotal (counter : Counter) (hcounter : (Entry.counted counter 0).isAside = false) :
          total (entry :: rest) counter = total rest counter := by
        cases entry with
        | counted other amount =>
            have hne : other ≠ counter := by
              rintro rfl
              cases other <;> simp_all [Entry.isAside]
            exact congrArg (List.foldr (· + ·) 0) (List.filterMap_cons_none (if_neg hne))
        | _ => rfl
      refine ⟨fun outcome => ?_, fun step => ?_, ?_⟩
      · rw [htotal _ rfl, houtcomes]
      · rw [htotal _ rfl, hcounted]
      · cases entry with
        | event happened =>
            cases happened with
            | sweepStep => cases hentry
            | _ => exact hreported
        | _ => exact hreported

/-- A count of one for an outcome tells of it. -/
theorem tells_outcome (outcome : Outcome) {entries : Journal}
    (h : entries.all Entry.isAside = true) :
    Tells (.counted (.transactionOutcome outcome) 1 :: entries) (some outcome) := by
  obtain ⟨houtcomes, hcounted, hreported⟩ := tells_aside h
  refine ⟨fun other => ?_, hcounted, hreported⟩
  rw [← List.singleton_append, total_append, houtcomes]
  cases outcome <;> cases other <;> rfl

end Journal

/-- Do journal and store agree on what has become of transactions, if for each step of a sweep so
many rows were counted, and so many reported? -/
structure Broker.Books (counted reported : SweepStep → Nat) (broker : Broker) : Prop where
  numbered : broker.store.Numbered
  outcomes_eq : ∀ outcome, broker.store.outcomes outcome =
    broker.journal.total (.transactionOutcome outcome) +
      if outcome = .expired then reported .expireTransactions else 0
  counted_eq : ∀ step, broker.journal.total (.sweepRows step) = counted step
  reported_eq : ∀ step, SweepReport.rowsOf broker.journal.stepRows step = reported step

namespace Broker.Books

variable {counted reported : SweepStep → Nat} {broker after : Broker}
  (h : broker.Books counted reported)
include h

/-- Books are of the store and the journal only. -/
theorem congr (hstore : after.store = broker.store) (hjournal : after.journal = broker.journal) :
    after.Books counted reported := by
  obtain ⟨hnumbered, houtcomes, hcounted, hreported⟩ := h
  rw [← hstore, ← hjournal] at *
  exact ⟨hnumbered, houtcomes, hcounted, hreported⟩

/-- A change is booked by entries that tell of the transaction that it starts or ends, and report
the rows that it repairs. -/
theorem book (change : Change) (hallowed : change.Allowed broker.store) {entries : Journal}
    (hstore : after.store = change.apply broker.store)
    (hjournal : after.journal = broker.journal ++ entries)
    (houtcomes : ∀ outcome, entries.total (.transactionOutcome outcome) =
      if change.outcome? = some outcome then 1 else 0)
    (hcounted : ∀ step, entries.total (.sweepRows step) = 0)
    (hreported : ∀ step,
      SweepReport.rowsOf entries.stepRows step = change.repaired broker.store step) :
    after.Books counted fun step => reported step + change.repaired broker.store step where
  numbered := hstore ▸ change.numbered_apply h.numbered
  outcomes_eq outcome := by
    rw [hstore, change.outcomes_apply hallowed h.numbered, h.outcomes_eq, hjournal,
      Journal.total_append, houtcomes]
    split <;> omega
  counted_eq step := by rw [hjournal, Journal.total_append, hcounted, h.counted_eq, Nat.add_zero]
  reported_eq step := by
    rw [hjournal, Journal.stepRows_append, SweepStage.rowsOf_append, h.reported_eq, hreported]

/-- A change by a client is booked by entries that tell of the transaction that it starts or
ends. -/
theorem book_of_tells {change : Change} (hallowed : change.Allowed broker.store)
    (hclient : ∀ step, change.repaired broker.store step = 0) {entries : Journal}
    (htells : entries.Tells change.outcome?) (hstore : after.store = change.apply broker.store)
    (hjournal : after.journal = broker.journal ++ entries) : after.Books counted reported := by
  have hbooks := h.book change hallowed hstore hjournal htells.outcomes_eq htells.counted_eq
    fun step => by
      rw [htells.reported_eq, hclient]
      rfl
  simpa only [hclient, Nat.add_zero] using hbooks

/-- Entries that tell of no transaction need no change. -/
theorem note {entries : Journal} (htells : entries.Tells none) :
    (broker.noted entries).Books counted reported :=
  h.book_of_tells (Change.allowed_nothing _) (fun _ => rfl) htells (Change.apply_nothing _).symm rfl

end Broker.Books

end WorkQueue
