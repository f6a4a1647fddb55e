import WorkQueue.Proofs.Journal.Books
import WorkQueue.Proofs.Statements.Answers

/-!
# Calls keep the books

Every call of a client books what it changes: between its storage transaction and its entries in the
journal the broker owes these, and no call fails there. A call under a transaction whose lifetime
has passed books that the transaction has expired, and then fails with the books in order. That a
call that fails elsewhere has changed nothing is seen on the way.
-/

namespace WorkQueue

/-- Work that makes a change of a client when it answers, where something is given of the store: the
change starts or ends the transaction told of the answer, or none. -/
def Work.Makes {α : Type} (Given : Store → Prop) (gained : α → Option Outcome) (work : Work α) :
    Prop :=
  ∀ store answer changed, Given store → work.run store = .ok (answer, changed) →
    ∃ change : Change, change.Allowed store ∧ change.outcome? = gained answer ∧
      (∀ step, change.repaired store step = 0) ∧ changed = change.apply store

namespace Work

variable {α : Type}

/-- Work that only looks makes no change. -/
theorem OnlyLooks.makes {work : Work α} (h : OnlyLooks work) {Given : Store → Prop} :
    Makes Given (fun _ => none) work := by
  intro store answer changed _ hrun
  cases h store answer changed hrun
  exact ⟨.nothing, trivial, rfl, fun _ => rfl, (Change.apply_nothing store).symm⟩

/-- Peeking only looks. -/
theorem onlyLooks_peek (queue : QueueId) (now : Instant) : OnlyLooks (peek queue now) := by
  intro store answer changed hrun
  rcases run_peek queue now with ⟨error, herror⟩ | hpeeked
  · cases hrun.symm.trans herror
  · cases hrun.symm.trans hpeeked
    rfl

/-- Adding a queue starts and ends no transaction. -/
theorem makes_insertQueue (name : QueueName) :
    Makes (fun _ => True) (fun _ => none) (Store.insertQueue name) := by
  intro store answer changed _ hrun
  rcases run_insertQueue name with ⟨error, herror⟩ | ⟨hallowed, hadded⟩
  · cases hrun.symm.trans herror
  · cases hrun.symm.trans hadded
    exact ⟨_, hallowed, rfl, fun _ => rfl, rfl⟩

/-- Deleting a queue starts and ends no transaction. -/
theorem makes_deleteQueue (address : QueueAddress) :
    Makes (fun _ => True) (fun _ => none) (deleteQueue address) := by
  intro store answer changed _ hrun
  rcases run_deleteQueue address with ⟨error, herror⟩ | ⟨queue, hallowed, hdropped⟩
  · cases hrun.symm.trans herror
  · cases hrun.symm.trans hdropped
    exact ⟨_, hallowed, rfl, fun _ => rfl, rfl⟩

/-- Adding a transaction starts it. -/
theorem makes_insertTransaction (now expiry : Instant) :
    Makes (fun _ => True) (fun _ => some .started) (Store.insertTransaction now expiry) := by
  intro store answer changed _ hrun
  rcases run_insertTransaction expiry with ⟨error, herror⟩ | ⟨hallowed, hadded⟩
  · cases hrun.symm.trans herror
  · cases hrun.symm.trans hadded
    exact ⟨_, hallowed, rfl, fun _ => rfl, rfl⟩

variable (id : TransactionId) (now : Instant)

/-- Extending an open transaction does not end it. -/
theorem makes_extend (expiry : Instant) :
    Makes (fun store => store.IsOpen id now) (fun _ => none) (extend id expiry) := by
  intro store answer changed hopen hrun
  cases hrun.symm.trans (run_extend hopen)
  exact ⟨.extend id now expiry, hopen, rfl, fun _ => rfl, rfl⟩

/-- Committing an open transaction ends it so. -/
theorem makes_commit :
    Makes (fun store => store.IsOpen id now) (fun _ => some .committed) (commit id now) := by
  intro store answer changed hopen hrun
  cases hrun.symm.trans (run_commit hopen)
  exact ⟨.commit id now, hopen, rfl, fun _ => rfl, rfl⟩

/-- Rolling an open transaction back ends it so. -/
theorem makes_unwind (reason : String) :
    Makes (fun store => store.IsOpen id now) (fun _ => some .rolledBack)
      (unwind id .rolledBack reason now) := by
  intro store answer changed hopen hrun
  cases hrun.symm.trans (run_unwind _ _ _ hopen.exists_active)
  exact ⟨.undo id .rolledBack reason now, .inl ⟨rfl, hopen⟩, rfl, fun _ => rfl, rfl⟩

/-- Adding a message that has been checked starts and ends no transaction. -/
theorem makes_enqueue (queue : QueueId) {new : NewMessage} (hcheck : new.check = .ok ())
    (expiry : Option Instant) :
    Makes (fun store => store.IsOpen id now) (fun _ => none)
      (enqueue (new.draft queue id now expiry)) := by
  intro store answer changed hopen hrun
  have hattempts := NewMessage.maxAttempts_pos hcheck
  rcases run_enqueue (new.draft queue id now expiry) hopen hattempts with
    ⟨error, herror⟩ | ⟨hallowed, hadded⟩
  · cases hrun.symm.trans herror
  · cases hrun.symm.trans hadded
    exact ⟨_, hallowed, rfl, fun _ => rfl, rfl⟩

/-- Taking a message starts and ends no transaction. -/
theorem makes_dequeue (queue : QueueId) :
    Makes (fun store => store.IsOpen id now) (fun _ => none) (dequeue id queue now) := by
  intro store answer changed hopen hrun
  rcases run_dequeue queue hopen with
    ⟨error, herror⟩ | ⟨_, hnone⟩ | ⟨message, _, hallowed, htaken⟩
  · cases hrun.symm.trans herror
  · cases hrun.symm.trans hnone
    exact ⟨.nothing, trivial, rfl, fun _ => rfl, (Change.apply_nothing store).symm⟩
  · cases hrun.symm.trans htaken
    exact ⟨_, hallowed, rfl, fun _ => rfl, rfl⟩

/-- What work under a transaction gains: what the work gains, or that the transaction has
expired. -/
def underGain (gained : Option Outcome) : Admitted α → Option Outcome
  | .done _ => gained
  | .lapsed _ => some .expired

variable {id now}

/-- Work under a transaction makes its change, or ends the transaction because its lifetime has
passed. -/
theorem Makes.under {work : Work α} {gained : Option Outcome}
    (h : Makes (fun store => store.IsOpen id now) (fun _ => gained) work) :
    Makes (fun _ => True) (underGain gained) (under id now work) := by
  intro store answer changed _ hrun
  by_cases hopen : store.IsOpen id now
  · rw [run_under_of_open work hopen, StateT.run_map] at hrun
    cases hwork : work.run store with
    | error error =>
        rw [hwork] at hrun
        cases hrun
    | ok result =>
        rw [hwork] at hrun
        cases hrun
        exact h store result.1 result.2 hopen hwork
  · by_cases hlapsed : store.HasLapsed id now
    · cases hrun.symm.trans (run_under_of_lapsed work hlapsed)
      exact ⟨.undo id .expired expiredReason now, .inr ⟨rfl, rfl, hlapsed⟩, rfl, fun _ => rfl, rfl⟩
    · cases hrun.symm.trans (run_under_of_refused work hopen hlapsed)

end Work

namespace Broker

variable {ε α β : Type} {counted reported : SweepStep → Nat}

/-- Made on a broker of which the first holds, does the call leave what is told of its answer, or
the books if it fails? -/
def Leads (counted reported : SweepStep → Nat) (Before : Broker → Prop)
    (call : ExceptT ε (StateM Broker) α) (After : α → Broker → Prop) : Prop :=
  ∀ broker, Before broker → match call.run broker with
    | (.ok answer, after) => After answer after
    | (.error _, after) => after.Books counted reported

/-- Does the call keep the books, whether it answers or fails? -/
def KeepsBooks (counted reported : SweepStep → Nat) (call : ExceptT ε (StateM Broker) α) : Prop :=
  ∀ broker, broker.Books counted reported → (call.run broker).2.Books counted reported

/-- Are the books in order once it is told that one transaction has come to the outcome, or none? -/
def Owes (counted reported : SweepStep → Nat) (gained : Option Outcome) (broker : Broker) : Prop :=
  ∀ entries : Journal, entries.Tells gained → (broker.noted entries).Books counted reported

variable {Before Between : Broker → Prop} {After : α → Broker → Prop} {Then : β → Broker → Prop}

/-- A call goes on from where its first part leads. -/
theorem Leads.bind {call : ExceptT ε (StateM Broker) α} {next : α → ExceptT ε (StateM Broker) β}
    (h : Leads counted reported Before call After)
    (hnext : ∀ answer, Leads counted reported (After answer) (next answer) Then) :
    Leads counted reported Before (call >>= next) Then := by
  intro broker hbefore
  have hcall := h broker hbefore
  rcases hrun : call.run broker with ⟨error | answer, after⟩
  · rw [run_bind_of_error hrun]
    rw [hrun] at hcall
    exact hcall
  · rw [run_bind_of_ok hrun]
    rw [hrun] at hcall
    exact hnext answer after hcall

/-- An answer leaves everything as it is. -/
theorem leads_pure {answer : α} (h : ∀ broker, Before broker → After answer broker) :
    Leads counted reported Before (pure answer : ExceptT ε (StateM Broker) α) After :=
  h

/-- A call keeps the books that leads back to them. -/
theorem keepsBooks_iff {call : ExceptT ε (StateM Broker) α} :
    KeepsBooks counted reported call ↔
      Leads counted reported (Books counted reported) call fun _ => Books counted reported := by
  refine forall₂_congr fun broker _ => ?_
  rcases call.run broker with ⟨error | answer, after⟩ <;> rfl

/-- A call in two parts that keep the books keeps them. -/
theorem KeepsBooks.bind {call : ExceptT ε (StateM Broker) α}
    {next : α → ExceptT ε (StateM Broker) β} (h : KeepsBooks counted reported call)
    (hnext : ∀ answer, KeepsBooks counted reported (next answer)) :
    KeepsBooks counted reported (call >>= next) :=
  keepsBooks_iff.2 ((keepsBooks_iff.1 h).bind fun answer => keepsBooks_iff.1 (hnext answer))

/-- An answer keeps the books. -/
theorem keepsBooks_pure (answer : α) :
    KeepsBooks counted reported (pure answer : ExceptT ε (StateM Broker) α) :=
  fun _ hbooks => hbooks

/-- A call that keeps the books keeps them when its answer is put in other words. -/
theorem KeepsBooks.map {call : ExceptT ε (StateM Broker) α} (f : α → β)
    (h : KeepsBooks counted reported call) : KeepsBooks counted reported (f <$> call) := by
  rw [map_eq_pure_bind]
  exact h.bind fun _ => keepsBooks_pure _

/-- A check that is passed lets the call go on. -/
theorem keepsBooks_check_bind {result : Except Error α} {next : α → Call β}
    (hnext : ∀ answer, result = .ok answer → KeepsBooks counted reported (next answer)) :
    KeepsBooks counted reported (check result >>= next) := by
  cases result with
  | error error => exact fun _ h => h
  | ok answer => exact hnext answer rfl

/-- A call that begins by looking at the clock goes on with what it shows. -/
theorem keepsBooks_now_bind {next : Instant → Call β}
    (hnext : ∀ now, KeepsBooks counted reported (next now)) :
    KeepsBooks counted reported (now >>= next) :=
  fun broker h => hnext broker.clock broker h

/-- What is owed is paid by entries that tell of it. -/
theorem leads_note {entries : List Entry} {gained : Option Outcome}
    (htells : Journal.Tells entries gained) :
    Leads counted reported (Owes counted reported gained) (note entries : Call Unit)
      fun _ => Books counted reported :=
  fun _ howes => howes entries htells

/-- With the books in order nothing is owed. -/
theorem books_of_owes_none {broker : Broker} (h : Owes counted reported none broker) :
    broker.Books counted reported := by
  have hnone : Journal.Tells [] none :=
    { outcomes_eq := fun _ => rfl, counted_eq := fun _ => rfl, reported_eq := rfl }
  rw [← broker.noted_nil]
  exact h [] hnone

/-- Work that makes a change leaves the broker owing what it gains. -/
theorem leads_inStorage {work : Work α} {gained : α → Option Outcome}
    (h : Work.Makes (fun _ => True) gained work) :
    Leads counted reported (Books counted reported) (inStorage work)
      fun answer => Owes counted reported (gained answer) := by
  intro broker hbooks
  cases hbegin : broker.outages.hitsNext with
  | true =>
      rw [run_inStorage_of_outage hbegin]
      exact hbooks.congr rfl rfl
  | false =>
      cases hwork : work.run broker.store with
      | error error =>
          rw [run_inStorage_of_error hbegin hwork]
          exact hbooks.congr rfl rfl
      | ok result =>
          obtain ⟨answer, changed⟩ := result
          rw [run_inStorage_of_ok hbegin hwork]
          obtain ⟨change, hallowed, hgained, hclient, rfl⟩ :=
            h broker.store answer changed trivial hwork
          intro entries htells
          exact hbooks.book_of_tells hallowed hclient (hgained ▸ htells) rfl rfl

/-- A look at the store keeps the books. -/
theorem keepsBooks_look {work : Work α} (h : work.OnlyLooks) :
    KeepsBooks counted reported (inStorage work) := by
  rw [← bind_pure (inStorage work)]
  exact keepsBooks_iff.2
    ((leads_inStorage h.makes).bind fun _ => leads_pure fun _ => books_of_owes_none)

/-- Work under a transaction leaves the broker owing what the work gains; that the transaction has
expired is paid at once. -/
theorem leads_under {owner : TransactionId} {now : Instant} {work : Work α}
    {gained : Option Outcome}
    (h : Work.Makes (fun store => store.IsOpen owner now) (fun _ => gained) work) :
    Leads counted reported (Books counted reported) (under owner now work)
      fun _ => Owes counted reported gained := by
  refine (leads_inStorage h.under).bind fun admitted => ?_
  cases admitted with
  | done answer => exact leads_pure fun _ howes => howes
  | lapsed undone =>
      refine (leads_note (Journal.tells_outcome .expired rfl)).bind fun _ => fun _ hbooks => hbooks

/-- Holding a claim lock keeps the books. -/
theorem KeepsBooks.holdingClaim {call : Call α} (h : KeepsBooks counted reported call)
    (queue : QueueId) : KeepsBooks counted reported (holdingClaim queue call) := by
  intro broker hbooks
  unfold Broker.holdingClaim
  simp only [ExceptT.run_mk]
  split
  · exact h broker hbooks
  · have hheld := h { broker with locks := broker.locks.acquire () queue } (hbooks.congr rfl rfl)
    exact hheld.congr rfl rfl

/-- A call that pays what it owes, and then answers, keeps the books. -/
theorem keepsBooks_of_owes {call : Call α} {gained : Option Outcome} {entries : α → List Entry}
    {answer : α → β}
    (h : Leads counted reported (Books counted reported) call fun _ => Owes counted reported gained)
    (htells : ∀ answer, Journal.Tells (entries answer) gained) :
    KeepsBooks counted reported (call >>= fun done => do
      note (entries done)
      pure (answer done)) :=
  keepsBooks_iff.2 (h.bind fun done =>
    (leads_note (htells done)).bind fun _ => leads_pure fun _ hbooks => hbooks)

/-- What a call does that takes a message keeps the books. -/
theorem keepsBooks_takeNext (owner : TransactionId) (queue : QueueId) :
    KeepsBooks counted reported (takeNext owner queue) := by
  refine keepsBooks_now_bind fun now => keepsBooks_iff.2
    ((leads_under (Work.makes_dequeue owner now queue)).bind fun found => ?_)
  cases found <;> exact (leads_note (Journal.tells_aside rfl)).bind fun _ =>
    leads_pure fun _ hbooks => hbooks

/-- Deleting a queue keeps the books. -/
theorem keepsBooks_deleteQueue (ref : QueueRef) :
    KeepsBooks counted reported (deleteQueue ref) := by
  refine keepsBooks_check_bind fun address _ => keepsBooks_iff.2
    ((leads_inStorage (Work.makes_deleteQueue address)).bind fun (queue, removed) => ?_)
  have hevict : Leads counted reported (Owes counted reported none)
      (modify fun broker => { broker with locks := broker.locks.evict queue.id } : Call PUnit)
      fun _ => Owes counted reported none :=
    fun _ howes entries htells => (howes entries htells).congr rfl rfl
  exact hevict.bind fun _ => (leads_note (Journal.tells_aside rfl)).bind fun _ =>
    leads_pure fun _ hbooks => hbooks

end Broker

open Broker

/-- Every move of a client keeps the books. -/
theorem Move.keepsBooks (move : Move) (h : ∀ stage instant, move ≠ .sweep stage instant)
    (counted reported : SweepStep → Nat) : KeepsBooks counted reported move.call := by
  cases move with
  | sweep stage instant => exact absurd rfl (h stage instant)
  | createQueue text =>
      exact keepsBooks_check_bind fun name _ => keepsBooks_of_owes
        (leads_inStorage (Work.makes_insertQueue name)) fun _ => Journal.tells_aside rfl
  | deleteQueue ref => exact keepsBooks_deleteQueue ref
  | start lifetime =>
      exact keepsBooks_now_bind fun now => keepsBooks_check_bind fun expiry _ => keepsBooks_of_owes
        (leads_inStorage (Work.makes_insertTransaction now expiry)) fun _ =>
          Journal.tells_outcome .started rfl
  | extend id lifetime =>
      exact keepsBooks_now_bind fun now => keepsBooks_check_bind fun expiry _ => keepsBooks_of_owes
        (leads_under (Work.makes_extend id now expiry)) fun _ => Journal.tells_aside rfl
  | commit id =>
      exact keepsBooks_now_bind fun now => keepsBooks_of_owes
        (leads_under (Work.makes_commit id now)) fun _ => Journal.tells_outcome .committed rfl
  | rollback id reason =>
      exact keepsBooks_now_bind fun now => keepsBooks_of_owes
        (leads_under (Work.makes_unwind id now reason)) fun _ =>
          Journal.tells_outcome .rolledBack rfl
  | enqueue owner queue new =>
      exact keepsBooks_check_bind fun _ hcheck => keepsBooks_now_bind fun now =>
        keepsBooks_check_bind fun expiry _ => keepsBooks_of_owes
          (leads_under (Work.makes_enqueue owner now queue hcheck expiry)) fun _ =>
            Journal.tells_aside rfl
  | dequeue owner queue => exact (keepsBooks_takeNext owner queue).holdingClaim queue
  | findQueue ref =>
      exact keepsBooks_check_bind fun address _ =>
        keepsBooks_look (Work.onlyLooks_findQueue address)
  | stats ref =>
      exact keepsBooks_check_bind fun address _ => keepsBooks_look (Work.onlyLooks_stats address)
  | listQueues => exact keepsBooks_look (Work.onlyLooks_get.bind fun _ => Work.onlyLooks_pure _)
  | findTransaction id => exact keepsBooks_look (Work.onlyLooks_findTransaction id)
  | findMessage id => exact keepsBooks_look (Work.onlyLooks_findMessage id)
  | count queue state => exact keepsBooks_look (Work.onlyLooks_count queue state)
  | peek queue =>
      exact keepsBooks_now_bind fun now => keepsBooks_look (Work.onlyLooks_peek queue now)
  | setClock now => exact fun _ hbooks => hbooks.congr rfl rfl
  | setOutages outages => exact fun _ hbooks => hbooks.congr rfl rfl

namespace Service

variable {α β : Type} {counted reported : SweepStep → Nat}

/-- What is entered about a call that fails tells of no transaction and no sweep. -/
theorem tells_failure (error : Error) : Journal.Tells (failureEntries error) none := by
  unfold failureEntries
  split <;> exact Journal.tells_aside rfl

/-- Failing keeps the books. -/
theorem keepsBooks_fail (error : Error) :
    KeepsBooks counted reported (fail error : Reply α) := by
  intro broker hbooks
  rw [run_fail]
  exact hbooks.note (tells_failure error)

/-- A reply keeps the books that the call keeps. -/
theorem keepsBooks_reply {call : Call α} (h : KeepsBooks counted reported call) :
    KeepsBooks counted reported (reply call) := by
  intro broker hbooks
  have hcall := h broker hbooks
  rcases hrun : call.run broker with ⟨error | answer, after⟩
  · rw [hrun] at hcall
    rw [run_reply_of_error hrun]
    exact hcall.note (tells_failure error)
  · rw [hrun] at hcall
    rw [run_reply_of_ok hrun]
    exact hcall

/-- A call whose errors are looked at keeps the books that it keeps anyway. -/
theorem keepsBooks_lift {call : Call α} (h : KeepsBooks counted reported call) :
    KeepsBooks counted reported (liftM call.run : Reply (Except Error α)) := by
  intro broker hbooks
  have hrun : (liftM call.run : Reply (Except Error α)).run broker =
      (.ok (call.run broker).1, (call.run broker).2) := rfl
  rw [hrun]
  exact h broker hbooks

/-- Sending a message keeps the books, whichever of its storage transactions fail. -/
theorem keepsBooks_send (queue : QueueId) (new : NewMessage) :
    KeepsBooks counted reported (send queue new) := by
  have hkeeps (move : Move) (h : ∀ stage instant, move ≠ .sweep stage instant) :=
    move.keepsBooks h counted reported
  refine (keepsBooks_reply (hkeeps (.start (.ofSeconds 60)) nofun)).bind fun owner =>
    (keepsBooks_lift (hkeeps (.enqueue owner queue new) nofun)).bind fun added => ?_
  cases added with
  | ok id =>
      exact (keepsBooks_reply (hkeeps (.commit owner) nofun)).bind fun _ => keepsBooks_pure id
  | error error =>
      refine (keepsBooks_lift (hkeeps (.rollback owner "enqueue failed") nofun)).bind
        fun undone => ?_
      cases undone with
      | ok summary => exact keepsBooks_fail error
      | error undo =>
          have hnote : KeepsBooks counted reported
              (liftM (note [.event (.undoFailed owner undo)]) : Reply Unit) :=
            fun _ hbooks => hbooks.note (Journal.tells_aside rfl)
          exact hnote.bind fun _ => keepsBooks_fail error

/-- Every operation but sweeping keeps the books. -/
theorem Operation.keepsBooks (operation : Operation) (h : operation ≠ .sweep)
    (counted reported : SweepStep → Nat) : KeepsBooks counted reported operation.call := by
  have hkeeps (move : Move) (h : ∀ stage instant, move ≠ .sweep stage instant) :=
    move.keepsBooks h counted reported
  cases operation with
  | createQueue text => exact keepsBooks_reply (hkeeps (.createQueue text) nofun)
  | deleteQueue ref => exact keepsBooks_reply (hkeeps (.deleteQueue ref) nofun)
  | queueInfo ref => exact keepsBooks_reply ((hkeeps (.findQueue ref) nofun).map _)
  | listQueues => exact keepsBooks_reply ((hkeeps .listQueues nofun).map _)
  | start lifetime =>
      exact keepsBooks_reply
        (keepsBooks_check_bind fun lifetime _ => hkeeps (.start lifetime) nofun)
  | extend id lifetime =>
      exact keepsBooks_reply
        (keepsBooks_check_bind fun lifetime _ => hkeeps (.extend id lifetime) nofun)
  | findTransaction id => exact keepsBooks_reply (hkeeps (.findTransaction id) nofun)
  | commit id => exact keepsBooks_reply (hkeeps (.commit id) nofun)
  | rollback id reason => exact keepsBooks_reply (hkeeps (.rollback id reason) nofun)
  | queueMessage request =>
      exact keepsBooks_reply (keepsBooks_check_bind fun new _ =>
        hkeeps (.enqueue request.transaction request.queue new) nofun)
  | send queue new => exact keepsBooks_send queue new
  | dequeue owner queue => exact keepsBooks_reply ((hkeeps (.dequeue owner queue) nofun).map _)
  | peek queue => exact keepsBooks_reply ((hkeeps (.peek queue) nofun).map _)
  | findMessage id => exact keepsBooks_reply ((hkeeps (.findMessage id) nofun).map _)
  | count queue state => exact keepsBooks_reply (hkeeps (.count queue state) nofun)
  | sweep => exact absurd rfl h

end Service

end WorkQueue
