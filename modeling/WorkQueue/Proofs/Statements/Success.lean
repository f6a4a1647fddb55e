import WorkQueue.Proofs.Statements.Moves
import WorkQueue.Proofs.Statements.Schema

/-!
# Scripts that go through

A script goes through when none of its statements fails, each finds what it is to change, and each
leaves the rules of the tables unbroken; then it ends with an answer, or with an error that clients
are told about. Every move has such a script, from every store that keeps the rules and has numbers
left: what a script looks up first is what its later statements ask for.
-/

namespace WorkQueue

/-- The codes of the errors that clients are told about. -/
def ordinaryCodes : List ResultCode :=
  [.notFound, .alreadyExists, .invalidArgument, .closed, .expired]

/-- Are clients told about the error? -/
def Error.IsOrdinary (error : Error) : Prop :=
  error.code ∈ ordinaryCodes

/-- Clients are told about all errors that have a code of their own. -/
theorem Error.isOrdinary_of_code {error : Error} (h : error.code ≠ .unknown) :
    error.IsOrdinary := by
  cases error <;> first | exact absurd rfl h | simp [IsOrdinary, ordinaryCodes, code]

/-- Is the error, if there is one, such that clients are told about it? -/
def Ordinary {α : Type} (answer : Except Error α) : Prop :=
  ∀ error, answer = .error error → error.IsOrdinary

/-- Did the statement find what it was to change? -/
def Statement.Found : (statement : Statement) → statement.Reply → Prop
  | .deleteQueue _, removed => removed.isSome = true
  | .setTransactionExpiry _ _, extended => extended = true
  | .closeTransaction _ _ _ _, closed => closed = true
  | _, _ => True

/-- Is there a number left for the row that the move adds, if it adds one? -/
def Move.HasRoom (store : Store) : Move → Prop
  | .createQueue _ => store.lastQueue + 1 < half64
  | .start _ => store.lastTransaction + 1 < half64
  | .enqueue _ _ _ => store.lastMessage + 1 < half64
  | _ => True

namespace Script

variable {α β : Type} {Holds : α → Store → Prop} {Then : β → Store → Prop} {store : Store}

/-- Does the script go through, and end as told? -/
def Passes (Holds : α → Store → Prop) : Script α → Store → Prop
  | .answer value, store => Holds value store
  | .fail error, _ => error.IsOrdinary
  | .issue statement next, store =>
      ∃ reply changed, statement.effect.run store = .ok (reply, changed) ∧
        statement.Found reply ∧ changed.Lawful ∧ (next reply).Passes Holds changed

/-- A script that goes through is followed by one that goes through. -/
theorem Passes.bind {script : Script α} {next : α → Script β}
    (h : script.Passes (fun value changed => (next value).Passes Then changed) store) :
    (script >>= next).Passes Then store := by
  induction script generalizing store with
  | answer value => exact h
  | fail error => exact h
  | issue statement rest ih =>
      obtain ⟨reply, changed, hrun, hfound, hlawful, hrest⟩ := h
      exact ⟨reply, changed, hrun, hfound, hlawful, ih reply hrest⟩

/-- A script that goes through goes through when its answer is put in other words. -/
theorem Passes.map {script : Script α} {f : α → β}
    (h : script.Passes (fun value changed => Then (f value) changed) store) :
    (f <$> script).Passes Then store :=
  Passes.bind h

/-- A script ends as it is told to, and so as anything that follows from that. -/
theorem Passes.imp {script : Script α} {Other : α → Store → Prop}
    (h : script.Passes Holds store) (himp : ∀ value changed, Holds value changed →
      Other value changed) : script.Passes Other store := by
  induction script generalizing store with
  | answer value => exact himp value store h
  | fail error => exact h
  | issue statement rest ih =>
      obtain ⟨reply, changed, hrun, hfound, hlawful, hrest⟩ := h
      exact ⟨reply, changed, hrun, hfound, hlawful, ih reply hrest⟩

/-- A statement that does not fail keeps the rules, so that only what comes after it is to be
looked at. -/
theorem passes_ask {statement : Statement} {reply : statement.Reply} {changed : Store}
    {next : statement.Reply → Script β} (h : store.Lawful)
    (hrun : statement.effect.run store = .ok (reply, changed)) (hfound : statement.Found reply)
    (hnext : changed.Lawful → (next reply).Passes Then changed) :
    (ask statement >>= next).Passes Then store :=
  have hlawful := statement.lawful_effect h hrun
  ⟨reply, changed, hrun, hfound, hlawful, hnext hlawful⟩

/-- A script goes through after a check whose error clients are told about. -/
theorem passes_check {result : Except Error α} {next : α → Script β} (h : Ordinary result)
    (hnext : ∀ value, result = .ok value → (next value).Passes Then store) :
    (check result >>= next).Passes Then store := by
  cases result with
  | error error => exact h error rfl
  | ok value => exact hnext value rfl

/-- A script that goes through ends as told, or with an error that clients are told about. -/
theorem Passes.run {script : Script α} (h : script.Passes Holds store) :
    (∃ value changed, script.work.run store = .ok (value, changed) ∧ Holds value changed) ∨
      ∃ error, script.work.run store = .error error ∧ error.IsOrdinary := by
  induction script generalizing store with
  | answer value => exact .inl ⟨value, store, rfl, h⟩
  | fail error => exact .inr ⟨error, rfl, h⟩
  | issue statement rest ih =>
      obtain ⟨reply, changed, hrun, _, _, hrest⟩ := h
      rw [work_issue, Work.run_bind_of_ok hrun]
      exact ih reply hrest

/-- A script may fail with an error that has a code of its own. -/
theorem passes_fail {error : Error} (h : error.code ≠ .unknown) :
    (fail error : Script α).Passes Holds store :=
  Error.isOrdinary_of_code h

/-- A script may go on with what was found, or fail because nothing was. -/
theorem passes_found {what : String} {found : Option α}
    (h : ∀ value, found = some value → Holds value store) :
    (Script.found (.notFound what) found).Passes Holds store := by
  cases found with
  | some value => exact h value rfl
  | none => exact passes_fail nofun

variable (h : store.Lawful)
include h

/-! ## Queues -/

/-- Finding a queue goes through. -/
theorem passes_findQueue {address : QueueAddress} {Holds : Queue → Store → Prop}
    (hfound : ∀ queue, store.queueAt? address = some queue → Holds queue store) :
    (findQueue address).Passes Holds store := by
  cases address <;> exact passes_ask h rfl trivial fun _ => passes_found hfound

/-- Making sure that a queue is there goes through. -/
theorem passes_requireQueue {id : QueueId} {Holds : Unit → Store → Prop}
    (hfound : (store.queue? id).isSome = true → Holds () store) :
    (requireQueue id).Passes Holds store :=
  Passes.bind (passes_findQueue h fun queue hqueue =>
    hfound (Option.isSome_iff_exists.2 ⟨queue, hqueue⟩))

/-- Adding a queue goes through: a name that was not found is free. -/
theorem passes_addQueue (name : QueueName) (hroom : store.lastQueue + 1 < half64) :
    (addQueue name).Passes (fun _ _ => True) store := by
  refine passes_ask h rfl trivial fun _ => ?_
  cases hnamed : store.queueNamed? name with
  | some queue => exact passes_fail nofun
  | none =>
      exact passes_ask h (Work.run_insertQueue_of_allowed ⟨hnamed, hroom⟩) trivial
        fun _ => trivial

/-- Deleting a queue goes through: a queue that was found is there to be deleted. -/
theorem passes_deleteQueue (address : QueueAddress) :
    (deleteQueue address).Passes (fun _ _ => True) store := by
  refine Passes.bind (passes_findQueue h fun queue hqueue => ?_)
  have hthere : (store.queue? queue.id).isSome = true :=
    List.find?_isSome.2 ⟨queue, Store.mem_of_queueAt? hqueue, by simp⟩
  have hdeleted : (store.deleteQueue queue.id).1.isSome = true := by
    simp [Store.deleteQueue, hthere]
  exact passes_ask h rfl hdeleted fun _ => Passes.bind (passes_found fun _ _ => trivial)

/-- Counting messages by state goes through. -/
theorem passes_stats (address : QueueAddress) : (stats address).Passes (fun _ _ => True) store :=
  Passes.bind (passes_findQueue h fun _ _ => passes_ask h rfl trivial fun _ => trivial)

/-! ## Transactions -/

/-- Finding a transaction goes through. -/
theorem passes_findTransaction {id : TransactionId} {Holds : Transaction → Store → Prop}
    (hfound : ∀ t, store.transaction? id = some t → Holds t store) :
    (findTransaction id).Passes Holds store :=
  passes_ask h rfl trivial fun _ => passes_found hfound

/-- An active transaction is closed. -/
theorem passes_close {id : TransactionId} {target : TransactionState} {now : Instant}
    {reason : String} {Holds : Unit → Store → Prop}
    (hactive : ∃ t ∈ store.transactions, t.id = id ∧ t.isActive = true)
    (hclosed : ∀ changed : Store, changed.Lawful → Holds () changed) :
    (close id target now reason).Passes Holds store :=
  passes_ask h (Work.run_modifyGet (Store.closeTransaction_of_active hactive)) rfl
    fun hlawful => hclosed _ hlawful

/-- An active transaction is undone. -/
theorem passes_unwind {id : TransactionId} (target : TransactionState) (reason : String)
    (now : Instant) (hactive : ∃ t ∈ store.transactions, t.id = id ∧ t.isActive = true) :
    (unwind id target reason now).Passes (fun _ _ => True) store :=
  Passes.bind <| passes_close h hactive fun _ hclosed =>
    passes_ask hclosed rfl trivial fun hdiscarded =>
      passes_ask hdiscarded rfl trivial fun _ => trivial

/-- Work under a transaction goes through if it does when the transaction is open: one that has
lapsed is active, and so it is undone. -/
theorem passes_under {id : TransactionId} {now : Instant} {script : Script α}
    (hscript : store.IsOpen id now → script.Passes (fun _ _ => True) store) :
    (under id now script).Passes (fun _ _ => True) store := by
  refine Passes.bind (passes_findTransaction h fun t hfind => ?_)
  cases hstate : t.state with
  | expired => exact passes_fail nofun
  | committed | rolledBack => exact passes_fail nofun
  | active =>
      cases hexpired : t.isExpiredAt now with
      | true =>
          have hlapsed : store.HasLapsed id now := ⟨t, hfind, hstate, hexpired⟩
          exact Passes.map (passes_unwind h _ _ now hlapsed.exists_active)
      | false => exact Passes.map (hscript ⟨t, hfind, hstate, hexpired⟩)

variable {id : TransactionId} {now : Instant} (hopen : store.IsOpen id now)
include hopen

/-- An open transaction is extended. -/
theorem passes_extend (expiry : Instant) : (extend id expiry).Passes (fun _ _ => True) store :=
  passes_ask h (Work.run_modifyGet (Store.setTransactionExpiry_of_active hopen.exists_active)) rfl
    fun _ => trivial

/-- An open transaction is committed: moving its messages leaves it active. -/
theorem passes_commit : (commit id now).Passes (fun _ _ => True) store := by
  refine passes_ask h (Work.run_transitionOwned (by decide)) trivial fun hadded => ?_
  refine passes_ask hadded (Work.run_transitionOwned (by decide)) trivial fun hpulled => ?_
  exact Passes.bind (passes_close hpulled hopen.exists_active fun _ _ => trivial)

/-- A message is added under an open transaction. -/
theorem passes_enqueue {draft : MessageDraft} (howner : draft.owner = id)
    (hroom : store.lastMessage + 1 < half64) : (enqueue draft).Passes (fun _ _ => True) store := by
  obtain ⟨t, hfind, _⟩ := hopen
  have hthere : (store.transaction? draft.owner).isSome = true := by rw [howner, hfind]; rfl
  refine Passes.bind (passes_requireQueue h fun hqueue => ?_)
  exact passes_ask h (Work.run_insertMessage_of_room hqueue hthere hroom) trivial
    fun _ => trivial

/-- A message is taken under an open transaction. -/
theorem passes_dequeue (queue : QueueId) :
    (dequeue id queue now).Passes (fun _ _ => True) store := by
  refine Passes.bind (passes_requireQueue h fun _ => ?_)
  rcases Work.run_claimMessage_cases store queue id now with
    ⟨_, hnone⟩ | ⟨next, _, ⟨hmissing, _⟩ | ⟨_, htaken⟩⟩
  · exact passes_ask h hnone trivial fun _ => trivial
  · obtain ⟨t, hfind, _⟩ := hopen
    cases hmissing.symm.trans hfind
  · exact passes_ask h htaken trivial fun _ => trivial

end Script

/-! ## Moves -/

variable {α β : Type}

/-- A check that finds an invalid argument or nothing fails with an error that clients are told
about. -/
theorem ordinary_of_cases {result : Except Error α}
    (h : (∃ value, result = .ok value) ∨ ∃ why, result = .error (.invalidArgument why)) :
    Ordinary result := by
  rcases h with ⟨value, rfl⟩ | ⟨why, rfl⟩
  · exact nofun
  · rintro _ ⟨⟩
    exact Error.isOrdinary_of_code nofun

/-- Putting an answer in other words leaves the error as it is. -/
theorem Ordinary.map {result : Except Error α} (h : Ordinary result) (f : α → β) :
    Ordinary (result.map f) := by
  cases result with
  | error error =>
      rintro _ ⟨⟩
      exact h error rfl
  | ok value => exact nofun

/-- A text that is no name is an invalid argument. -/
theorem ordinary_ofText (text : String) : Ordinary (QueueName.ofText text) := by
  refine ordinary_of_cases ?_
  by_cases hname : IsName (Text.trim text.toList)
  · exact .inl ⟨_, QueueName.ofText_of_isName (Text.stripsTo_trim _) hname⟩
  · exact .inr (QueueName.ofText_of_not_isName (Text.stripsTo_trim _) hname)

/-- A reference that is no address is an invalid argument. -/
theorem ordinary_ofRef (ref : QueueRef) : Ordinary (QueueAddress.ofRef ref) := by
  cases ref with
  | byId id => exact nofun
  | byName text => exact (ordinary_ofText text).map _

namespace Move

variable {store : Store} {now : Instant} {script : Script α}

/-- A script whose answer is the answer of a move. -/
theorem passes_ok {f : α → β} (h : script.Passes (fun _ _ => True) store) :
    ((fun value => (.ok (f value) : Except Error β)) <$> script).Passes
      (fun answer _ => Ordinary answer) store :=
  Script.Passes.map (h.imp fun _ _ _ => nofun)

/-- A script under a transaction: that the transaction has expired is the other answer. -/
theorem passes_admitted (h : store.Lawful) {id : TransactionId} {conclude : α → β}
    (hscript : store.IsOpen id now → script.Passes (fun _ _ => True) store) :
    (Admitted.answer id conclude <$> Script.under id now script).Passes
      (fun answer _ => Ordinary answer) store := by
  refine Script.Passes.map ((Script.passes_under h hscript).imp fun admitted _ _ => ?_)
  cases admitted with
  | done answer => exact nofun
  | lapsed undone =>
      rintro _ ⟨⟩
      exact Error.isOrdinary_of_code nofun

open Script in
/-- Every move has a script that goes through. -/
theorem passes_script (move : Move) (now : Instant) (h : store.Lawful)
    (hroom : move.HasRoom store) :
    (move.script now).Passes (fun answer _ => Ordinary answer) store := by
  cases move with
  | createQueue text =>
      exact passes_check (ordinary_ofText text) fun name _ =>
        passes_ok (passes_addQueue h name hroom)
  | deleteQueue ref =>
      exact passes_check (ordinary_ofRef ref) fun address _ =>
        passes_ok (passes_deleteQueue h address)
  | findQueue ref =>
      exact passes_check (ordinary_ofRef ref) fun address _ =>
        passes_ok (passes_findQueue h fun _ _ => trivial)
  | listQueues => exact passes_ok (passes_ask h rfl trivial fun _ => trivial)
  | start lifetime =>
      refine passes_check (ordinary_of_cases (expiryAfter_cases now lifetime)) fun expiry _ => ?_
      exact passes_ok (passes_ask h (Work.run_insertTransaction_of_allowed hroom) trivial
        fun _ => trivial)
  | findTransaction id => exact passes_ok (passes_findTransaction h fun _ _ => trivial)
  | extend id lifetime =>
      refine passes_check (ordinary_of_cases (expiryAfter_cases now lifetime)) fun expiry _ => ?_
      exact passes_admitted h fun hopen => passes_extend h hopen expiry
  | commit id => exact passes_admitted h fun hopen => passes_commit h hopen
  | rollback id reason =>
      exact passes_admitted h fun hopen => passes_unwind h _ _ _ hopen.exists_active
  | enqueue owner queue new =>
      have hcheck := ordinary_of_cases ((check_cases new).imp_left fun hok => ⟨(), hok⟩)
      refine passes_check hcheck fun _ _ => ?_
      refine passes_check (ordinary_of_cases (messageExpiry_cases new now)) fun expiry _ => ?_
      exact passes_admitted h fun hopen => passes_enqueue h hopen rfl hroom
  | dequeue owner queue => exact passes_admitted h fun hopen => passes_dequeue h hopen queue
  | peek queue =>
      exact passes_ok (Passes.bind (passes_requireQueue h fun _ =>
        passes_ask h rfl trivial fun _ => trivial))
  | findMessage id =>
      exact passes_ok (passes_ask h rfl trivial fun _ => passes_found fun _ _ => trivial)
  | count queue state =>
      exact passes_ok (Passes.bind (passes_requireQueue h fun _ =>
        passes_ask h rfl trivial fun _ => trivial))
  | stats ref =>
      exact passes_check (ordinary_ofRef ref) fun address _ => passes_ok (passes_stats h address)
  | sweep stage instant =>
      refine passes_ok ?_
      cases stage <;> exact passes_ask h rfl trivial fun _ => trivial
  | setClock | setOutages => exact nofun

/-- So every move whose storage transaction can be begun answers, or fails with an error that
clients are told about. -/
theorem ordinary_answer (move : Move) {broker : Broker} (hbegin : broker.outages.hitsNext = false)
    (h : broker.store.Lawful) (hroom : move.HasRoom broker.store) :
    Ordinary (move.answer broker) := by
  have hfollows : (move.answer broker, (move.after broker).store) =
      (move.script broker.clock).finish broker.store := Broker.follows_script move hbegin
  rw [Script.finish] at hfollows
  rcases (move.passes_script broker.clock h hroom).run with
    ⟨answer, changed, hrun, hordinary⟩ | ⟨error, hrun, hordinary⟩
  · rw [hrun] at hfollows
    rw [(Prod.mk.inj hfollows).1]
    exact hordinary
  · rw [hrun] at hfollows
    rw [(Prod.mk.inj hfollows).1]
    rintro _ ⟨⟩
    exact hordinary

end Move

end WorkQueue
