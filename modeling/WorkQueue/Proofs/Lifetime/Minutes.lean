import WorkQueue.Proofs.Delivery.Content
import WorkQueue.Proofs.Lifetime.Endings
import WorkQueue.Proofs.Lifetime.Passing
import WorkQueue.Proofs.Sending.Leftovers
import WorkQueue.Proofs.Sweep.LazyExpiry

/-!
# Calls with a lifetime in minutes

Starting and extending a transaction and adding a message are the calls that take a lifetime in
minutes. Each of them objects to minutes that are no lifetime from its clock on, and to no others,
and otherwise the lifetime that is stored ends exactly so many minutes later: `Service.Reckons` says
so once for the three. A transaction that was started so is open until that instant, by whatever
clock it is looked at, and `minutes_reckoned` puts the two together.
-/

namespace WorkQueue

namespace Service

/-- Does the answer say that the call was given something invalid? -/
def Objects {α : Type} (answer : Except Fault α) : Prop :=
  ∃ fault, answer = .error fault ∧ fault.code = .invalidArgument

/-- The call objects to the minutes exactly if they are no lifetime, and then it does nothing. To
others it answers when storage transactions can be begun and a number is free, and what it answers
and leaves ends as it should. -/
structure Reckons {α : Type} (call : Reply α) (broker : Broker) (minutes : Int) (free : Prop)
    (Ends : α → Store → Prop) : Prop where
  objects_iff : Objects (call.run broker).1 ↔ broker.clock.Overruns minutes
  unchanged : broker.clock.Overruns minutes → (call.run broker).2 = broker
  ends : ∀ answer, (call.run broker).1 = .ok answer → Ends answer (call.run broker).2.store
  answers : ¬ broker.clock.Overruns minutes → broker.outages.hitsNext = false → free →
    ∃ answer, (call.run broker).1 = .ok answer

variable {α : Type} {call : Call α} {broker : Broker} {minutes : Int} {free : Prop}
  {Ends : α → Store → Prop}

/-- A reply reckons with its minutes if the call of the broker objects to those that are no
lifetime, fails in the store without a free number, and answers otherwise. -/
theorem reckons_reply
    (hover : broker.clock.Overruns minutes →
      ∃ why, call.run broker = (.error (.invalidArgument why), broker))
    (hfails : ¬ broker.clock.Overruns minutes → broker.outages.hitsNext = true ∨ ¬ free →
      ∃ failure, (call.run broker).1 = .error (.storage failure))
    (hends : ¬ broker.clock.Overruns minutes → broker.outages.hitsNext = false → free →
      ∃ answer, (call.run broker).1 = .ok answer ∧ Ends answer (call.run broker).2.store) :
    Reckons (reply call) broker minutes free Ends := by
  have hcases (hfits : ¬ broker.clock.Overruns minutes) :
      (∃ failure, (call.run broker).1 = .error (.storage failure)) ∨
        ∃ answer, (call.run broker).1 = .ok answer ∧ Ends answer (call.run broker).2.store := by
    by_cases hfree : broker.outages.hitsNext = true ∨ ¬ free
    · exact .inl (hfails hfits hfree)
    · obtain ⟨hbegin, hnumber⟩ := not_or.1 hfree
      exact .inr (hends hfits (Bool.eq_false_iff.2 hbegin) (not_not.1 hnumber))
  refine ⟨⟨fun hobjects => ?_, fun hlate => ?_⟩, fun hlate => ?_, fun answer hanswer => ?_,
    fun hfits hbegin hfree => ?_⟩
  · by_contra hfits
    obtain ⟨fault, hfault, hcode⟩ := hobjects
    rw [answer_run_reply] at hfault
    rcases hcases hfits with ⟨failure, hfailed⟩ | ⟨answer, hanswer, _⟩
    · rw [hfailed] at hfault
      cases hfault
      cases hcode
    · rw [hanswer] at hfault
      cases hfault
  · obtain ⟨why, hrun⟩ := hover hlate
    rw [run_reply_of_error hrun]
    exact ⟨_, rfl, rfl⟩
  · obtain ⟨why, hrun⟩ := hover hlate
    rw [run_reply_of_error hrun]
    exact broker.noted_nil
  · rw [answer_run_reply] at hanswer
    rw [store_run_reply]
    by_cases hlate : broker.clock.Overruns minutes
    · obtain ⟨why, hrun⟩ := hover hlate
      rw [hrun] at hanswer
      cases hanswer
    · rcases hcases hlate with ⟨failure, hfailed⟩ | ⟨given, hgiven, hend⟩
      · rw [hfailed] at hanswer
        cases hanswer
      · rw [hgiven] at hanswer
        cases hanswer
        exact hend
  · obtain ⟨answer, hanswer, _⟩ := hends hfits hbegin hfree
    refine ⟨answer, ?_⟩
    rw [answer_run_reply, hanswer]
    rfl

end Service

/-- Is the transaction there, active, and does its lifetime end at this instant? -/
def Store.EndsAt (store : Store) (id : TransactionId) (expiry : Instant) : Prop :=
  ∃ t, store.transaction? id = some t ∧ t.state = .active ∧ t.expiryTime = expiry

namespace Broker

variable {α β : Type} {broker : Broker} {id : TransactionId} {now : Instant} {work : Work α}
  {next : α → Call β}

/-- A call whose work fails in the store, or cannot be begun, fails so. -/
theorem exists_failure_of_inStorage (hstuck : broker.outages.hitsNext = true ∨
      ∃ failure, work.run broker.store = .error (.storage failure)) :
    ∃ failure, ((inStorage work >>= next).run broker).1 = .error (.storage failure) := by
  cases hbegin : broker.outages.hitsNext with
  | true => exact ⟨_, congrArg Prod.fst (run_bind_of_error (run_inStorage_of_outage hbegin))⟩
  | false =>
      obtain ⟨failure, hfailed⟩ := hstuck.resolve_left (by simp [hbegin])
      exact ⟨failure,
        congrArg Prod.fst (run_bind_of_error (run_inStorage_of_error hbegin hfailed))⟩

/-- A call whose work under an open transaction fails in the store, or cannot be begun, fails so. -/
theorem exists_failure_of_under (hopen : broker.store.IsOpen id now)
    (hstuck : broker.outages.hitsNext = true ∨
      ∃ failure, work.run broker.store = .error (.storage failure)) :
    ∃ failure, ((under id now work >>= next).run broker).1 = .error (.storage failure) := by
  rw [under, bind_assoc]
  refine exists_failure_of_inStorage (hstuck.imp_right ?_)
  rintro ⟨failure, hfailed⟩
  refine ⟨failure, ?_⟩
  rw [Work.run_under_of_open work hopen, StateT.run_map, hfailed]
  rfl

/-- Without a free number no transaction is added. -/
theorem run_insertTransaction_of_full {store : Store} {expiry : Instant}
    (hfull : ¬ store.lastTransaction + 1 < half64) :
    (Store.insertTransaction now expiry).run store = .error (.storage .noNumbersLeft) := by
  rw [Store.insertTransaction, Work.run_get_bind]
  exact Work.run_bind_of_error (Work.run_nextNumber_of_last hfull)

/-- Without a free number no message is added to a queue that is there. -/
theorem run_enqueue_of_full {store : Store} {draft : MessageDraft}
    (hqueue : (store.queue? draft.queue).isSome) (hopen : store.IsOpen draft.owner now)
    (hfull : ¬ store.lastMessage + 1 < half64) :
    (Work.enqueue draft).run store = .error (.storage .noNumbersLeft) := by
  obtain ⟨t, howner, _⟩ := hopen
  rw [Work.enqueue, Work.run_bind_of_ok (Work.run_requireQueue hqueue),
    Work.run_insertMessage hqueue (by rw [howner]; rfl)]
  exact Work.run_bind_of_error (Work.run_nextNumber_of_last hfull)

/-- A message's lifetime that leaves the calendar is refused. -/
theorem messageExpiry_of_none {new : NewMessage} {lifetime : Duration}
    (hlifetime : new.lifetime = some lifetime) (h : now.shift? lifetime = none) :
    ∃ why, messageExpiry new now = .error (.invalidArgument why) := by
  unfold messageExpiry
  rw [hlifetime]
  dsimp only
  rw [h]
  exact ⟨_, rfl⟩

end Broker

namespace Service

open Broker

variable {broker : Broker} {minutes : Int}

/-- Minutes that are no lifetime are refused when they are read, or by a call that refuses a
lifetime by which the clock cannot be moved. -/
theorem run_check_minutes {α : Type} {next : Duration → Call α}
    (hcalendar : broker.clock.InCalendar) (hformed : broker.clock.WellFormed)
    (hnext : ∀ lifetime, broker.clock.shift? lifetime = none →
      ∃ why, (next lifetime).run broker = (.error (.invalidArgument why), broker))
    (hlate : broker.clock.Overruns minutes) :
    ∃ why, (check (Service.minutes minutes) >>= next).run broker =
      (.error (.invalidArgument why), broker) := by
  rcases minutes_of_overruns hcalendar hformed hlate with ⟨why, hwhy⟩ | ⟨_, hread, hnone⟩
  · exact ⟨why, run_bind_of_error (run_check_of_error hwhy)⟩
  · rw [run_bind_of_ok (run_check_of_ok hread)]
    exact hnext _ hnone

/-- With minutes that are a lifetime a transaction is started when a number is free. -/
theorem exists_run_start_minutes (hcalendar : broker.clock.InCalendar)
    (hformed : broker.clock.WellFormed) (hfits : ¬ broker.clock.Overruns minutes)
    (hbegin : broker.outages.hitsNext = false)
    (hfree : broker.store.lastTransaction + 1 < half64) :
    let opening := broker.store.opening broker.clock (broker.clock.addMinutes minutes)
    ∃ after, (check (Service.minutes minutes) >>= Broker.start).run broker =
        (.ok opening.id, after) ∧
      after.store = broker.store.plus [opening] [] ∧
        after.clock = broker.clock ∧ after.outages = broker.outages.pass := by
  intro opening
  rw [run_bind_of_ok (run_check_of_ok (minutes_of_not_overruns hfits))]
  exact exists_run_start hbegin (expiryAfter_of_not_overruns hcalendar hformed hfits) hfree

/-- With minutes that are a lifetime, but without a storage transaction or a free number, starting
fails in the store. -/
theorem exists_failure_start_minutes (hcalendar : broker.clock.InCalendar)
    (hformed : broker.clock.WellFormed) (hfits : ¬ broker.clock.Overruns minutes)
    (hstuck : broker.outages.hitsNext = true ∨
      ¬ broker.store.lastTransaction + 1 < half64) :
    ∃ failure, ((check (Service.minutes minutes) >>= Broker.start).run broker).1 =
      .error (.storage failure) := by
  have hexpiry := expiryAfter_of_not_overruns hcalendar hformed hfits
  rw [run_bind_of_ok (run_check_of_ok (minutes_of_not_overruns hfits)), Broker.start,
    run_now_bind, run_bind_of_ok (run_check_of_ok hexpiry)]
  exact exists_failure_of_inStorage
    (hstuck.imp_right fun hfull => ⟨_, run_insertTransaction_of_full hfull⟩)

/-- Starting a transaction reckons with its minutes. -/
theorem reckons_start (minutes : Int) (hcalendar : broker.clock.InCalendar)
    (hformed : broker.clock.WellFormed) (hnumbered : broker.store.Numbered) :
    Reckons (Service.start minutes) broker minutes (broker.store.lastTransaction + 1 < half64)
      fun id store => store.EndsAt id (broker.clock.addMinutes minutes) := by
  refine reckons_reply (run_check_minutes hcalendar hformed fun lifetime hnone => ?_)
    (exists_failure_start_minutes hcalendar hformed) fun hfits hbegin hfree => ?_
  · obtain ⟨why, hwhy⟩ := expiryAfter_of_none hnone
    rw [Broker.start, run_now_bind]
    exact ⟨why, run_bind_of_error (run_check_of_error hwhy)⟩
  · obtain ⟨after, hrun, hstore, _⟩ :=
      exists_run_start_minutes hcalendar hformed hfits hbegin hfree
    rw [hrun]
    exact ⟨_, rfl, _, hstore ▸ Store.transaction?_plus hnumbered [], rfl, rfl⟩

/-- Starting a transaction, which may be refused, leaves a sound store sound. -/
theorem sound_after_start (minutes : Int) (hsound : broker.store.Sound) :
    ((Service.start minutes).run broker).2.store.Sound := by
  rw [Service.start, store_run_reply]
  cases Service.minutes minutes with
  | error error =>
      rw [run_bind_of_error (run_check_of_error rfl)]
      exact hsound
  | ok lifetime =>
      rw [run_bind_of_ok (run_check_of_ok rfl)]
      exact Step.sound_after ⟨broker, .start lifetime⟩ hsound

/-- Extending an open transaction reckons with its minutes. -/
theorem reckons_extend (hcalendar : broker.clock.InCalendar) (hformed : broker.clock.WellFormed)
    (hnumbered : broker.store.Numbered) {id : TransactionId}
    (hopen : broker.store.IsOpen id broker.clock) :
    Reckons (Service.extend id minutes) broker minutes True fun expiry store =>
      expiry = broker.clock.addMinutes minutes ∧
        store.EndsAt id (broker.clock.addMinutes minutes) := by
  refine reckons_reply (run_check_minutes hcalendar hformed fun lifetime hnone => ?_)
    (fun hfits hstuck => ?_) fun hfits hbegin _ => ?_
  · obtain ⟨why, hwhy⟩ := expiryAfter_of_none hnone
    rw [Broker.extend, run_now_bind]
    exact ⟨why, run_bind_of_error (run_check_of_error hwhy)⟩
  · have hexpiry := expiryAfter_of_not_overruns hcalendar hformed hfits
    rw [run_bind_of_ok (run_check_of_ok (minutes_of_not_overruns hfits)), Broker.extend,
      run_now_bind, run_bind_of_ok (run_check_of_ok hexpiry)]
    exact exists_failure_of_under hopen (hstuck.imp_right fun hnot => absurd trivial hnot)
  · have hexpiry := expiryAfter_of_not_overruns hcalendar hformed hfits
    have hwork : (Work.extend id (broker.clock.addMinutes minutes)).run broker.store = .ok _ :=
      Work.run_extend hopen
    have hextended := run_under_of_ok hbegin hopen hwork
    rw [run_bind_of_ok (run_check_of_ok (minutes_of_not_overruns hfits)), Broker.extend,
      run_now_bind, run_bind_of_ok (run_check_of_ok hexpiry), run_bind_of_ok hextended]
    obtain ⟨t, hfind, hactive, _⟩ := hopen
    have hid := (Store.transaction?_eq_some hfind).2
    refine ⟨_, rfl, rfl, { t with expiryTime := broker.clock.addMinutes minutes }, ?_, hactive,
      rfl⟩
    have hfound :=
      (Change.extend id broker.clock (broker.clock.addMinutes minutes)).transaction?_apply
        hnumbered hfind
    rw [Change.transactionAfter, if_pos (by simp [hid, Transaction.isActive, hactive])] at hfound
    exact hfound

/-- A request whose minutes are refused is refused for that. -/
theorem newMessage_of_error {request : MessageRequest} {error : Error}
    (hminutes : request.expiryMinutes = some minutes)
    (hrefused : Service.minutes minutes = .error error) : newMessage request = .error error := by
  rw [newMessage, hminutes, Option.mapM_some, hrefused]
  rfl

/-- A request whose minutes are read is for the message that is given with it. -/
theorem newMessage_of_ok {request : MessageRequest}
    (hminutes : request.expiryMinutes = some minutes)
    (hread : Service.minutes minutes = .ok (.ofSeconds (60 * minutes))) :
    newMessage request = .ok (Posting.queueMessage request).given := by
  rw [newMessage, Posting.given, hminutes, Option.mapM_some, hread]
  rfl

/-- There is nothing to object to in a message with attempts and a lifetime of minutes. -/
theorem check_given {request : MessageRequest} (hminutes : request.expiryMinutes = some minutes)
    (hpositive : 0 ≤ minutes) (hattempts : 0 < request.maxAttempts) :
    (Posting.queueMessage request).given.check = .ok () := by
  have hforwards := not_isNegative_ofSeconds hpositive
  rw [NewMessage.check, Posting.given, hminutes]
  simp [hforwards, Nat.ne_of_gt hattempts]

/-- Adding a message with a lifetime under an open transaction, to a queue that is there, reckons
with its minutes. -/
theorem reckons_queueMessage (hcalendar : broker.clock.InCalendar)
    (hformed : broker.clock.WellFormed) (hsound : broker.store.Sound) {request : MessageRequest}
    (hminutes : request.expiryMinutes = some minutes) (hattempts : 0 < request.maxAttempts)
    (hqueue : (broker.store.queue? request.queue).isSome)
    (hopen : broker.store.IsOpen request.transaction broker.clock) :
    Reckons (Service.queueMessage request) broker minutes (broker.store.lastMessage + 1 < half64)
      fun id store => ∃ m, store.message? id = some m ∧
        m.expiryTime = some (broker.clock.addMinutes minutes) := by
  have hlifetime : (Posting.queueMessage request).given.lifetime =
      some (.ofSeconds (60 * minutes)) := by
    rw [Posting.given, hminutes]
    rfl
  have hlives (hfits : ¬ broker.clock.Overruns minutes) :
      messageExpiry (Posting.queueMessage request).given broker.clock =
        .ok (some (broker.clock.addMinutes minutes)) := by
    rw [messageExpiry, hlifetime]
    dsimp only
    rw [Instant.shift?_of_not_overruns hcalendar hformed hfits]
  refine reckons_reply (fun hlate => ?_) (fun hfits hstuck => ?_) fun hfits hbegin hfree => ?_
  · rcases minutes_of_overruns hcalendar hformed hlate with
      ⟨why, hwhy⟩ | ⟨hpositive, hread, hnone⟩
    · exact ⟨why, run_bind_of_error (run_check_of_error (newMessage_of_error hminutes hwhy))⟩
    · obtain ⟨why, hwhy⟩ := messageExpiry_of_none hlifetime hnone
      rw [run_bind_of_ok (run_check_of_ok (newMessage_of_ok hminutes hread)), Broker.enqueue,
        run_bind_of_ok (run_check_of_ok (check_given hminutes hpositive hattempts)), run_now_bind]
      exact ⟨why, run_bind_of_error (run_check_of_error hwhy)⟩
  · have hpositive := (Instant.not_overruns_iff.1 hfits).1
    have hnew := newMessage_of_ok hminutes (minutes_of_not_overruns hfits)
    rw [run_bind_of_ok (run_check_of_ok hnew), Broker.enqueue,
      run_bind_of_ok (run_check_of_ok (check_given hminutes hpositive hattempts)), run_now_bind,
      run_bind_of_ok (run_check_of_ok (hlives hfits))]
    exact exists_failure_of_under hopen
      (hstuck.imp_right fun hfull => ⟨_, run_enqueue_of_full hqueue hopen hfull⟩)
  · have hpositive := (Instant.not_overruns_iff.1 hfits).1
    have hnew := newMessage_of_ok hminutes (minutes_of_not_overruns hfits)
    have hallowed : (Change.add ((Posting.queueMessage request).given.draft request.queue
        request.transaction broker.clock (some (broker.clock.addMinutes minutes)))).Allowed
        broker.store := ⟨hqueue, hopen, hattempts, hfree⟩
    obtain ⟨after, hrun, _⟩ := exists_run_enqueue hbegin
      (check_given hminutes hpositive hattempts) (hlives hfits) hallowed
    rw [run_bind_of_ok (run_check_of_ok hnew), hrun]
    obtain ⟨hafter, htells, m, hm, hid⟩ :=
      Posting.leaves_of_run_enqueue (.queueMessage request) hsound hrun rfl rfl
    refine ⟨_, rfl, m, hid ▸ hafter.numbered.message?_eq hm, ?_⟩
    rw [(htells.told m hm hid).expiryTime_eq, hlifetime, Option.map_some,
      Instant.shift_ofSeconds hformed hpositive]

end Service

namespace Store.EndsAt

variable {store : Store} {id : TransactionId} {expiry now : Instant}

/-- A transaction is open before the end of its lifetime. -/
theorem isOpen (h : store.EndsAt id expiry) (hbefore : ¬ expiry ≤ now) : store.IsOpen id now := by
  obtain ⟨t, hfind, hactive, rfl⟩ := h
  exact ⟨t, hfind, hactive, decide_eq_false hbefore⟩

/-- A transaction that is active at the end of its lifetime or after it has lapsed. -/
theorem hasLapsed (h : store.EndsAt id expiry) (hafter : expiry ≤ now) :
    store.HasLapsed id now := by
  obtain ⟨t, hfind, hactive, rfl⟩ := h
  exact ⟨t, hfind, hactive, decide_eq_true hafter⟩

/-- A transaction that has added nothing keeps nothing back. -/
theorem keepsBack (h : store.EndsAt id expiry) (hsound : store.Sound) :
    store.KeepsBack id expiry [] := by
  obtain ⟨t, hfind, hactive, hexpiry⟩ := h
  exact ⟨hsound, ⟨t, hfind, by simp [hactive], fun _ => hexpiry⟩, nofun⟩

end Store.EndsAt

namespace Move

variable {broker : Broker} {move : Move} {id : TransactionId} {expiry : Instant}

/-- Is there what the move needs beside an open transaction: its queue, and a free number? -/
def IsProvided (store : Store) : Move → Prop
  | .enqueue _ queue _ => (store.queue? queue).isSome ∧ store.lastMessage + 1 < half64
  | .dequeue _ queue => (store.queue? queue).isSome
  | _ => True

/-- A call under an open transaction answers when nothing else is in its way. -/
theorem exists_answer_of_open (howner : move.owner? = some id) (hworks : move.WorksAt broker.clock)
    (hbegin : broker.outages.hitsNext = false) (hprovided : move.IsProvided broker.store)
    (hopen : broker.store.IsOpen id broker.clock) :
    ∃ answer, move.answer broker = .ok answer := by
  cases move with
  | commit owner => cases howner; exact ⟨_, (commit_of_open hbegin hopen).1⟩
  | rollback owner reason => cases howner; exact ⟨_, (rollback_of_open reason hbegin hopen).1⟩
  | extend owner lifetime =>
      cases howner
      obtain ⟨expiry, hexpiry⟩ := hworks
      rw [answer, call, Broker.extend, Broker.run_now_bind,
        Broker.run_bind_of_ok (Broker.run_check_of_ok hexpiry),
        Broker.run_bind_of_ok (Broker.run_under_of_ok hbegin hopen (Work.run_extend hopen))]
      exact ⟨_, rfl⟩
  | enqueue owner queue new =>
      cases howner
      obtain ⟨hcheck, lives, hlives⟩ := hworks
      have hallowed : (Change.add (new.draft queue id broker.clock lives)).Allowed
          broker.store := ⟨hprovided.1, hopen, NewMessage.maxAttempts_pos hcheck, hprovided.2⟩
      obtain ⟨after, hrun, _⟩ := Broker.exists_run_enqueue hbegin hcheck hlives hallowed
      exact ⟨_, congrArg Prod.fst hrun⟩
  | dequeue owner queue => cases howner; exact ⟨_, answer_dequeue hbegin hprovided hopen⟩
  | _ => cases howner

/-- A call under a transaction that is active says that it has expired if its lifetime is over, and
otherwise never. -/
theorem answer_expired_iff (hends : broker.store.EndsAt id expiry) (howner : move.owner? = some id)
    (hworks : move.WorksAt broker.clock) (hbegin : broker.outages.hitsNext = false) :
    move.answer broker = .error (.expired id) ↔ expiry ≤ broker.clock := by
  constructor
  · intro hsaid
    by_contra hbefore
    have hopen := hends.isOpen hbefore
    rcases expiry_cases howner hsaid with ⟨_, ⟨⟨t, hfind, hexpired⟩, _⟩ | ⟨hlapsed, _⟩⟩
    · obtain ⟨found, hfound, hactive, _⟩ := hopen
      cases hfind.symm.trans hfound
      cases hexpired.symm.trans hactive
    · exact hopen.not_hasLapsed hlapsed
  · intro hafter
    obtain ⟨after, hrun, _⟩ :=
      Broker.exists_run_of_lapsed hworks howner hbegin (hends.hasLapsed hafter)
    exact congrArg Prod.fst hrun

/-- A call under a transaction that is active, with nothing else in its way, answers exactly before
the transaction's lifetime is over. -/
theorem exists_answer_iff (hends : broker.store.EndsAt id expiry) (howner : move.owner? = some id)
    (hworks : move.WorksAt broker.clock) (hbegin : broker.outages.hitsNext = false)
    (hprovided : move.IsProvided broker.store) :
    (∃ answer, move.answer broker = .ok answer) ↔ ¬ expiry ≤ broker.clock := by
  constructor
  · rintro ⟨answer, hanswer⟩ hafter
    cases hanswer.symm.trans ((answer_expired_iff hends howner hworks hbegin).2 hafter)
  · exact fun hbefore =>
      exists_answer_of_open howner hworks hbegin hprovided (hends.isOpen hbefore)

end Move

namespace Broker

open Service

/-- After every run, whose clock then shows an instant of the calendar, and for all minutes:
starting a transaction, extending an open one, and adding a message under an open one object to the
minutes exactly if they are negative, more than a duration can have, or end after the calendar, and
then do nothing; otherwise the lifetime that is stored ends exactly so many minutes after the clock.
Let a transaction be started so, and let there be any moves after that which are not made under it.
As long as it is active then, a call under it says that it has expired if the clock, wherever it has
been set, has come to the end of that lifetime, and not before; and with nothing else in its way it
answers before, and not from then on. -/
theorem minutes_reckoned (broker : Broker) (moves : List Move) (minutes : Int)
    (hcalendar : (play moves broker.emptied).clock.InCalendar)
    (hformed : (play moves broker.emptied).clock.WellFormed) :
    let found := play moves broker.emptied
    let expiry := found.clock.addMinutes minutes
    let started := (Service.start minutes).run found
    Reckons (Service.start minutes) found minutes (found.store.lastTransaction + 1 < half64)
        (fun id store => store.EndsAt id expiry) ∧
      (∀ id, found.store.IsOpen id found.clock →
        Reckons (Service.extend id minutes) found minutes True
          fun answer store => answer = expiry ∧ store.EndsAt id expiry) ∧
      (∀ request : MessageRequest, request.expiryMinutes = some minutes →
        0 < request.maxAttempts → (found.store.queue? request.queue).isSome →
        found.store.IsOpen request.transaction found.clock →
        Reckons (Service.queueMessage request) found minutes
          (found.store.lastMessage + 1 < half64)
          fun id store => ∃ m, store.message? id = some m ∧ m.expiryTime = some expiry) ∧
      ∀ id, started.1 = .ok id →
        ∀ later : List Move, (∀ move ∈ later, move.owner? ≠ some id) →
          let reached := play later started.2
          (∃ t, reached.store.transaction? id = some t ∧ t.state = .active) →
          ∀ call : Move, call.owner? = some id → call.WorksAt reached.clock →
            reached.outages.hitsNext = false →
            (call.answer reached = .error (.expired id) ↔ expiry ≤ reached.clock) ∧
              (call.IsProvided reached.store →
                ((∃ answer, call.answer reached = .ok answer) ↔ ¬ expiry ≤ reached.clock)) := by
  intro found expiry started
  have hsound : found.store.Sound := play_sound broker moves
  have hstarts := reckons_start minutes hcalendar hformed hsound.numbered
  refine ⟨hstarts, fun id hopen => reckons_extend hcalendar hformed hsound.numbered hopen,
    fun request hminutes hattempts hqueue hopen =>
      reckons_queueMessage hcalendar hformed hsound hminutes hattempts hqueue hopen, ?_⟩
  intro id hstarted later hnot reached hactive call howner hworks hbegin
  have hafter : started.2.store.Sound := sound_after_start minutes hsound
  have hends : reached.store.EndsAt id expiry := by
    have hkept := keepsBack_play ((hstarts.ends id hstarted).keepsBack hafter) hnot
    obtain ⟨t, hfind, _, hexpiry⟩ := hkept.uncommitted
    obtain ⟨row, hrow, hstate⟩ := hactive
    cases hrow.symm.trans hfind
    exact ⟨t, hfind, hstate, hexpiry hstate⟩
  exact ⟨Move.answer_expired_iff hends howner hworks hbegin,
    Move.exists_answer_iff hends howner hworks hbegin⟩

/-- Two minutes before the last second of the calendar, two minutes are a lifetime and three are
none. The last nanosecond before that second is still before the lifetime's end. -/
theorem minutes_reckoned_lastTwo :
    let clock : Instant := ⟨Instant.lastSecond - 120, 0⟩
    let found := play [.createQueue "q", .start (.ofSeconds 60)] (emptied { clock })
    let started := (Service.start 2).run found
    Objects ((Service.start 3).run found).1 ∧ Objects ((Service.extend ⟨1⟩ 3).run found).1 ∧
      Objects ((Service.queueMessage { fullRequest with expiryMinutes := some 3 }).run found).1 ∧
      started.1 = .ok ⟨2⟩ ∧ started.2.store.EndsAt ⟨2⟩ ⟨Instant.lastSecond, 0⟩ ∧
      (∃ answer, (Move.commit ⟨2⟩).answer
        (play [.setClock ⟨Instant.lastSecond - 1, 999_999_999⟩] started.2) = .ok answer) ∧
      (Move.rollback ⟨2⟩ "").answer (play [.setClock ⟨Instant.lastSecond, 0⟩] started.2) =
        .error (.expired ⟨2⟩) := by
  intro clock found started
  have hcalendar : found.clock.InCalendar := by decide +kernel
  have hformed : found.clock.WellFormed := by decide +kernel
  have hopen : found.store.IsOpen ⟨1⟩ found.clock := by decide +kernel
  have hstarted : started.1 = .ok ⟨2⟩ := by decide +kernel
  have htoo : found.clock.Overruns 3 := by decide +kernel
  obtain ⟨hlate, hlater, hlatest, _⟩ := minutes_reckoned { clock }
    [.createQueue "q", .start (.ofSeconds 60)] 3 hcalendar hformed
  obtain ⟨hfits, _, _, hadmits⟩ := minutes_reckoned { clock }
    [.createQueue "q", .start (.ofSeconds 60)] 2 hcalendar hformed
  have hend : found.clock.addMinutes 2 = ⟨Instant.lastSecond, 0⟩ := by decide +kernel
  have hends : started.2.store.EndsAt ⟨2⟩ ⟨Instant.lastSecond, 0⟩ :=
    hend ▸ hfits.ends ⟨2⟩ hstarted
  obtain ⟨t, hfind, hactive, hlast⟩ := hends
  have hkept (broker : Broker) (now : Instant) :
      (play [.setClock now] broker).store = broker.store := rfl
  have hbefore := hadmits ⟨2⟩ hstarted
    [.setClock ⟨Instant.lastSecond - 1, 999_999_999⟩] (by decide +kernel)
    (by rw [hkept]; exact ⟨t, hfind, hactive⟩) (.commit ⟨2⟩) rfl trivial (by decide +kernel)
  have hafter := hadmits ⟨2⟩ hstarted [.setClock ⟨Instant.lastSecond, 0⟩] (by decide +kernel)
    (by rw [hkept]; exact ⟨t, hfind, hactive⟩) (.rollback ⟨2⟩ "") rfl trivial (by decide +kernel)
  exact ⟨hlate.objects_iff.2 htoo, (hlater ⟨1⟩ hopen).objects_iff.2 htoo,
    (hlatest { fullRequest with expiryMinutes := some 3 } rfl (by decide +kernel)
      (by decide +kernel) hopen).objects_iff.2 htoo,
    hstarted, ⟨t, hfind, hactive, hlast⟩, (hbefore.2 trivial).2 (hend ▸ by decide +kernel),
    hafter.1.2 (hend ▸ by decide +kernel)⟩

end Broker

end WorkQueue
