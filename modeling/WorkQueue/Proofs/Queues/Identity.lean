import WorkQueue.Proofs.Queues.Addresses
import WorkQueue.Proofs.Queues.Names
import WorkQueue.Proofs.Store.Coupling
import Mathlib.Data.List.Nodup

/-!
# Which queue is which

Over whole runs, the names of the queues that are there are names, and differ in more than the case
of letters. So every way of writing the name of a queue means that queue and no other; a name can be
given to a new queue exactly when no queue has it; and the number of a queue that was deleted never
means a queue again. The numbers that calls give out, for queues, transactions and messages each,
are one, two, three and so on, whatever fails in between. `queue_identity` puts this together.
-/

namespace WorkQueue

namespace QueueName

variable {text : String} {stripped : List Char}

/-- A text whose blanks are around a name writes that name. -/
theorem ofText_of_isName (h : Text.StripsTo text.toList stripped) (hname : IsName stripped) :
    ofText text = .ok ⟨String.ofList stripped⟩ := by
  obtain rfl := h.eq_trim
  exact ofText_eq_ok_iff.2 ⟨rfl, hname.1, fun c hc => isNameChar_iff.2 (hname.2 c hc)⟩

/-- Any other text is an invalid argument. -/
theorem ofText_of_not_isName (h : Text.StripsTo text.toList stripped) (hname : ¬ IsName stripped) :
    ∃ why, ofText text = .error (.invalidArgument why) := by
  obtain rfl := h.eq_trim
  cases hread : ofText text with
  | ok name =>
      obtain ⟨_, hnil, hchars⟩ := ofText_eq_ok_iff.1 hread
      exact absurd ⟨hnil, fun c hc => isNameChar_iff.1 (hchars c hc)⟩ hname
  | error error =>
      unfold ofText at hread
      dsimp only at hread
      split at hread
      · cases hread; exact ⟨_, rfl⟩
      · split at hread <;> cases hread
        exact ⟨_, rfl⟩

end QueueName

namespace Change

variable {store : Store} {name : QueueName}

/-- A new queue comes after the others. -/
theorem queues_addQueue (store : Store) (name : QueueName) :
    ((addQueue name).apply store).queues =
      store.queues ++ [⟨⟨store.lastQueue + 1⟩, name.display⟩] := by
  rw [apply_of_no_loss (fun _ => rfl) (fun _ => rfl) fun _ => rfl]
  rfl

/-- Names that differ in more than the case of letters still do when a new one comes. -/
theorem distinct_addQueue (h : (store.queues.map fun queue => foldCase queue.name).Nodup)
    (hfree : store.queueNamed? name = none) :
    (((addQueue name).apply store).queues.map fun queue => foldCase queue.name).Nodup := by
  rw [queues_addQueue, List.map_append, List.map_singleton, List.nodup_append]
  refine ⟨h, List.nodup_singleton _, ?_⟩
  intro key hkey taken htaken
  obtain ⟨queue, hqueue, rfl⟩ := List.mem_map.1 hkey
  rw [List.mem_singleton.1 htaken]
  exact of_decide_eq_false (Bool.eq_false_iff.2 (List.find?_eq_none.1 hfree queue hqueue))

end Change

namespace Store

/-- The queues have names, and these differ in more than the case of letters. -/
structure Named (store : Store) : Prop where
  names : ∀ queue ∈ store.queues, IsName queue.name.toList
  distinct : (store.queues.map fun queue => foldCase queue.name).Nodup

/-- The empty store has no queues that could be named. -/
theorem named_empty : Named {} :=
  ⟨nofun, List.nodup_nil⟩

namespace Named

variable {store : Store} {queue other : Queue} {text : String} {stripped : List Char}

/-- Queues with one name are one queue. -/
theorem eq_of_sameName (h : store.Named) (hqueue : queue ∈ store.queues)
    (hother : other ∈ store.queues) (hsame : SameName queue.name.toList other.name.toList) :
    queue = other :=
  List.inj_on_of_nodup_map h.distinct hqueue hother (foldCase_eq_iff.2 hsame)

/-- Different queues have names that differ in more than the case of letters. -/
theorem pairwise (h : store.Named) :
    store.queues.Pairwise fun a b => ¬ SameName a.name.toList b.name.toList :=
  (List.pairwise_map.1 h.distinct).imp fun hne hsame => hne (foldCase_eq_iff.2 hsame)

/-- A queue is found by its name in any case of letters, and no other is. -/
theorem queueNamed?_eq_some_iff (h : store.Named) (name : QueueName) (queue : Queue) :
    store.queueNamed? name = some queue ↔
      queue ∈ store.queues ∧ SameName name.display.toList queue.name.toList := by
  have hkey (queue : Queue) : foldCase queue.name = name.key ↔
      SameName name.display.toList queue.name.toList := by
    rw [QueueName.key, eq_comm, foldCase_eq_iff]
  constructor
  · intro hfind
    have hfound := List.find?_some hfind
    exact ⟨List.mem_of_find?_eq_some hfind, (hkey queue).1 (by simpa using hfound)⟩
  · rintro ⟨hqueue, hsame⟩
    cases hfind : store.queueNamed? name with
    | none =>
        have hother := List.find?_eq_none.1 hfind queue hqueue
        exact absurd ((hkey queue).2 hsame) (by simpa using hother)
    | some found =>
        have hfound : foldCase found.name = name.key := by simpa using List.find?_some hfind
        have hsameKey := hfound.trans ((hkey queue).2 hsame).symm
        exact congrArg some
          (h.eq_of_sameName (List.mem_of_find?_eq_some hfind) hqueue (foldCase_eq_iff.1 hsameKey))

/-- A text means the queue whose name it writes, in any case of letters, and no other. -/
theorem meant_byName_iff (h : store.Named) (hstrips : Text.StripsTo text.toList stripped) :
    store.meant (.byName text) = .ok queue ↔
      queue ∈ store.queues ∧ SameName stripped queue.name.toList := by
  by_cases hname : IsName stripped
  · have haddress : QueueAddress.ofRef (.byName text) = .ok (.named ⟨String.ofList stripped⟩) := by
      rw [QueueAddress.ofRef, QueueName.ofText_of_isName hstrips hname]
      rfl
    have hfind := h.queueNamed?_eq_some_iff ⟨String.ofList stripped⟩ queue
    rw [String.toList_ofList] at hfind
    rw [meant_eq_ok_iff, ← hfind]
    simp [haddress, queueAt?]
  · obtain ⟨why, hwhy⟩ := QueueName.ofText_of_not_isName hstrips hname
    have haddress : QueueAddress.ofRef (.byName text) = .error (.invalidArgument why) := by
      rw [QueueAddress.ofRef, hwhy]
      rfl
    rw [meant_eq_ok_iff]
    simp only [haddress, reduceCtorEq, false_and, exists_false, false_iff, not_and]
    intro hqueue hsame
    exact hname (hsame.isName (h.names queue hqueue))

/-- Queues may go. -/
theorem of_sublist (h : store.Named) {rest : Store} (hrest : rest.queues.Sublist store.queues) :
    rest.Named :=
  ⟨fun queue hqueue => h.names queue (hrest.subset hqueue), h.distinct.sublist (hrest.map _)⟩

/-- A queue with a name that no other has may come. -/
theorem apply_addQueue (h : store.Named) {name : QueueName} (hname : IsName name.display.toList)
    (hfree : store.queueNamed? name = none) : ((Change.addQueue name).apply store).Named := by
  refine ⟨fun queue hqueue => ?_, Change.distinct_addQueue h.distinct hfree⟩
  rw [Change.queues_addQueue] at hqueue
  rcases List.mem_append.1 hqueue with hold | hnew
  · exact h.names queue hold
  · rw [List.mem_singleton.1 hnew]
    exact hname

end Named

end Store

/-- Names stay names and stay different with every move. -/
theorem Move.named_after (move : Move) {broker : Broker} (h : broker.store.Named) :
    (move.after broker).store.Named := by
  obtain ⟨change, hallowed, hcomes, hstore⟩ := move.explained broker
  replace hstore : (move.after broker).store = change.apply broker.store := hstore
  generalize (move.call.run broker).1 = answer at hcomes
  rw [hstore]
  cases change with
  | addQueue name =>
      cases hcomes with
      | queueCreated text _ hread =>
          obtain ⟨hdisplay, hnil, hchars⟩ := QueueName.ofText_eq_ok_iff.1 hread
          refine h.apply_addQueue ?_ hallowed.1
          rw [hdisplay, String.toList_ofList]
          exact ⟨hnil, fun c hc => isNameChar_iff.1 (hchars c hc)⟩
  | _ =>
      refine h.of_sublist ?_
      show (broker.store.queues.filter _ ++ []).Sublist broker.store.queues
      rw [List.append_nil]
      exact List.filter_sublist

/-! ## Numbers -/

/-- The kinds of row that are numbered. -/
inductive RowKind where
  | queue
  | transaction
  | message
  deriving DecidableEq, Repr

/-- The last number given out. -/
def Store.last (store : Store) : RowKind → Nat
  | .queue => store.lastQueue
  | .transaction => store.lastTransaction
  | .message => store.lastMessage

/-- The number that a move gives out by its answer. -/
def Move.number? : RowKind → (move : Move) → Except Error move.Answer → Option Nat
  | .queue, .createQueue _, .ok id => some id.value
  | .transaction, .start _, .ok id => some id.value
  | .message, .enqueue _ _ _, .ok id => some id.value
  | _, _, _ => none

/-- A move gives out the next number, or none, and then the last one is as it was. -/
theorem ComesTo.number?_cases {store : Store} {now : Instant} {move : Move}
    {answer : Except Error move.Answer} {change : Change}
    (h : ComesTo store now move answer change) (kind : RowKind) :
    (move.number? kind answer = none ∧ (change.apply store).last kind = store.last kind) ∨
      (move.number? kind answer = some (store.last kind + 1) ∧
        (change.apply store).last kind = store.last kind + 1) := by
  cases h with
  | refused move error =>
      refine .inl ⟨?_, by rw [Change.apply_nothing]⟩
      cases kind <;> cases move <;> rfl
  | looked move answer hlook =>
      refine .inl ⟨?_, by rw [Change.apply_nothing]⟩
      cases kind <;> cases move <;> first | rfl | cases hlook
  | lapsed move id howner =>
      refine .inl ⟨?_, ?_⟩
      · cases kind <;> cases move <;> rfl
      · cases kind <;> rfl
  | queueCreated | started | added =>
      cases kind <;> first | exact .inr ⟨rfl, rfl⟩ | exact .inl ⟨rfl, rfl⟩
  | _ => cases kind <;> exact .inl ⟨rfl, rfl⟩

/-- The numbers that steps give out, in the order of the steps. -/
def numbersGiven (kind : RowKind) (steps : List Step) : List Nat :=
  steps.filterMap fun step => step.move.number? kind (step.move.answer step.before)

/-- After a step the numbers given out before it are followed by the next one, or by none. -/
theorem numbersGiven_append (steps : List Step) (step : Step) (kind : RowKind)
    (h : numbersGiven kind steps = List.range' 1 (step.before.store.last kind)) :
    numbersGiven kind (steps ++ [step]) = List.range' 1 (step.after.store.last kind) := by
  obtain ⟨change, _, hcomes, hstore⟩ := step.explained
  rw [numbersGiven, List.filterMap_append, ← numbersGiven, h, hstore]
  rcases hcomes.number?_cases kind with ⟨hnone, hlast⟩ | ⟨hsome, hlast⟩
  · rw [List.filterMap_cons, hnone, hlast]
    exact List.append_nil _
  · rw [List.filterMap_cons, hsome, hlast, List.range'_1_concat, Nat.add_comm 1]
    rfl

namespace Broker

/-- The numbers given out along a run are one, two, three and so on to the last one. -/
theorem numbersGiven_play (broker : Broker) (moves : List Move) (kind : RowKind) :
    numbersGiven kind (trace moves broker.emptied) =
      List.range' 1 ((play moves broker.emptied).store.last kind) := by
  refine play_invariant
    (fun steps broker => numbersGiven kind steps = List.range' 1 (broker.store.last kind)) ?_
    (fun steps before move h => numbersGiven_append steps ⟨before, move⟩ kind h) moves
  cases kind <;> rfl

/-- After every run the queues have names that differ in more than the case of letters. -/
theorem play_named (broker : Broker) (moves : List Move) :
    (play moves broker.emptied).store.Named :=
  play_invariant (fun _ broker => broker.store.Named) Store.named_empty
    (fun _ _ move h => move.named_after h) moves

/-- A queue that is not there any more does not come back in any run. -/
theorem hasLost_play {broker : Broker} {queue : QueueId} (h : broker.store.HasLost queue)
    (moves : List Move) : (play moves broker).store.HasLost queue :=
  play_store (fun store => store.HasLost queue) (fun change _ _ h => h.apply change) moves h

/-- A queue is only deleted in a storage transaction that can be begun. -/
theorem begins_of_deleteQueue {broker : Broker} {ref : QueueRef} {removed : Nat}
    (h : (Move.deleteQueue ref).answer broker = .ok removed) :
    broker.outages.hitsNext = false := by
  cases hbegin : broker.outages.hitsNext with
  | false => rfl
  | true =>
      rw [Move.answer, Move.call, deleteQueue] at h
      cases haddress : QueueAddress.ofRef ref with
      | error error =>
          rw [run_bind_of_error (run_check_of_error haddress)] at h
          cases h
      | ok address =>
          rw [run_bind_of_ok (run_check_of_ok haddress),
            run_bind_of_error (run_inStorage_of_outage hbegin)] at h
          cases h

/-- A queue that has been deleted is lost. -/
theorem hasLost_deleteQueue {broker : Broker} (hnumbered : broker.store.Numbered) {ref : QueueRef}
    {removed : Nat} (h : (Move.deleteQueue ref).answer broker = .ok removed) :
    ∃ gone, broker.store.meant ref = .ok gone ∧
      ((Move.deleteQueue ref).after broker).store.HasLost gone.id := by
  obtain ⟨hanswer, hstore, _⟩ := deleteQueue_meant ref (begins_of_deleteQueue h)
  rw [h] at hanswer
  cases hmeant : broker.store.meant ref with
  | error error => rw [hmeant] at hanswer; cases hanswer
  | ok gone =>
      rw [hmeant] at hstore
      rw [hstore]
      have hthere : (Change.dropQueue gone.id).Allowed broker.store :=
        List.find?_isSome.2 ⟨gone, Store.mem_of_meant hmeant, by simp⟩
      exact ⟨gone, rfl, hnumbered.hasLost_dropQueue hthere⟩

/-- Creating a queue: a text that is no name is an invalid argument, a name that a queue has already
exists, and any other name is given to a new queue, as long as there are numbers. -/
theorem createQueue_cases {broker : Broker} (hnamed : broker.store.Named)
    (hbegin : broker.outages.hitsNext = false) {text : String} {stripped : List Char}
    (hstrips : Text.StripsTo text.toList stripped) :
    (¬ IsName stripped ∧
        ∃ why, (Move.createQueue text).answer broker = .error (.invalidArgument why)) ∨
      (IsName stripped ∧
        (∃ queue ∈ broker.store.queues, SameName stripped queue.name.toList) ∧
        ∃ what, (Move.createQueue text).answer broker = .error (.alreadyExists what)) ∨
      (IsName stripped ∧
        (¬ ∃ queue ∈ broker.store.queues, SameName stripped queue.name.toList) ∧
        (Move.createQueue text).answer broker =
          if broker.store.lastQueue + 1 < half64 then .ok ⟨broker.store.lastQueue + 1⟩
          else .error (.storage .noNumbersLeft)) := by
  rw [Move.answer, Move.call, createQueue]
  by_cases hname : IsName stripped
  · have hread := QueueName.ofText_of_isName hstrips hname
    have hfound := hnamed.queueNamed?_eq_some_iff ⟨String.ofList stripped⟩
    simp only [String.toList_ofList] at hfound
    rw [run_bind_of_ok (run_check_of_ok hread)]
    cases htaken : broker.store.queueNamed? ⟨String.ofList stripped⟩ with
    | some queue =>
        have hwork : (Store.insertQueue ⟨String.ofList stripped⟩).run broker.store =
            .error (.alreadyExists (QueueName.quoted ⟨String.ofList stripped⟩)) := by
          rw [Store.insertQueue, Work.run_get_bind, htaken]
          rfl
        rw [run_bind_of_error (run_inStorage_of_error hbegin hwork)]
        exact .inr (.inl ⟨hname, ⟨queue, (hfound queue).1 htaken⟩, _, rfl⟩)
    | none =>
        have hfree : ¬ ∃ queue ∈ broker.store.queues, SameName stripped queue.name.toList := by
          rintro ⟨queue, hqueue, hsame⟩
          cases htaken.symm.trans ((hfound queue).2 ⟨hqueue, hsame⟩)
        refine .inr (.inr ⟨hname, hfree, ?_⟩)
        by_cases hnumber : broker.store.lastQueue + 1 < half64
        · have hwork := Work.run_insertQueue_of_allowed ⟨htaken, hnumber⟩
          rw [run_bind_of_ok (run_inStorage_of_ok hbegin hwork), if_pos hnumber]
          rfl
        · have hwork : (Store.insertQueue ⟨String.ofList stripped⟩).run broker.store =
              .error (.storage .noNumbersLeft) := by
            rw [Store.insertQueue, Work.run_get_bind, htaken]
            exact Work.run_bind_of_error (Work.run_nextNumber_of_last hnumber)
          rw [run_bind_of_error (run_inStorage_of_error hbegin hwork), if_neg hnumber]
  · obtain ⟨why, hwhy⟩ := QueueName.ofText_of_not_isName hstrips hname
    rw [run_bind_of_error (run_check_of_error hwhy)]
    exact .inl ⟨hname, why, rfl⟩

/-- A call that names a queue by any way of writing its name finds, counts out or deletes that queue
and no other. -/
theorem calls_byName {broker : Broker} {queue : Queue} {text : String} {stripped : List Char}
    (hnamed : broker.store.Named) (hqueue : queue ∈ broker.store.queues)
    (hstrips : Text.StripsTo text.toList stripped) (hsame : SameName stripped queue.name.toList)
    (hbegin : broker.outages.hitsNext = false) :
    (Move.findQueue (.byName text)).answer broker = .ok queue ∧
      (Move.stats (.byName text)).answer broker = .ok (broker.store.statsOf queue.id) ∧
      (Move.deleteQueue (.byName text)).answer broker =
        .ok (broker.store.messages.countP fun m => m.queue = queue.id) ∧
      ((Move.deleteQueue (.byName text)).after broker).store =
        { broker.store with
          queues := broker.store.queues.filter fun other => other.id ≠ queue.id
          messages := broker.store.messages.filter fun m => m.queue ≠ queue.id } := by
  have hmeant := (hnamed.meant_byName_iff hstrips).2 ⟨hqueue, hsame⟩
  obtain ⟨hremoved, hstore, _⟩ := deleteQueue_meant (.byName text) hbegin
  rw [hmeant] at hremoved hstore
  refine ⟨(findQueue_meant _ hbegin).1.trans hmeant, ?_, hremoved, hstore.trans ?_⟩
  · rw [(stats_meant _ hbegin).1, hmeant]
    rfl
  · exact Change.apply_dropQueue queue.id broker.store

/-- After every run, and for every text: creating a queue answers that the text is no name exactly
when what is left of it without the blanks around it has no characters or a wrong one, that the name
already exists exactly when a queue has it in some case of letters, and otherwise the next number,
as long as there is one. No two queues have names that differ in the case of letters only, and every
way of writing the name of a queue means that queue and no other. A queue that is deleted is gone:
in no run after that does anything mean a queue with its number. And the numbers given out along the
run ascend, for each kind of row. -/
theorem queue_identity (broker : Broker) (moves : List Move) :
    let reached := play moves broker.emptied
    (∀ text : String, ∃ stripped, Text.StripsTo text.toList stripped ∧
      (reached.outages.hitsNext = false →
        ((∃ why, (Move.createQueue text).answer reached = .error (.invalidArgument why)) ↔
          stripped = [] ∨ ∃ c ∈ stripped, ¬ NameChar c) ∧
        ((∃ what, (Move.createQueue text).answer reached = .error (.alreadyExists what)) ↔
          IsName stripped ∧
            ∃ queue ∈ reached.store.queues, SameName stripped queue.name.toList) ∧
        (IsName stripped →
          (¬ ∃ queue ∈ reached.store.queues, SameName stripped queue.name.toList) →
            (Move.createQueue text).answer reached =
              if reached.store.lastQueue + 1 < half64 then .ok ⟨reached.store.lastQueue + 1⟩
              else .error (.storage .noNumbersLeft)))) ∧
      reached.store.queues.Pairwise (fun a b => ¬ SameName a.name.toList b.name.toList) ∧
      (∀ queue ∈ reached.store.queues, ∀ (text : String) (stripped : List Char),
        Text.StripsTo text.toList stripped → SameName stripped queue.name.toList →
          reached.outages.hitsNext = false →
            (Move.findQueue (.byName text)).answer reached = .ok queue ∧
            (Move.stats (.byName text)).answer reached =
              .ok (reached.store.statsOf queue.id) ∧
            (Move.deleteQueue (.byName text)).answer reached =
              .ok (reached.store.messages.countP fun m => m.queue = queue.id) ∧
            ((Move.deleteQueue (.byName text)).after reached).store =
              { reached.store with
                queues := reached.store.queues.filter fun other => other.id ≠ queue.id
                messages := reached.store.messages.filter fun m => m.queue ≠ queue.id }) ∧
      (∀ (ref : QueueRef) (removed : Nat), (Move.deleteQueue ref).answer reached = .ok removed →
        ∃ gone, reached.store.meant ref = .ok gone ∧
          ∀ (later : List Move) (other : QueueRef) (found : Queue),
            (play later ((Move.deleteQueue ref).after reached)).store.meant other = .ok found →
              found.id ≠ gone.id) ∧
      ∀ kind, (numbersGiven kind (trace moves broker.emptied)).Pairwise (· < ·) ∧
        ∀ number ∈ numbersGiven kind (trace moves broker.emptied),
          number ≤ reached.store.last kind := by
  intro reached
  have hnamed : reached.store.Named := play_named broker moves
  have hnumbered : reached.store.Numbered := (play_sound broker moves).numbered
  refine ⟨fun text => ⟨_, Text.stripsTo_trim text.toList, fun hbegin => ?_⟩, hnamed.pairwise,
    fun queue hqueue text stripped hstrips hsame hbegin =>
      calls_byName hnamed hqueue hstrips hsame hbegin,
    fun ref removed hremoved => ?_, fun kind => ?_⟩
  · rw [← not_isName_iff]
    rcases createQueue_cases hnamed hbegin (Text.stripsTo_trim text.toList) with
      ⟨hname, why, hanswer⟩ | ⟨hname, htaken, what, hanswer⟩ | ⟨hname, hfree, hanswer⟩
    · simp [hanswer, hname]
    · simp [hanswer, hname, htaken]
    · refine ⟨?_, ?_, fun _ _ => hanswer⟩ <;> rw [hanswer] <;> split <;> simp [hname, hfree]
  · obtain ⟨gone, hmeant, hlost⟩ := hasLost_deleteQueue hnumbered hremoved
    refine ⟨gone, hmeant, fun later other found hfound hid => ?_⟩
    have hnone := (hasLost_play hlost later).2
    have hthere := List.find?_eq_none.1 hnone found (Store.mem_of_meant hfound)
    exact hthere (by simp [hid])
  · rw [numbersGiven_play]
    refine ⟨List.pairwise_lt_range', fun number hnumber => ?_⟩
    have hbounds := List.mem_range'_1.1 hnumber
    show number ≤ (play moves broker.emptied).store.last kind
    omega

/-- A run that creates two queues. -/
def twoQueues : List Move :=
  [.createQueue " Jobs\n", .createQueue "mail"]

/-- Both queues are known by other ways of writing their names. When the first is deleted, its name
can be given to another queue, but nothing ever means a queue with its number again. -/
theorem queue_identity_twoQueues :
    let reached := play twoQueues (emptied { clock := ⟨0, 0⟩ })
    let deleted := (Move.deleteQueue (.byName "JOBS")).after reached
    (Move.findQueue (.byName " MAIL ")).answer reached = .ok ⟨⟨2⟩, "mail"⟩ ∧
      (Move.createQueue "Mail").answer reached = .error (.alreadyExists "queue \"Mail\"") ∧
      (Move.createQueue "jobs").answer deleted = .ok ⟨3⟩ ∧
      ∀ (later : List Move) (other : QueueRef) (found : Queue),
        (play later deleted).store.meant other = .ok found → found.id ≠ ⟨1⟩ := by
  intro reached deleted
  obtain ⟨_, _, hcalls, hdeleted, _⟩ := queue_identity { clock := ⟨0, 0⟩ } twoQueues
  have hstrips : Text.StripsTo " MAIL ".toList "MAIL".toList := Text.stripsTo_trim " MAIL ".toList
  have hsame : SameName "MAIL".toList "mail".toList := foldCase_eq_iff.1 (by decide)
  refine ⟨(hcalls ⟨⟨2⟩, "mail"⟩ (by decide +kernel) " MAIL " _ hstrips hsame rfl).1,
    by decide +kernel, by decide +kernel, ?_⟩
  obtain ⟨gone, hmeant, hgone⟩ := hdeleted (.byName "JOBS") 0 (by decide +kernel)
  have hfirst : reached.store.meant (.byName "JOBS") = .ok ⟨⟨1⟩, "Jobs"⟩ := by decide +kernel
  obtain rfl : gone = ⟨⟨1⟩, "Jobs"⟩ := Except.ok.inj (hmeant.symm.trans hfirst)
  exact hgone

end Broker

end WorkQueue
