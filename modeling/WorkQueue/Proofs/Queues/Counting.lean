import WorkQueue.Proofs.Statements.Columns
import Mathlib.Algebra.BigOperators.Group.List.Basic
import Mathlib.Algebra.GroupWithZero.Nat
import Mathlib.Data.List.Count
import Mathlib.Data.List.Dedup
import Mathlib.Data.List.Perm.Basic

/-!
# Counting messages

The messages of a queue are counted in several ways: by state, in one state, in any state, and when
they are deleted with their queue. To count them by state is to put the words that are stored for
their states into groups, to read the word of each group, and to record how many messages it stands
for; a state without messages has no group, and the groups come in any order. All these ways agree,
by whatever reference the queue is called: `counts_agree`.
-/

namespace WorkQueue

/-- The reference is the number of the queue, or a way of writing its name. -/
inductive Queue.Spelled (queue : Queue) : QueueRef → Prop where
  | byId : queue.Spelled (.byId queue.id)
  | byName {text : String} {stripped : List Char} :
      Text.StripsTo text.toList stripped → SameName stripped queue.name.toList →
      queue.Spelled (.byName text)

/-! ## Groups of states -/

namespace MessageState

/-- Different states have different words. -/
theorem word_injective : Function.Injective word := by
  intro a b h
  have hback := congrArg ofWord? h
  rwa [ofWord_word, ofWord_word, Option.some.injEq] at hback

/-- Some states are as many as they are in each state together. -/
theorem length_eq_sum_count (states : List MessageState) :
    states.length = states.count .active + states.count .inTransaction +
      states.count .processed + states.count .expired + states.count .attemptsExceeded := by
  induction states with
  | nil => rfl
  | cons state rest ih =>
      rw [List.length_cons, ih]
      cases state <;> simp <;> omega

/-- Each state that occurs, and how often it does. -/
def tally (states : List MessageState) : List (MessageState × Nat) :=
  states.dedup.map fun state => (state, states.count state)

/-- A count of messages with the word for their state. -/
def written (row : MessageState × Nat) : String × Nat :=
  (row.1.word, row.2)

/-- Read the words for the states that messages are counted in. -/
def readTally (rows : List (String × Nat)) : Except Error (List (MessageState × Nat)) :=
  rows.mapM fun (word, count) => (ofText word).map fun state => (state, count)

/-- Words for states are read back. -/
theorem readTally_written (rows : List (MessageState × Nat)) :
    readTally (rows.map written) = .ok rows := by
  induction rows with
  | nil => rfl
  | cons row rest ih =>
      have hword : ofText row.1.word = .ok row.1 := by rw [ofText, ofWord_word]
      rw [readTally] at ih ⊢
      rw [List.map_cons, List.mapM_cons, ih, written]
      simp only [hword]
      rfl

end MessageState

namespace QueueStats

/-- Record how many messages there are in states, one state after the other. -/
def ofTally (rows : List (MessageState × Nat)) : QueueStats :=
  rows.foldl (fun stats (state, count) => stats.record state count) {}

/-- Counts that agree on each state are the same. -/
theorem ext_get {stats other : QueueStats} (h : ∀ state, stats.get state = other.get state) :
    stats = other := by
  cases stats
  cases other
  simpa [get] using ⟨h .active, h .inTransaction, h .processed, h .expired, h .attemptsExceeded⟩

/-- The total adds up the states. -/
theorem total_eq_get (stats : QueueStats) :
    stats.total = stats.get .active + stats.get .inTransaction + stats.get .processed +
      stats.get .expired + stats.get .attemptsExceeded :=
  rfl

/-- What is recorded for a state are the rows of that state. -/
theorem get_foldl_record (rows : List (MessageState × Nat)) (stats : QueueStats)
    (state : MessageState) :
    (rows.foldl (fun stats (state, count) => stats.record state count) stats).get state =
      stats.get state + ((rows.filter fun row => row.1 = state).map Prod.snd).sum := by
  induction rows generalizing stats with
  | nil => rfl
  | cons row rest ih =>
      rw [List.foldl_cons, ih, get_record]
      by_cases hstate : state = row.1
      · simp [hstate, Nat.add_assoc]
      · simp [hstate, Ne.symm hstate]

/-- Nothing is recorded at first. -/
theorem get_empty (state : MessageState) : ({} : QueueStats).get state = 0 := by
  cases state <;> rfl

/-- It makes no difference in which order the states are recorded. -/
theorem ofTally_perm {rows other : List (MessageState × Nat)} (h : rows.Perm other) :
    ofTally rows = ofTally other := by
  refine ext_get fun state => ?_
  rw [ofTally, ofTally, get_foldl_record, get_foldl_record, ((h.filter _).map _).sum_eq]

/-- Recording each state that occurs as often as it does counts the states. -/
theorem get_ofTally_tally (states : List MessageState) (state : MessageState) :
    (ofTally (MessageState.tally states)).get state = states.count state := by
  have hrows : (MessageState.tally states).filter (fun row => row.1 = state) =
      (states.dedup.filter fun other => other = state).map fun state =>
        (state, states.count state) :=
    List.filter_map
  rw [ofTally, get_foldl_record, get_empty, hrows, List.filter_eq]
  by_cases hmem : state ∈ states
  · rw [List.count_eq_one_of_mem states.nodup_dedup (List.mem_dedup.2 hmem)]
    simp
  · rw [List.count_eq_zero_of_not_mem (mt List.mem_dedup.1 hmem),
      List.count_eq_zero_of_not_mem hmem]
    rfl

end QueueStats

namespace Store

/-- The states of the messages of a queue. -/
def statesIn (store : Store) (queue : QueueId) : List MessageState :=
  (store.messages.filter fun m => m.queue = queue).map Message.state

/-- The words that are stored for the states of the messages of a queue. -/
def wordsIn (store : Store) (queue : QueueId) : List String :=
  (store.messages.filter fun m => m.queue = queue).map fun m => m.columns.state

/-- The stored words in groups: each word that occurs, and how often it does. -/
def stateGroups (store : Store) (queue : QueueId) : List (String × Nat) :=
  (store.wordsIn queue).dedup.map fun word => (word, (store.wordsIn queue).count word)

section

variable (store : Store) (queue : QueueId)

/-- To count the messages in a state is to count the state. -/
theorem countMessages_some (state : MessageState) :
    store.countMessages queue (some state) = (store.statesIn queue).count state := by
  rw [countMessages, statesIn, List.count, List.countP_map, List.countP_filter]
  refine List.countP_congr fun m _ => ?_
  simp [and_comm]

/-- To count the messages in any state is to count all states. -/
theorem countMessages_none :
    store.countMessages queue none = (store.statesIn queue).length := by
  rw [countMessages, statesIn, List.length_map, List.countP_eq_length_filter]
  simp

/-- The total of a count by state is the count of all messages. -/
theorem total_statsOf : (store.statsOf queue).total = store.countMessages queue none := by
  rw [QueueStats.total_eq_get, countMessages_none, MessageState.length_eq_sum_count]
  simp only [get_statsOf, countMessages_some]

/-- The groups are those of the states, with their words. -/
theorem stateGroups_eq :
    store.stateGroups queue =
      (MessageState.tally (store.statesIn queue)).map MessageState.written := by
  have hwords : store.wordsIn queue = (store.statesIn queue).map MessageState.word := by
    rw [wordsIn, statesIn, List.map_map]
    rfl
  have hcount (state : MessageState) :
      ((store.statesIn queue).map MessageState.word).count state.word =
        (store.statesIn queue).count state :=
    List.count_map_of_injective _ _ MessageState.word_injective state
  rw [stateGroups, hwords, List.dedup_map_of_injective MessageState.word_injective, List.map_map,
    MessageState.tally, List.map_map]
  simp only [Function.comp_def, hcount, MessageState.written]

end

variable {store : Store} {queue : QueueId}

/-- The words of the groups are read back, whatever the order of the groups, and what is recorded
for them is the count by state. -/
theorem ofTally_readTally {groups : List (String × Nat)}
    (h : groups.Perm (store.stateGroups queue)) :
    (MessageState.readTally groups).map QueueStats.ofTally = .ok (store.statsOf queue) := by
  rw [stateGroups_eq] at h
  obtain ⟨rows, rfl, hrows⟩ :=
    (congrFun (congrFun (List.eq_map_comp_perm MessageState.written) groups) _).mpr h
  rw [MessageState.readTally_written]
  refine congrArg Except.ok (QueueStats.ext_get fun state => ?_)
  rw [QueueStats.ofTally_perm hrows, QueueStats.get_ofTally_tally, get_statsOf,
    countMessages_some]

end Store

/-! ## Calls that count -/

/-- A reference to a queue that is there means the queue. -/
theorem Queue.Spelled.meant {store : Store} (hnumbered : store.Numbered) (hnamed : store.Named)
    {queue : Queue} (hqueue : queue ∈ store.queues) {ref : QueueRef} (h : queue.Spelled ref) :
    store.meant ref = .ok queue := by
  cases h with
  | byId => exact hnumbered.meant_byId hqueue
  | byName hstrips hsame => exact (hnamed.meant_byName_iff hstrips).2 ⟨hqueue, hsame⟩

namespace Broker

/-- Counting the messages of a queue that is there answers how many the store has. -/
theorem answer_count {broker : Broker} {queue : Queue}
    (hbegin : broker.outages.hitsNext = false) (hqueue : queue ∈ broker.store.queues)
    (state : Option MessageState) :
    (Move.count queue.id state).answer broker =
      .ok (broker.store.countMessages queue.id state) := by
  have hthere : (broker.store.queue? queue.id).isSome :=
    List.find?_isSome.2 ⟨queue, hqueue, by simp⟩
  have hwork : (Work.count queue.id state).run broker.store =
      .ok (broker.store.countMessages queue.id state, broker.store) := by
    rw [Work.count, Work.run_bind_of_ok (Work.run_requireQueue hthere)]
    rfl
  rw [Move.answer, Move.call, count, run_inStorage_of_ok hbegin hwork]

/-- After every run, each queue that is there has one count by state, whichever way it is counted.
The groups of the states that are stored for its messages are read and recorded to this count, in
whatever order they come. Whoever asks the store that has been reached is given it by every
reference to the queue, is given its part for a state, and is given its total, which is the sum of
the parts, for all states and for deleting the queue. Counting leaves the store as it was, so that
deleting the queue may come after any of these calls. -/
theorem counts_agree (broker : Broker) (moves : List Move) :
    let reached := (play moves broker.emptied).store
    ∀ queue ∈ reached.queues, ∃ stats : QueueStats,
      stats.total = stats.get .active + stats.get .inTransaction + stats.get .processed +
        stats.get .expired + stats.get .attemptsExceeded ∧
      (∀ groups, groups.Perm (reached.stateGroups queue.id) →
        (MessageState.readTally groups).map QueueStats.ofTally = .ok stats) ∧
      ∀ asked : Broker, asked.store = reached → asked.outages.hitsNext = false →
        (∀ ref, queue.Spelled ref →
          (Move.stats ref).answer asked = .ok stats ∧
          ((Move.stats ref).after asked).store = reached ∧
          (Move.deleteQueue ref).answer asked = .ok stats.total) ∧
        (∀ state, (Move.count queue.id (some state)).answer asked = .ok (stats.get state)) ∧
        (Move.count queue.id none).answer asked = .ok stats.total ∧
        ∀ state, ((Move.count queue.id state).after asked).store = reached := by
  intro reached queue hqueue
  have hnumbered : reached.Numbered := (play_sound broker moves).numbered
  have hnamed : reached.Named := play_named broker moves
  have htotal : (reached.statsOf queue.id).total = reached.messages.countP fun m =>
      m.queue = queue.id := by
    rw [Store.total_statsOf, Store.countMessages]
    simp
  refine ⟨reached.statsOf queue.id, QueueStats.total_eq_get _,
    fun groups hgroups => Store.ofTally_readTally hgroups, fun asked hstore hbegin => ?_⟩
  rw [← hstore] at hqueue hnumbered hnamed htotal ⊢
  refine ⟨fun ref hspelled => ?_, fun state => ?_, ?_, fun state => ?_⟩
  · have hmeant := hspelled.meant hnumbered hnamed hqueue
    obtain ⟨hstats, hleft⟩ := stats_meant ref hbegin
    obtain ⟨hremoved, _⟩ := deleteQueue_meant ref hbegin
    rw [hmeant] at hstats hremoved
    refine ⟨hstats, hleft, hremoved.trans ?_⟩
    rw [htotal]
    rfl
  · rw [answer_count hbegin hqueue, Store.get_statsOf]
  · rw [answer_count hbegin hqueue, Store.total_statsOf]
  · exact Move.store_after_of_isLook _ rfl

/-- A run that leaves the messages of a queue in three states, and adds one to another queue. -/
def mixedStates : List Move :=
  [.createQueue " Jobs ", .createQueue "mail", .start (.ofSeconds 60),
    .enqueue ⟨1⟩ ⟨1⟩ { payload := [1] },
    .enqueue ⟨1⟩ ⟨1⟩ { payload := [2], priority := 9, maxAttempts := 1 },
    .enqueue ⟨1⟩ ⟨2⟩ { payload := [3] }, .commit ⟨1⟩, .start (.ofSeconds 60), .dequeue ⟨2⟩ ⟨1⟩,
    .rollback ⟨2⟩ "", .start (.ofSeconds 60), .enqueue ⟨3⟩ ⟨1⟩ { payload := [4] }]

/-- Of the first queue one message is active, one is being added, and one has been given back for
the last time. -/
theorem counts_agree_mixedStates :
    let reached := play mixedStates (emptied { clock := ⟨0, 0⟩ })
    let groups := [("in_transaction", 1), ("attempts_exceeded", 1), ("active", 1)]
    groups.Perm (reached.store.stateGroups ⟨1⟩) ∧
      (MessageState.readTally groups).map QueueStats.ofTally = .ok ⟨1, 1, 0, 0, 1⟩ ∧
      (Move.stats (.byName "JOBS\t")).answer reached = .ok ⟨1, 1, 0, 0, 1⟩ ∧
      (Move.count ⟨1⟩ (some .attemptsExceeded)).answer reached = .ok 1 ∧
      (Move.count ⟨1⟩ none).answer reached = .ok 3 ∧
      (Move.deleteQueue (.byId ⟨1⟩)).answer reached = .ok 3 := by
  intro reached groups
  obtain ⟨stats, _, hgroups, hasked⟩ := counts_agree { clock := ⟨0, 0⟩ } mixedStates
    ⟨⟨1⟩, "Jobs"⟩ (by decide +kernel)
  obtain ⟨hspelled, hsome, hall, _⟩ := hasked reached rfl (by decide +kernel)
  have hperm : groups.Perm (reached.store.stateGroups ⟨1⟩) := by decide +kernel
  have hread : (MessageState.readTally groups).map QueueStats.ofTally = .ok ⟨1, 1, 0, 0, 1⟩ := by
    decide +kernel
  obtain rfl := Except.ok.inj ((hgroups groups hperm).symm.trans hread)
  have hsame : SameName "JOBS".toList "Jobs".toList := foldCase_eq_iff.1 (by decide)
  exact ⟨hperm, hread, (hspelled _ (.byName (Text.stripsTo_trim "JOBS\t".toList) hsame)).1,
    hsome .attemptsExceeded, hall, (hspelled _ .byId).2.2⟩

end Broker

end WorkQueue
