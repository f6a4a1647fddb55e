import WorkQueue.Proofs.Interleaving.Shares
import WorkQueue.Proofs.Lifetime.Passing
import WorkQueue.Proofs.Store.Chronology

/-!
# Draining a queue

Peeking shows the message that taking would bring, which is the one ranked first, and calls that
take messages one after the other while the clock stands still bring the messages in the order of
their ranking until none is left: each call takes what is ranked first and leaves the others ranked
as they were. When the clock was never set back, messages of one priority are ranked as they stand
in the store, which is the order in which they were added: `draining_sorted`.
-/

namespace WorkQueue

namespace Store

variable {store : Store} {queue : QueueId} {now : Instant}

/-- Every ranked message outranks those behind it. -/
theorem Numbered.pairwise_ranked (h : store.Numbered) (queue : QueueId) (now : Instant) :
    (store.ranked queue now).Pairwise Message.Outranks := by
  have hids : (store.ranked queue now).Pairwise fun a b => a.id ≠ b.id :=
    List.pairwise_map.1 (h.nodup_ranked queue now)
  have hnot : (store.ranked queue now).Pairwise fun a b => ¬ b.Outranks a :=
    pairwise_rankMessages _
  exact (hids.and hnot).imp fun ⟨hid, hbehind⟩ => Message.outranks_of_not_outranks hid hbehind

/-- Once the message that is ranked first has been taken, the others are ranked as they were. -/
theorem Numbered.ranked_take (h : store.Numbered) {m : Message} {rest : List Message}
    (hranked : store.ranked queue now = m :: rest) (owner : TransactionId) :
    ((Change.take m owner now).apply store).ranked queue now = rest := by
  have hm : m ∈ store.messages := by
    have hfirst : m ∈ store.ranked queue now := by
      rw [hranked]
      exact List.mem_cons_self
    exact (mem_ranked.1 hfirst).1
  have htaken : (Change.take m owner now).apply (store.withTaken []) =
      store.withTaken [m.take owner] :=
    take_withTaken h hm List.not_mem_nil owner
  have hids : [m.take owner].map Message.id =
      ((store.ranked queue now).take 1).map Message.id := by
    rw [hranked]
    rfl
  have hstate : ∀ t ∈ [m.take owner], t.state = .inTransaction := by
    intro t ht
    rw [List.mem_singleton.1 ht]
    rfl
  rw [withTaken_nil] at htaken
  rw [htaken, ranked_withTaken h hids hstate, hranked]
  rfl

/-- Taking a message changes none of its instants. -/
theorem Storable.take (h : store.Storable) (m : Message) (owner : TransactionId) :
    ((Change.take m owner now).apply store).Storable := by
  rw [Change.apply_take]
  constructor
  · intro row hrow
    obtain ⟨old, hold, rfl⟩ := List.mem_map.1 hrow
    have hstored := h.messages old hold
    split
    · exact ⟨hstored.addTime, hstored.expiryTime⟩
    · exact hstored
  · exact h.transactions

/-- Where messages were added in the order of their numbers, those of one priority that can be taken
are ranked as they stand in the store. -/
theorem Numbered.filter_ranked (h : store.Numbered) {latest : Instant}
    (hchron : store.Chronological latest) (priority : Int) :
    ((store.ranked queue now).filter fun m => m.priority = priority) =
      store.messages.filter fun m => m.priority = priority && m.isAvailable queue now := by
  let rows := store.messages.filter fun m => m.priority = priority && m.isAvailable queue now
  have hperm : ((store.ranked queue now).filter fun m => m.priority = priority).Perm rows := by
    have hrows : rows = (store.messages.filter fun m => m.isAvailable queue now).filter
        fun m => m.priority = priority := List.filter_filter.symm
    rw [hrows]
    exact (rankMessages_perm _).filter _
  have hdistinct : ∀ a ∈ rows, ∀ b ∈ rows, a.id = b.id → a = b := by
    intro a ha b hb
    exact h.message_eq (List.mem_filter.1 ha).1 (List.mem_filter.1 hb).1
  have hsorted : rows.Pairwise fun a b => ¬ b.Outranks a := by
    have hboth := (hchron.sorted.and h.messages.sorted).filter
      fun m => m.priority = priority && m.isAvailable queue now
    refine hboth.imp_of_mem ?_
    intro a b ha hb ⟨hearlier, hbefore⟩
    have hpriority : ∀ m ∈ rows, m.priority = priority := by
      intro m hm
      have hkept := (List.mem_filter.1 hm).2
      rw [Bool.and_eq_true, decide_eq_true_eq] at hkept
      exact hkept.1
    have hsame : a.priority = b.priority := (hpriority a ha).trans (hpriority b hb).symm
    rw [Instant.le_iff] at hearlier
    rw [Message.outranks_iff]
    omega
  have hranked := eq_rankMessages hperm hdistinct ((pairwise_rankMessages _).filter _)
  exact hranked.symm.trans (eq_rankMessages (List.Perm.refl rows) hdistinct hsorted)

end Store

namespace Broker

variable {broker : Broker} {owner : TransactionId} {queue : QueueId}

/-- A call that takes a message does so when its work succeeds, and leaves the clock alone. -/
theorem run_dequeue_of_ok {answer : Option Message} {changed : Store}
    (hbegin : broker.outages.hitsNext = false) (hopen : broker.store.IsOpen owner broker.clock)
    (hwork : (Work.dequeue owner queue broker.clock).run broker.store = .ok (answer, changed)) :
    ∃ after, (Move.dequeue owner queue).call.run broker = (.ok answer, after) ∧
      after.store = changed ∧ after.clock = broker.clock ∧
        after.outages = broker.outages.pass := by
  rw [Move.call, dequeue_eq, holdingClaim]
  simp only [ExceptT.run_mk]
  split
  · exact Traffic.run_takeNext_of_ok hbegin hopen hwork
  · have hheld : ∃ after, (takeNext owner queue).run
        { broker with locks := broker.locks.acquire () queue } = (.ok answer, after) ∧
          after.store = changed ∧ after.clock = broker.clock ∧
            after.outages = broker.outages.pass :=
      Traffic.run_takeNext_of_ok hbegin hopen hwork
    obtain ⟨after, hrun, hafter⟩ := hheld
    rw [hrun]
    exact ⟨_, rfl, hafter⟩

/-- Can the messages that are in the queue be taken in the order of their ranking, for all that the
store and the clock show? -/
structure Drainable (broker : Broker) (queue : QueueId) : Prop where
  calm : broker.outages = {}
  clock : broker.clock.WellFormed
  numbered : broker.store.Numbered
  storable : broker.store.Storable
  queue : (broker.store.queue? queue).isSome

namespace Drainable

/-- The next message is the one that is ranked first. -/
theorem nextMessage?_eq (h : broker.Drainable queue)
    (hopen : broker.store.IsOpen owner broker.clock) :
    broker.store.nextMessage? queue broker.clock =
      (broker.store.ranked queue broker.clock).head? :=
  Store.nextMessage?_eq_head? h.numbered h.storable.messages h.clock (h.storable.year_le hopen)

/-- A call that takes a message brings the one that is ranked first, and leaves the others to be
taken as they are ranked. -/
theorem dequeue (h : broker.Drainable queue) (hopen : broker.store.IsOpen owner broker.clock) :
    let after := (Move.dequeue owner queue).after broker
    (Move.dequeue owner queue).answer broker =
        .ok ((broker.store.ranked queue broker.clock).head?.map fun m => m.take owner) ∧
      after.Drainable queue ∧ after.clock = broker.clock ∧
      after.store.transactions = broker.store.transactions ∧
      after.store.ranked queue broker.clock = (broker.store.ranked queue broker.clock).tail := by
  have hnext := h.nextMessage?_eq hopen
  have hbegin := begins_of_calm h.calm
  cases hranked : broker.store.ranked queue broker.clock with
  | nil =>
      rw [hranked] at hnext
      obtain ⟨after, hrun, hstore, hclock, houtages⟩ :=
        run_dequeue_of_ok hbegin hopen (Work.run_dequeue_of_none owner h.queue hnext)
      rw [Move.answer, Move.after, hrun]
      refine ⟨rfl, ⟨houtages.trans (pass_of_calm h.calm), ?_, ?_, ?_, ?_⟩, hclock, ?_, ?_⟩
      · exact hclock ▸ h.clock
      · exact hstore ▸ h.numbered
      · exact hstore ▸ h.storable
      · exact hstore ▸ h.queue
      · rw [hstore]
      · rw [hstore]
        exact hranked
  | cons m rest =>
      rw [hranked] at hnext
      obtain ⟨after, hrun, hstore, hclock, houtages⟩ :=
        run_dequeue_of_ok hbegin hopen (Work.run_dequeue_of_some h.queue hopen hnext)
      rw [Move.answer, Move.after, hrun]
      refine ⟨rfl, ⟨houtages.trans (pass_of_calm h.calm), ?_, ?_, ?_, ?_⟩, hclock, ?_, ?_⟩
      · exact hclock ▸ h.clock
      · exact hstore ▸ Change.numbered_apply _ h.numbered
      · exact hstore ▸ h.storable.take m owner
      · rw [hstore, Change.apply_take]
        exact h.queue
      · rw [hstore, Change.apply_take]
      · rw [hstore]
        exact h.numbered.ranked_take hranked owner

end Drainable

/-- What calls answer that take messages from a queue one after the other, each under a
transaction. -/
def takings (queue : QueueId) : List TransactionId → Broker →
    List (Except Error (Option Message))
  | [], _ => []
  | owner :: rest, broker =>
      (Move.dequeue owner queue).answer broker ::
        takings queue rest ((Move.dequeue owner queue).after broker)

/-- Calls that take messages one after the other answer with the ranked messages in their order,
and with none when there are no more. -/
theorem Drainable.takings_eq (h : broker.Drainable queue) {owners : List TransactionId}
    (hopen : ∀ owner ∈ owners, broker.store.IsOpen owner broker.clock) :
    takings queue owners broker = owners.mapIdx fun k owner =>
      .ok ((broker.store.ranked queue broker.clock)[k]?.map fun m => m.take owner) := by
  induction owners generalizing broker with
  | nil => rfl
  | cons owner rest ih =>
      obtain ⟨hfirst, hrest⟩ := List.forall_mem_cons.1 hopen
      obtain ⟨hanswer, hafter, hclock, htransactions, hranked⟩ := h.dequeue hfirst
      have hstill : ∀ other ∈ rest, ((Move.dequeue owner queue).after broker).store.IsOpen other
          ((Move.dequeue owner queue).after broker).clock := by
        intro other hother
        rw [hclock, Store.IsOpen, Store.transaction?, htransactions]
        exact hrest other hother
      rw [takings, hanswer, ih hafter hstill, hclock, hranked, List.mapIdx_cons,
        List.head?_eq_getElem?]
      simp only [List.getElem?_tail]

/-- From every reachable store whose instants can be stored, at an instant, for a queue that is
there. The messages that are active in the queue, have attempts left and whose lifetime has not
passed are ranked by higher priority, then earlier addition, then lower number. Under an open
transaction peeking shows the first of them or none, and taking brings the same, in the hands of
the transaction. Calls that take messages one after the other, under open transactions, bring them
all in their order, and none when there are no more. If no step of the run has set the clock back,
those of one priority are in the order in which they were added. -/
theorem draining_sorted (broker : Broker) (moves : List Move) (now : Instant) (queue : QueueId)
    (hclock : now.WellFormed) (hstorable : (play moves broker.emptied).store.Storable)
    (hqueue : ((play moves broker.emptied).store.queue? queue).isSome) :
    let found : Broker := { play moves broker.emptied with clock := now, outages := {} }
    let ranked := found.store.ranked queue now
    let taken (owner : TransactionId) (m : Message) : Message :=
      { m with state := .inTransaction, action := some .pull, owner := some owner }
    ranked.Perm (found.store.messages.filter fun m => m.isAvailable queue now) ∧
      ranked.Pairwise Message.Outranks ∧
      (∀ owner, found.store.IsOpen owner now →
        (Move.peek queue).answer found = .ok ranked.head? ∧
          (Move.dequeue owner queue).answer found = .ok (ranked.head?.map (taken owner))) ∧
      (∀ owners, (∀ owner ∈ owners, found.store.IsOpen owner now) →
        takings queue owners found =
          owners.mapIdx fun k owner => .ok (ranked[k]?.map (taken owner))) ∧
      ((∀ step ∈ trace moves broker.emptied, step.before.clock ≤ step.after.clock) →
        ∀ priority, ((ranked.filter fun m => m.priority = priority).map Message.id).Sublist
          (additions (trace moves broker.emptied))) := by
  intro found ranked taken
  have hnumbered : found.store.Numbered := (play_sound broker moves).numbered
  have hdrainable : found.Drainable queue := ⟨rfl, hclock, hnumbered, hstorable, hqueue⟩
  refine ⟨rankMessages_perm _, hnumbered.pairwise_ranked queue now, ?_, ?_, ?_⟩
  · intro owner hopen
    have hpeek := Move.answer_peek (begins_of_calm hdrainable.calm) hdrainable.queue
    rw [hdrainable.nextMessage?_eq hopen] at hpeek
    exact ⟨hpeek, (hdrainable.dequeue hopen).1⟩
  · intro owners hopen
    exact hdrainable.takings_eq hopen
  · intro hforward priority
    have hchron := chronological_play broker moves hforward
    rw [hnumbered.filter_ranked hchron priority]
    exact (List.filter_sublist.map Message.id).trans (messages_sublist_additions broker moves)

/-- A run along which the clock goes forward. It leaves a queue with an urgent message behind two
others, of which the first was taken and given back when the second was already there, and another
whose lifetime has passed. -/
def returnedMessage : List Move :=
  [.createQueue "q", .start (.ofSeconds 60), .enqueue ⟨1⟩ ⟨1⟩ { payload := [] },
    .setClock ⟨10, 0⟩, .enqueue ⟨1⟩ ⟨1⟩ { payload := [] },
    .enqueue ⟨1⟩ ⟨1⟩ { payload := [], lifetime := some (.ofSeconds 5) }, .commit ⟨1⟩,
    .start (.ofSeconds 60), .dequeue ⟨2⟩ ⟨1⟩, .setClock ⟨20, 0⟩, .rollback ⟨2⟩ "",
    .start (.ofSeconds 60), .enqueue ⟨3⟩ ⟨1⟩ { payload := [], priority := 5 }, .commit ⟨3⟩,
    .start (.ofSeconds 60), .start (.ofSeconds 60)]

/-- Under two open transactions, which take turns, the urgent message comes first and then the two
others as they were added; a fourth call brings none. -/
theorem draining_sorted_returnedMessage :
    let found : Broker :=
      { play returnedMessage (emptied { clock := ⟨0, 0⟩ }) with clock := ⟨30, 0⟩, outages := {} }
    let ids (answers : List (Except Error (Option Message))) : List (Option Nat) :=
      answers.map fun answer => (Traffic.message? answer).map fun m => m.id.value
    ids (takings ⟨1⟩ [⟨4⟩, ⟨5⟩, ⟨4⟩, ⟨5⟩] found) = [some 4, some 1, some 2, none] ∧
      takings ⟨1⟩ [⟨4⟩, ⟨5⟩, ⟨4⟩, ⟨5⟩] found =
        [⟨4⟩, ⟨5⟩, ⟨4⟩, ⟨5⟩].mapIdx (fun k owner =>
          .ok ((found.store.ranked ⟨1⟩ ⟨30, 0⟩)[k]?.map fun m => m.take owner)) ∧
      (((found.store.ranked ⟨1⟩ ⟨30, 0⟩).filter fun m => m.priority = 0).map Message.id).Sublist
        [⟨1⟩, ⟨2⟩, ⟨3⟩, ⟨4⟩] := by
  intro found ids
  obtain ⟨_, _, _, hdrained, hfirst⟩ := draining_sorted { clock := ⟨0, 0⟩ } returnedMessage ⟨30, 0⟩
    ⟨1⟩ (by decide) (by decide +kernel) (by decide +kernel)
  have hadded : additions (trace returnedMessage (emptied { clock := ⟨0, 0⟩ })) =
      [⟨1⟩, ⟨2⟩, ⟨3⟩, ⟨4⟩] := by decide +kernel
  have holdest := hfirst (by decide +kernel) 0
  rw [hadded] at holdest
  exact ⟨by decide +kernel, hdrained [⟨4⟩, ⟨5⟩, ⟨4⟩, ⟨5⟩] (by decide +kernel), holdest⟩

end Broker

end WorkQueue
