import WorkQueue.Proofs.Delivery.Ranking
import WorkQueue.Proofs.Interleaving.Completion

/-!
# How calls share the messages of a queue

Calls that take messages from one queue at one instant are dealt the messages that can be taken, in
the order of their ranking and one each, in the order in which the calls make their storage
transactions; calls that come when none is left take nothing. Each call takes what is ranked first
and leaves the others ranked as they were. So it does not matter in which order the calls ask for
the lock of the queue, wait, and leave: `takers_share`.
-/

namespace WorkQueue

/-- Is the turn one of a call that takes a message from the queue, under one of the transactions
under which that is allowed? -/
def Turn.TakesFrom (queue : QueueId) (allowed : TransactionId → Prop) : Turn → Prop
  | .ask owner asked => asked = queue ∧ allowed owner
  | .take _ | .leave _ => True
  | .delete _ | .evict _ | .other _ => False

/-- Whether a turn is one of these is decided by what it is. -/
instance (queue : QueueId) (allowed : TransactionId → Prop) [DecidablePred allowed] (turn : Turn) :
    Decidable (turn.TakesFrom queue allowed) :=
  match turn with
  | .ask owner asked => inferInstanceAs (Decidable (asked = queue ∧ allowed owner))
  | .take _ | .leave _ => .isTrue trivial
  | .delete _ | .evict _ | .other _ => .isFalse id

namespace Traffic

/-- The message that an answer brings. -/
def message? : Except Error (Option Message) → Option Message
  | .ok answer => answer
  | .error _ => none

/-- The messages that calls have taken, in the order in which they took them. -/
def delivered (answers : List (Taker × Except Error (Option Message))) : List Message :=
  answers.filterMap fun answer => message? answer.2

/-- One answer more brings its message after those of the others. -/
theorem delivered_append (answers : List (Taker × Except Error (Option Message))) (taker : Taker)
    (answer : Except Error (Option Message)) :
    delivered (answers ++ [(taker, answer)]) = delivered answers ++ (message? answer).toList := by
  rw [delivered, delivered, List.filterMap_append]
  cases answer with
  | error => rfl
  | ok message => cases message <;> rfl

/-- What calls answer that are dealt the ranked messages in their order, one each. -/
def deal : List Taker → List Message → List (Taker × Except Error (Option Message))
  | [], _ => []
  | taker :: rest, ranked =>
      (taker, .ok (ranked.head?.map fun m => m.take taker.owner)) :: deal rest ranked.tail

/-- One call more is dealt what is ranked behind the messages of the others. -/
theorem deal_append (takers : List Taker) (taker : Taker) (ranked : List Message) :
    deal (takers ++ [taker]) ranked = deal takers ranked ++
      [(taker, .ok ((ranked.drop takers.length).head?.map fun m => m.take taker.owner))] := by
  induction takers generalizing ranked with
  | nil => rfl
  | cons first rest ih =>
      rw [List.cons_append, deal, ih ranked.tail, List.drop_tail]
      rfl

/-- The messages that are dealt are the first of the ranking. -/
theorem map_id_delivered_deal (takers : List Taker) (ranked : List Message) :
    (delivered (deal takers ranked)).map Message.id =
      (ranked.take takers.length).map Message.id := by
  induction takers generalizing ranked with
  | nil => rfl
  | cons first rest ih =>
      cases ranked with
      | nil => exact (ih []).trans (by simp)
      | cons m more => exact congrArg (m.id :: ·) (ih more)

/-- Every call that is dealt to answers, with no message or with one of the ranking in its hands. -/
theorem mem_deal {takers : List Taker} {ranked : List Message} {taker : Taker}
    {answer : Except Error (Option Message)} (h : (taker, answer) ∈ deal takers ranked) :
    answer = .ok none ∨ ∃ m ∈ ranked, answer = .ok (some (m.take taker.owner)) := by
  induction takers generalizing ranked with
  | nil => cases h
  | cons first rest ih =>
      rcases List.mem_cons.1 h with hfirst | hrest
      · obtain ⟨rfl, rfl⟩ := Prod.mk.inj hfirst
        cases ranked with
        | nil => exact .inl rfl
        | cons m more => exact .inr ⟨m, List.mem_cons_self, rfl⟩
      · exact (ih hrest).imp_right fun ⟨m, hm, heq⟩ => ⟨m, List.mem_of_mem_tail hm, heq⟩

/-- A message that is dealt is one of the ranking in the hands of a call. -/
theorem mem_delivered_deal {takers : List Taker} {ranked : List Message} {row : Message}
    (h : row ∈ delivered (deal takers ranked)) :
    ∃ m ∈ ranked, ∃ taker : Taker, row = m.take taker.owner := by
  obtain ⟨⟨taker, answer⟩, hmem, hrow⟩ := List.mem_filterMap.1 h
  rcases mem_deal hmem with rfl | ⟨m, hm, rfl⟩
  · cases hrow
  · cases hrow
    exact ⟨m, hm, taker, rfl⟩

/-- What a call does that takes a message, but for holding its lock, when the work succeeds. -/
theorem run_takeNext_of_ok {broker : Broker} {owner : TransactionId} {queue : QueueId}
    {answer : Option Message} {changed : Store} (hbegin : broker.outages.hitsNext = false)
    (hopen : broker.store.IsOpen owner broker.clock)
    (hwork : (Work.dequeue owner queue broker.clock).run broker.store = .ok (answer, changed)) :
    ∃ after, (Broker.takeNext owner queue).run broker = (.ok answer, after) ∧
      after.store = changed ∧ after.clock = broker.clock ∧
      after.outages = broker.outages.pass := by
  rw [Broker.takeNext, Broker.run_now_bind,
    Broker.run_bind_of_ok (Broker.run_under_of_ok hbegin hopen hwork)]
  cases answer <;> exact ⟨_, rfl, rfl, rfl, rfl⟩

/-- The calls under way take messages from the queue under open transactions, and those that have
answered have been dealt the messages that could be taken from the store in the beginning. -/
structure Sharing (store : Store) (queue : QueueId) (now : Instant) (traffic : Traffic) : Prop where
  clock : traffic.broker.clock = now
  outages : traffic.broker.outages = {}
  line : ∀ h ∈ traffic.locks.line, h.queue = queue ∧ store.IsOpen h.handle.owner now
  store_eq : traffic.broker.store = store.withTaken (delivered traffic.answers)
  dealt : traffic.answers = deal (traffic.answers.map Prod.fst) (store.ranked queue now)
  once : (traffic.answers.map Prod.fst).Nodup

namespace Sharing

variable {store : Store} {queue : QueueId} {now : Instant} {traffic next : Traffic}

/-- The numbers of the messages that have been taken. -/
theorem map_id_delivered (h : Sharing store queue now traffic) :
    (delivered traffic.answers).map Message.id =
      ((store.ranked queue now).take traffic.answers.length).map Message.id := by
  have hids := map_id_delivered_deal (traffic.answers.map Prod.fst) (store.ranked queue now)
  rwa [← h.dealt, List.length_map] at hids

/-- The messages that have been taken are rows of the beginning in the hands of calls. -/
theorem exists_row (h : Sharing store queue now traffic) {row : Message}
    (hrow : row ∈ delivered traffic.answers) :
    ∃ m ∈ store.ranked queue now, ∃ taker : Taker, row = m.take taker.owner := by
  rw [h.dealt] at hrow
  exact mem_delivered_deal hrow

/-- The next message to be taken is the first of the ranking that has not been dealt yet. -/
theorem nextMessage?_eq (h : Sharing store queue now traffic) (hnumbered : store.Numbered)
    (hstorable : store.Storable) (hclock : now.WellFormed) {owner : TransactionId}
    (hopen : store.IsOpen owner now) :
    traffic.broker.store.nextMessage? queue now =
      ((store.ranked queue now).drop traffic.answers.length).head? := by
  have hstate : ∀ row ∈ delivered traffic.answers, row.state = .inTransaction := by
    intro row hrow
    obtain ⟨m, _, taker, rfl⟩ := h.exists_row hrow
    rfl
  have hmessages : ∀ row ∈ (store.withTaken (delivered traffic.answers)).messages,
      row.Storable := by
    intro row hrow
    rcases Store.exists_row_withTaken hrow with htaken | hold
    · obtain ⟨m, hm, taker, rfl⟩ := h.exists_row htaken
      have hstored := hstorable.messages m (Store.mem_ranked.1 hm).1
      exact ⟨hstored.addTime, hstored.expiryTime⟩
    · exact hstorable.messages row hold
  rw [h.store_eq, Store.nextMessage?_eq_head? (hnumbered.withTaken _) hmessages hclock
    (hstorable.year_le hopen), Store.ranked_withTaken hnumbered h.map_id_delivered hstate]

/-- The work of a call that has its turn brings the next message, which is then one of those that
have been taken. -/
theorem run_dequeue (h : Sharing store queue now traffic) (hnumbered : store.Numbered)
    (hstorable : store.Storable) (hclock : now.WellFormed) (hqueue : (store.queue? queue).isSome)
    {owner : TransactionId} (hopen : store.IsOpen owner now) :
    (Work.dequeue owner queue now).run traffic.broker.store =
      .ok ((traffic.broker.store.nextMessage? queue now).map fun m => m.take owner,
        store.withTaken (delivered traffic.answers ++
          ((traffic.broker.store.nextMessage? queue now).map fun m => m.take owner).toList)) := by
  have hnext := h.nextMessage?_eq hnumbered hstorable hclock hopen
  -- Queues and transactions are as they were in the beginning.
  have hqueue' : (traffic.broker.store.queue? queue).isSome := by rwa [h.store_eq]
  have hopen' : traffic.broker.store.IsOpen owner now := by rwa [h.store_eq]
  cases hhead : traffic.broker.store.nextMessage? queue now with
  | none =>
      rw [Work.run_dequeue_of_none owner hqueue' hhead, h.store_eq]
      simp only [Option.map_none, Option.toList_none, List.append_nil]
  | some m =>
      -- The message is ranked behind those that have been taken, so that it is none of them.
      have hranked : m ∈ (store.ranked queue now).drop traffic.answers.length :=
        List.mem_of_head? (hnext.symm.trans hhead)
      have hfree : m.id ∉ (delivered traffic.answers).map Message.id := by
        rw [h.map_id_delivered]
        rw [← Store.filter_take_eq_drop (hnumbered.nodup_ranked queue _)] at hranked
        exact of_decide_eq_true (List.mem_filter.1 hranked).2
      have hm : m ∈ store.messages := (Store.mem_ranked.1 (List.mem_of_mem_drop hranked)).1
      rw [Work.run_dequeue_of_some hqueue' hopen' hhead, h.store_eq,
        Store.take_withTaken hnumbered hm hfree]
      rfl

/-- A call that has its turn is dealt the next message. -/
theorem took (h : Sharing store queue now traffic) (hnumbered : store.Numbered)
    (hstorable : store.Storable) (hclock : now.WellFormed) (hqueue : (store.queue? queue).isSome)
    {taker : LockHandle Taker} {answer : Except Error (Option Message)} {broker : Broker}
    (hheld : taker ∈ traffic.locks.held)
    (hnew : ∀ given ∈ traffic.answers, given.1 ≠ taker.handle)
    (hrun : (Broker.takeNext taker.handle.owner taker.queue).run traffic.broker =
      (answer, broker)) :
    Sharing store queue now
      { traffic with broker, answers := traffic.answers ++ [(taker.handle, answer)] } := by
  obtain ⟨hasked, hopen⟩ := h.line taker (LockTable.mem_line.2 (.inl hheld))
  have hnow := h.clock
  subst hnow
  rw [hasked] at hrun
  have hbegin : traffic.broker.outages.hitsNext = false := by rw [h.outages]; rfl
  have hopen' : traffic.broker.store.IsOpen taker.handle.owner traffic.broker.clock := by
    rwa [h.store_eq]
  obtain ⟨after, hafter, hstore, hclock', houtages⟩ := run_takeNext_of_ok hbegin hopen'
    (h.run_dequeue hnumbered hstorable hclock hqueue hopen)
  cases hrun.symm.trans hafter
  refine ⟨hclock', houtages.trans (by rw [h.outages]; rfl), h.line, ?_, ?_, ?_⟩
  · rw [delivered_append]
    exact hstore
  · rw [List.map_append, List.map_singleton, deal_append, ← h.dealt, List.length_map,
      h.nextMessage?_eq hnumbered hstorable hclock hopen]
  · rw [List.map_append, List.nodup_append]
    refine ⟨h.once, List.pairwise_singleton _ _, fun first hfirst last hlast => ?_⟩
    obtain ⟨given, hgiven, rfl⟩ := List.mem_map.1 hfirst
    rw [List.mem_singleton.1 hlast]
    exact hnew given hgiven

/-- Every turn of these calls leaves them sharing. -/
theorem after (h : Sharing store queue now traffic) (hnumbered : store.Numbered)
    (hstorable : store.Storable) (hclock : now.WellFormed) (hqueue : (store.queue? queue).isSome)
    {turn : Turn} (hturn : TurnsTo traffic turn next)
    (htakes : turn.TakesFrom queue fun owner => store.IsOpen owner now) :
    Sharing store queue now next := by
  cases hturn with
  | nothing => exact h
  | asked owner asked =>
      refine ⟨h.clock, h.outages, fun taker hmem => ?_, h.store_eq, h.dealt, h.once⟩
      rw [ask, LockTable.line_acquire] at hmem
      rcases List.mem_append.1 hmem with hold | hlast
      · exact h.line taker hold
      · rw [List.mem_singleton.1 hlast]
        exact htakes
  | took taker answer broker hheld hnew hrun =>
      exact h.took hnumbered hstorable hclock hqueue hheld hnew hrun
  | left taker =>
      exact ⟨h.clock, h.outages, fun g hg => h.line g (List.mem_filter.1 hg).1, h.store_eq,
        h.dealt, h.once⟩
  | refused | deleted | evicted | made => cases htakes

/-- All turns of these calls leave them sharing. -/
theorem run (h : Sharing store queue now traffic) (hnumbered : store.Numbered)
    (hstorable : store.Storable) (hclock : now.WellFormed) (hqueue : (store.queue? queue).isSome)
    {turns : List Turn}
    (hturns : ∀ turn ∈ turns, turn.TakesFrom queue fun owner => store.IsOpen owner now) :
    Sharing store queue now (Traffic.run turns traffic) := by
  induction turns generalizing traffic with
  | nil => exact h
  | cons turn rest ih =>
      obtain ⟨hturn, hrest⟩ := List.forall_mem_cons.1 hturns
      exact ih (h.after hnumbered hstorable hclock hqueue (turnsTo traffic turn) hturn) hrest

end Sharing

/-- From every reachable store whose instants can be stored, at an instant, let calls that take
messages from a queue under open transactions ask for its lock, wait, make their storage
transactions and leave, in any order. All that have asked have made their storage transaction, once
they have left and if none gave up. As many messages as there are to be taken, or as there are calls
that have made their storage transaction, have been taken then, no message twice, and they are the
first of the ranking; each is in the hands of the transaction of the call that answers it, the other
calls answer that there is none, and no other row has changed. -/
theorem takers_share (broker : Broker) (moves : List Move) (now : Instant) (queue : QueueId)
    (capacity : Nat) (turns : List Turn) (hclock : now.WellFormed)
    (hstorable : (Broker.play moves broker.emptied).store.Storable)
    (hqueue : ((Broker.play moves broker.emptied).store.queue? queue).isSome)
    (hturns : ∀ turn ∈ turns, turn.TakesFrom queue fun owner =>
      (Broker.play moves broker.emptied).store.IsOpen owner now) :
    let found : Broker := { Broker.play moves broker.emptied with clock := now, outages := {} }
    let start : Traffic := { broker := found, locks := .ofCapacity capacity }
    let after := run turns start
    let taken := delivered after.answers
    (after.answers.map Prod.fst).Nodup ∧
      (Patient turns start → after.locks.line = [] →
        after.answers.length = turns.countP Turn.isAsk) ∧
      taken.length = min (found.store.messages.countP fun m => m.isAvailable queue now)
        after.answers.length ∧
      (taken.map Message.id).Nodup ∧
      taken.map Message.id =
        ((found.store.ranked queue now).take after.answers.length).map Message.id ∧
      (∀ taker answer, (taker, answer) ∈ after.answers → answer = .ok none ∨
        ∃ m ∈ found.store.messages, answer = .ok (some (m.take taker.owner)) ∧
          m.take taker.owner ∈ after.broker.store.messages ∧
          (m.take taker.owner).isHeldBy taker.owner .pull = true) ∧
      after.broker.store = found.store.withTaken taken := by
  intro found start after taken
  have hnumbered : found.store.Numbered := (Broker.play_sound broker moves).numbered
  have hstart : Sharing found.store queue now start :=
    ⟨rfl, rfl, fun _ hmem => absurd hmem List.not_mem_nil, (Store.withTaken_nil _).symm, rfl,
      List.nodup_nil⟩
  have hshared := hstart.run hnumbered hstorable hclock hqueue hturns
  have hids := hshared.map_id_delivered
  have hdistinct : (taken.map Message.id).Nodup := by
    rw [hids]
    exact (hnumbered.nodup_ranked queue now).sublist ((List.take_sublist _ _).map _)
  refine ⟨hshared.once, length_answers, ?_, hdistinct, hids, fun taker answer hmem => ?_,
    hshared.store_eq⟩
  · have hlength := congrArg List.length hids
    rwa [List.length_map, List.length_map, List.length_take, Nat.min_comm, Store.length_ranked]
      at hlength
  · have hdealt := hmem
    rw [hshared.dealt] at hdealt
    refine (mem_deal hdealt).imp_right fun ⟨m, hm, hanswer⟩ => ?_
    have hrow := (Store.mem_ranked.1 hm).1
    have htaken : m.take taker.owner ∈ taken :=
      List.mem_filterMap.2 ⟨(taker, answer), hmem, by rw [hanswer]; rfl⟩
    refine ⟨m, hrow, hanswer, ?_, Message.isHeldBy_iff.2 ⟨rfl, rfl, rfl⟩⟩
    rw [hshared.store_eq]
    exact Store.mem_withTaken hdistinct hrow htaken rfl

/-- A run that leaves a queue with three messages, of which the last two go first, and two open
transactions. -/
def threeMessages : List Move :=
  [.createQueue "q", .start (.ofSeconds 60), .enqueue ⟨1⟩ ⟨1⟩ { payload := [] },
    .enqueue ⟨1⟩ ⟨1⟩ { payload := [], priority := 5 },
    .enqueue ⟨1⟩ ⟨1⟩ { payload := [], priority := 5 }, .commit ⟨1⟩, .start (.ofSeconds 60),
    .start (.ofSeconds 60)]

/-- Six calls, which come to their turn in the order in which they asked; some ask when others have
left already. -/
def sixCalls : List Turn :=
  [.ask ⟨2⟩ ⟨1⟩, .ask ⟨3⟩ ⟨1⟩, .ask ⟨2⟩ ⟨1⟩, .take ⟨0, ⟨2⟩⟩, .take ⟨1, ⟨3⟩⟩, .leave ⟨0, ⟨2⟩⟩,
    .ask ⟨3⟩ ⟨1⟩, .take ⟨1, ⟨3⟩⟩, .leave ⟨1, ⟨3⟩⟩, .take ⟨2, ⟨2⟩⟩, .ask ⟨2⟩ ⟨1⟩, .leave ⟨2, ⟨2⟩⟩,
    .take ⟨3, ⟨3⟩⟩, .leave ⟨3, ⟨3⟩⟩, .take ⟨4, ⟨2⟩⟩, .leave ⟨4, ⟨2⟩⟩, .ask ⟨3⟩ ⟨1⟩, .take ⟨5, ⟨3⟩⟩,
    .leave ⟨5, ⟨3⟩⟩]

/-- All of these calls answer: three of them take a message each, and the three that come last take
none. -/
theorem takers_share_sixCalls :
    let start : Broker := { clock := ⟨0, 0⟩ }
    let found : Broker :=
      { Broker.play threeMessages start.emptied with clock := ⟨30, 0⟩, outages := {} }
    let after := run sixCalls { broker := found, locks := .ofCapacity 1 }
    after.answers.map (fun answer => (answer.1.number, message? answer.2 |>.map Message.id)) =
        [(0, some ⟨2⟩), (1, some ⟨3⟩), (2, some ⟨1⟩), (3, none), (4, none), (5, none)] ∧
      after.answers.length = 6 ∧ (delivered after.answers).length = min 3 6 ∧
      after.broker.store = found.store.withTaken (delivered after.answers) := by
  have hshare := takers_share { clock := ⟨0, 0⟩ } threeMessages ⟨30, 0⟩ ⟨1⟩ 1 sixCalls (by decide)
    (by decide +kernel) (by decide +kernel) (by decide +kernel)
  dsimp only at hshare ⊢
  obtain ⟨_, hall, hlength, _, _, _, hstore⟩ := hshare
  have hanswers := hall (by decide +kernel) (by decide +kernel)
  refine ⟨by decide +kernel, hanswers, ?_, hstore⟩
  rw [hlength, hanswers]
  decide +kernel

end Traffic

end WorkQueue
