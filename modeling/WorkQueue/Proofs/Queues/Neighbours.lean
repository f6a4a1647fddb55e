import WorkQueue.Proofs.Queues.Addresses
import WorkQueue.Proofs.Sending.Outcomes

/-!
# Queues leave each other alone

What is done to a queue, and under a transaction that holds messages of that queue only, leaves the
rows of all other queues as they are, and the messages that are in them. A transaction holds no
message when it starts, and holds messages of one queue only as long as it adds to and takes from
that queue.
-/

namespace WorkQueue

namespace Store

/-- Do two stores agree in the rows of all queues but one, and in the messages of the others? -/
structure SameBeside (queue : QueueId) (before after : Store) : Prop where
  queues : (after.queues.filter fun row => row.id ≠ queue) =
    before.queues.filter fun row => row.id ≠ queue
  messages : (after.messages.filter fun m => m.queue ≠ queue) =
    before.messages.filter fun m => m.queue ≠ queue

/-- A store agrees with itself. -/
theorem SameBeside.refl (queue : QueueId) (store : Store) : SameBeside queue store store :=
  ⟨rfl, rfl⟩

/-- What is done in two steps leaves the other queues alone when each step does. -/
theorem SameBeside.trans {queue : QueueId} {before between after : Store}
    (hfirst : SameBeside queue before between) (hsecond : SameBeside queue between after) :
    SameBeside queue before after :=
  ⟨hsecond.queues.trans hfirst.queues, hsecond.messages.trans hfirst.messages⟩

/-- Are all messages that the transaction holds in the queue? -/
def HoldsOnly (store : Store) (owner : TransactionId) (queue : QueueId) : Prop :=
  ∀ m ∈ store.messages, m.owner = some owner → m.queue = queue

/-- Further messages in the queue make no difference to the others. -/
theorem sameBeside_plus {queue : QueueId} (store : Store) (opened : List Transaction)
    {added : List Message} (hadded : ∀ m ∈ added, m.queue = queue) :
    SameBeside queue store (store.plus opened added) := by
  constructor
  · rfl
  · have hnone : (added.filter fun m => m.queue ≠ queue) = [] := by
      refine List.filter_eq_nil_iff.2 ?_
      intro m hm
      simp [hadded m hm]
    show ((store.messages ++ added).filter fun m => m.queue ≠ queue) = _
    rw [List.filter_append, hnone, List.append_nil]

/-- Dropping a queue leaves the other queues alone. -/
theorem sameBeside_dropQueue (store : Store) (id : QueueId) :
    store.SameBeside id ((Change.dropQueue id).apply store) := by
  rw [Change.apply_dropQueue]
  constructor <;> simp only [List.filter_filter, Bool.and_self]

/-- A transaction that has just been started holds nothing. -/
theorem Sound.holdsOnly_opening {store : Store} (h : store.Sound) (now expiry : Instant)
    (queue : QueueId) :
    (store.plus [store.opening now expiry] []).HoldsOnly (store.opening now expiry).id queue := by
  intro m hm howner
  replace hm : m ∈ store.messages := by
    rw [plus, List.append_nil] at hm
    exact hm
  obtain ⟨t, ht, hid, _⟩ := h.coupled.owners m hm _ howner
  exact absurd hid (Change.id_ne_opening h.numbered ht)

end Store

/-- Where rows of one kind stay as they are, and rows of the other kind stay of that kind or go, the
rows of the first kind are those that were there. -/
theorem filter_filterMap_eq {Row : Type} {rows : List Row} {after : Row → Option Row}
    {kind : Row → Bool} (hfirst : ∀ row ∈ rows, kind row = true → after row = some row)
    (hother : ∀ row ∈ rows, kind row = false → ∀ kept, after row = some kept →
      kind kept = false) :
    (rows.filterMap after).filter kind = rows.filter kind := by
  induction rows with
  | nil => rfl
  | cons row rest ih =>
      obtain ⟨hrow, hrest⟩ := List.forall_mem_cons.1 hfirst
      obtain ⟨hrow', hrest'⟩ := List.forall_mem_cons.1 hother
      have hkept := ih hrest hrest'
      cases hkind : kind row with
      | true =>
          rw [List.filterMap_cons_some (hrow hkind), List.filter_cons_of_pos hkind,
            List.filter_cons_of_pos hkind, hkept]
      | false =>
          rw [List.filter_cons_of_neg (Bool.eq_false_iff.1 hkind), ← hkept]
          cases hafter : after row with
          | none => rw [List.filterMap_cons_none hafter]
          | some kept =>
              have hsame : kind kept = false := hrow' hkind kept hafter
              rw [List.filterMap_cons_some hafter,
                List.filter_cons_of_neg (Bool.eq_false_iff.1 hsame)]

namespace Change

variable {change : Change} {store : Store} {owner : TransactionId} {queue : QueueId}

/-- Is the change one of messages in the queue, or of a transaction that holds such messages? -/
def StaysIn (owner : TransactionId) (queue : QueueId) : Change → Prop
  | .nothing | .extend _ _ _ => True
  | .commit id _ | .undo id _ _ _ => id = owner
  | .add draft => draft.queue = queue
  | .take m _ _ => m.queue = queue
  | .addQueue _ | .dropQueue _ | .start _ _ | .repair _ _ => False

/-- Such a change leaves the messages of other queues as they are. -/
theorem messageAfter_of_staysIn (hallowed : change.Allowed store) (hnumbered : store.Numbered)
    (hstays : change.StaysIn owner queue) (hholds : store.HoldsOnly owner queue) {m : Message}
    (hm : m ∈ store.messages) (hother : m.queue ≠ queue) :
    change.messageAfter store m = some m := by
  have hnot : ∀ action, m.isHeldBy owner action = false := by
    intro action
    rw [Bool.eq_false_iff]
    intro hheld
    exact hother (hholds m hm (Message.isHeldBy_iff.1 hheld).1)
  cases change with
  | nothing | extend | add => rfl
  | commit id now => simp [messageAfter, show id = owner from hstays, hnot]
  | undo id target reason now => simp [messageAfter, show id = owner from hstays, hnot]
  | take taken taker now =>
      have hne : m.id ≠ taken.id := by
        intro hid
        obtain rfl := hnumbered.message_eq hm (Store.nextMessage?_eq_some hallowed.1).1 hid
        exact hother hstays
      show (if m.id = taken.id then some (m.take taker) else some m) = some m
      rw [if_neg hne]
  | addQueue | dropQueue | start | repair => exact hstays.elim

/-- Such a change leaves the other queues alone. -/
theorem sameBeside_apply (hallowed : change.Allowed store) (hnumbered : store.Numbered)
    (hstays : change.StaysIn owner queue) (hholds : store.HoldsOnly owner queue) :
    store.SameBeside queue (change.apply store) := by
  constructor
  · have hqueues : (change.apply store).queues = store.queues := by
      cases change with
      | addQueue | dropQueue => exact hstays.elim
      | _ => simp [apply, keepsQueue, newQueues]
    rw [hqueues]
  · have hnew : ((change.newMessages store).filter fun m => m.queue ≠ queue) = [] := by
      cases change with
      | add draft =>
          have hqueue : draft.queue = queue := hstays
          simp [newMessages, MessageDraft.row, hqueue]
      | _ => rfl
    show ((store.messages.filterMap (change.messageAfter store) ++
      change.newMessages store).filter _) = _
    rw [List.filter_append, hnew, List.append_nil]
    refine filter_filterMap_eq ?_ ?_
    · intro m hm hother
      exact messageAfter_of_staysIn hallowed hnumbered hstays hholds hm (of_decide_eq_true hother)
    · intro m _ hqueue kept hafter
      rw [Message.queue_eq_of_content (content_messageAfter hafter)]
      exact hqueue

/-- After such a change the transaction still holds messages of the queue only. -/
theorem holdsOnly_apply (hallowed : change.Allowed store) (hnumbered : store.Numbered)
    (hstays : change.StaysIn owner queue) (hholds : store.HoldsOnly owner queue) :
    (change.apply store).HoldsOnly owner queue := by
  intro m hm howner
  rcases origin hallowed hnumbered hm with ⟨old, hold, hcontent, hfate⟩ | ⟨draft, hadds, hrow⟩
  · rw [Message.queue_eq_of_content hcontent]
    cases hfate with
    | same => exact hholds m hold howner
    | taken taker now => exact hstays
    | released | processed => cases howner
    | undone | recovered =>
        rw [Message.owner_giveBack] at howner
        cases howner
    | lapsed | outworn => exact hstays.elim
  · subst hadds hrow
    exact hstays

end Change

namespace Move

variable {broker : Broker} {move : Move} {owner : TransactionId} {queue : QueueId}

/-- The queue that messages are added to or taken from. -/
def queue? : Move → Option QueueId
  | .enqueue _ queue _ | .dequeue _ queue => some queue
  | _ => none

/-- A call under a transaction is one of the queue that it names, if it names one. -/
theorem staysIn_of_comesTo {store : Store} {now : Instant} {answer : Except Error move.Answer}
    {change : Change} (howner : move.owner? = some owner)
    (hqueue : ∀ named, move.queue? = some named → named = queue)
    (h : ComesTo store now move answer change) : change.StaysIn owner queue := by
  cases h with
  | refused | looked | peeked | tookNothing | extended => trivial
  | lapsed _ id hid => exact Option.some.inj (hid.symm.trans howner)
  | committed id | rolledBack id => exact Option.some.inj howner
  | added _ named => exact hqueue named rfl
  | took _ message => exact hqueue message.queue rfl
  | queueCreated | queueDeleted | started | repaired => cases howner

/-- A call under a transaction that holds messages of one queue only, and which names no other
queue, leaves the other queues alone. -/
theorem sameBeside_after (hsound : broker.store.Sound) (howner : move.owner? = some owner)
    (hqueue : ∀ named, move.queue? = some named → named = queue)
    (hholds : broker.store.HoldsOnly owner queue) :
    broker.store.SameBeside queue (move.after broker).store ∧
      (move.after broker).store.HoldsOnly owner queue ∧ (move.after broker).store.Sound := by
  obtain ⟨change, hallowed, hcomes, hstore⟩ := Step.explained ⟨broker, move⟩
  replace hstore : (move.after broker).store = change.apply broker.store := hstore
  have hstays := staysIn_of_comesTo howner hqueue hcomes
  rw [hstore]
  exact ⟨Change.sameBeside_apply hallowed hsound.numbered hstays hholds,
    Change.holdsOnly_apply hallowed hsound.numbered hstays hholds,
    Change.sound_apply hallowed hsound⟩

/-- Deleting a queue by its number leaves the other queues alone. -/
theorem sameBeside_deleteQueue (id : QueueId) :
    broker.store.SameBeside id ((Move.deleteQueue (.byId id)).after broker).store := by
  cases hbegin : broker.outages.hitsNext with
  | true =>
      have hsame : ((Move.deleteQueue (.byId id)).after broker).store = broker.store := by
        have haddress : QueueAddress.ofRef (.byId id) = .ok (.number id) := rfl
        rw [after, call, Broker.deleteQueue,
          Broker.run_bind_of_ok (Broker.run_check_of_ok haddress),
          Broker.run_bind_of_error (Broker.run_inStorage_of_outage hbegin)]
        rfl
      rw [hsame]
      exact .refl id _
  | false =>
      rw [(Broker.deleteQueue_meant (.byId id) hbegin).2.1]
      cases hmeant : broker.store.meant (.byId id) with
      | error error =>
          rw [Change.dropMeant, Change.apply_nothing]
          exact .refl id _
      | ok queue =>
          obtain ⟨address, haddress, hfind⟩ := Store.meant_eq_ok_iff.1 hmeant
          cases haddress
          rw [Change.dropMeant, (Store.queue?_eq_some hfind).2]
          exact broker.store.sameBeside_dropQueue id

end Move

/-- Sending a message to a queue leaves the other queues alone. -/
theorem Service.SendsTo.sameBeside {store after : Store} {now : Instant} {queue : QueueId}
    {new : NewMessage} {answer : Except Fault MessageId}
    (h : SendsTo store now queue new answer after) : store.SameBeside queue after := by
  cases h with
  | unstarted => exact .refl queue store
  | rolledBack | leftOpen =>
      refine store.sameBeside_plus _ ?_
      intro m hm
      cases hm
  | uncommitted | sent =>
      refine store.sameBeside_plus _ ?_
      intro m hm
      rw [List.mem_singleton.1 hm]
      rfl

end WorkQueue
