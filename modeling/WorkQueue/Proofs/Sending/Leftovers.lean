import WorkQueue.Proofs.Sending.Outcomes
import WorkQueue.Proofs.Visibility.Barrier
import WorkQueue.Proofs.Lifetime.Finality

/-!
# What is left of a message that was not sent

When sending a message fails, a transaction may be left that nobody knows of, with the message in
its hands. As long as no call is made under it, it is not committed and its lifetime ends when it
ended before, so the message is never seen, and a sweep after that end does away with both:
`sending_all_or_nothing`. A sweep takes several storage transactions, and what else is done may come
between them.
-/

namespace WorkQueue

open Broker

namespace Broker

/-- Are these stages of a sweep made, one after the other, among the moves of a run? -/
def Sweeps (instant : Instant) : List SweepStage → List Move → Broker → Prop
  | [], _, _ => True
  | stage :: rest, moves, broker =>
      ∃ first later rows, moves = first ++ .sweep stage instant :: later ∧
        (Move.sweep stage instant).answer (play first broker) = .ok rows ∧
          Sweeps instant rest later ((Move.sweep stage instant).after (play first broker))

/-- A sweep that meets no outage is made. -/
theorem sweeps_of_undisturbed (instant : Instant) (stages : List SweepStage) (first : List Move)
    {broker : Broker} (h : (play first broker).outages = {}) :
    Sweeps instant stages (first ++ stages.map fun stage => .sweep stage instant) broker := by
  induction stages generalizing first broker with
  | nil => trivial
  | cons stage rest ih =>
      have hbegin : (play first broker).outages.hitsNext = false := by rw [h]; rfl
      have hrun : (sweepStages instant [stage]).run (play first broker) = _ :=
        run_sweepStages_of_ok hbegin
      refine ⟨first, _, _, rfl, congrArg Prod.fst hrun, ih [] ?_⟩
      rw [play, Move.after, Move.call, hrun]
      show (play first broker).outages.pass = {}
      rw [h]
      rfl

end Broker

namespace Store

/-- Was the message there once, and is it gone? -/
def HasLostMessage (store : Store) (id : MessageId) : Prop :=
  store.Tells id fun _ => False

/-- The transaction is not committed, and if it is active its lifetime ends at this instant. It
keeps back the messages that it has added. -/
structure KeepsBack (store : Store) (id : TransactionId) (expiry : Instant)
    (added : List MessageId) : Prop where
  sound : store.Sound
  uncommitted : ∃ t, store.transaction? id = some t ∧ t.state ≠ .committed ∧
    (t.state = .active → t.expiryTime = expiry)
  barrier : ∀ message ∈ added, Barrier message id store

variable {store : Store} {id : TransactionId} {expiry : Instant} {added : List MessageId}
  {message : MessageId} {m : Message}

/-- What an expired transaction holds is orphaned. -/
theorem isOrphan_of_isHeldBy {action : TransactionAction} (h : m.isHeldBy id action = true)
    (hexpired : store.hasExpired id = true) : store.isOrphan action m = true := by
  obtain ⟨howner, haction, hstate⟩ := Message.isHeldBy_iff.1 h
  simp [isOrphan, howner, haction, hstate, hexpired]

/-- A message that is gone is not found. -/
theorem HasLostMessage.message?_eq (h : store.HasLostMessage message) :
    store.message? message = none := by
  cases hfind : store.message? message with
  | none => rfl
  | some m =>
      obtain ⟨hm, hid⟩ := message?_eq_some hfind
      exact (h.told m hm hid).elim

/-- What a transaction keeps back is not active. -/
theorem KeepsBack.not_active (h : store.KeepsBack id expiry added) (hm : m ∈ store.messages)
    (hadded : m.id ∈ added) : m.state ≠ .active := by
  obtain ⟨t, hfind, huncommitted, _⟩ := h.uncommitted
  obtain ⟨ht, rfl⟩ := transaction?_eq_some hfind
  obtain ⟨found, hfound, hid, htells⟩ := h.barrier m.id hadded
  cases h.sound.numbered.transaction_eq hfound ht hid
  exact fun hactive => huncommitted ((htells.told m hm rfl).committed_of_active hactive)

end Store

namespace Move

variable {broker : Broker} {move : Move} {stage : SweepStage} {id : TransactionId}
  {expiry instant : Instant} {added : List MessageId}

/-- A stage of a sweep that answers has repaired the store. -/
theorem store_after_sweep_of_answer {rows : List (SweepStep × Nat)}
    (h : (Move.sweep stage instant).answer broker = .ok rows) :
    ((Move.sweep stage instant).after broker).store =
      (Change.repair stage instant).apply broker.store := by
  obtain ⟨change, _, hcomes, hstore⟩ := (Move.sweep stage instant).explained broker
  rw [answer] at h
  rw [h] at hcomes
  rw [after, hstore]
  cases hcomes with
  | looked _ _ hlook => cases hlook
  | repaired => rfl

/-- What a transaction keeps back it keeps back after every move that is not made under it. -/
theorem keepsBack_after (h : broker.store.KeepsBack id expiry added)
    (hnot : move.owner? ≠ some id) :
    (move.after broker).store.KeepsBack id expiry added := by
  obtain ⟨change, hallowed, hcomes, hstore⟩ := move.explained broker
  generalize (move.call.run broker).1 = answer at hcomes
  obtain ⟨t, hfind, huncommitted, hexpiry⟩ := h.uncommitted
  obtain ⟨_, rfl⟩ := Store.transaction?_eq_some hfind
  have hfound := change.transaction?_apply h.sound.numbered hfind
  have hfate := change.transaction_fate t
  rw [after, hstore]
  refine ⟨Change.sound_apply hallowed h.sound, ⟨_, hfound, ?_⟩,
    fun message hadded => (h.barrier message hadded).apply hallowed h.sound.numbered⟩
  generalize change.transactionAfter t = kept at hfate
  cases hfate with
  | same => exact ⟨huncommitted, hexpiry⟩
  | extended | committed => cases hcomes; exact absurd rfl hnot
  | undone =>
      rcases hallowed with ⟨rfl, _⟩ | ⟨rfl, _⟩ <;> simp [Transaction.close]
  | expired => simp [Transaction.close]

/-- A sweep is not made under the transaction. -/
theorem keepsBack_after_sweep (stage : SweepStage) (instant : Instant)
    (h : broker.store.KeepsBack id expiry added) :
    ((Move.sweep stage instant).after broker).store.KeepsBack id expiry added :=
  keepsBack_after h (by simp [owner?])

/-- What a transaction keeps back is neither shown nor delivered, not even to itself. -/
theorem not_seen_of_keepsBack (h : broker.store.KeepsBack id expiry added) {seen : Message}
    (hadded : seen.id ∈ added) (queue : QueueId) :
    (Move.peek queue).answer broker ≠ .ok (some seen) ∧
      ∀ taker, (Move.dequeue taker queue).answer broker ≠ .ok (some seen) := by
  refine ⟨fun hshown => ?_, fun taker hdelivered => ?_⟩
  · obtain ⟨hmem, hactive⟩ := mem_of_peek hshown
    exact h.not_active hmem hadded hactive
  · obtain ⟨old, hmem, hid, hactive⟩ := exists_of_dequeue hdelivered
    exact h.not_active hmem (hid ▸ hadded) hactive

/-- The first stage of a sweep at the end of its lifetime or later ends the transaction. -/
theorem ended_after_sweep {rows : List (SweepStep × Nat)}
    (h : broker.store.KeepsBack id expiry added) (hpast : expiry.storedLe instant = true)
    (hanswer : (Move.sweep .transactions instant).answer broker = .ok rows) :
    ∃ t, ((Move.sweep .transactions instant).after broker).store.transaction? id = some t ∧
      (t.state = .expired ∨ t.state = .rolledBack) := by
  obtain ⟨t, hfind, huncommitted, hexpiry⟩ := h.uncommitted
  rw [store_after_sweep_of_answer hanswer]
  refine ⟨_, Change.transaction?_apply _ h.sound.numbered hfind, ?_⟩
  cases hstate : t.state with
  | active =>
      rw [← hexpiry hstate] at hpast
      simp [Change.transactionAfter, Transaction.isActive, Transaction.close, hstate, hpast]
  | committed => exact absurd hstate huncommitted
  | expired | rolledBack => simp [Change.transactionAfter, Transaction.isActive, hstate]

/-- The second stage of a sweep discards what is kept back by a transaction that is over. -/
theorem hasLostMessage_after_sweep {rows : List (SweepStep × Nat)} {t : Transaction}
    {message : MessageId} (h : broker.store.KeepsBack id expiry added)
    (hfind : broker.store.transaction? id = some t)
    (hended : t.state = .expired ∨ t.state = .rolledBack) (hadded : message ∈ added)
    (hanswer : (Move.sweep .orphanedAdds instant).answer broker = .ok rows) :
    ((Move.sweep .orphanedAdds instant).after broker).store.HasLostMessage message := by
  rw [store_after_sweep_of_answer hanswer]
  obtain ⟨ht, rfl⟩ := Store.transaction?_eq_some hfind
  obtain ⟨found, hfound, hid, htells⟩ := h.barrier message hadded
  cases h.sound.numbered.transaction_eq hfound ht hid
  refine ⟨htells.le_last, fun kept hkept hsame => ?_⟩
  rcases Change.mem_messages_apply.1 hkept with ⟨m, hm, hafter⟩ | hnew
  · simp only [Change.messageAfter] at hafter
    split at hafter
    · cases hafter
    · next hspared =>
        cases hafter
        have hbarred := htells.told kept hm hsame
        rcases hended with hstate | hstate <;> rw [hstate] at hbarred
        · exact hspared (Store.isOrphan_of_isHeldBy hbarred
            ((h.sound.numbered.hasExpired_eq ht).trans (decide_eq_true hstate)))
        · exact hbarred
  · cases hnew

end Move

namespace Broker

variable {broker : Broker} {id : TransactionId} {expiry instant : Instant}
  {added : List MessageId} {message : MessageId} {moves : List Move}

/-- What a transaction keeps back it keeps back along every run without calls under it. -/
theorem keepsBack_play (h : broker.store.KeepsBack id expiry added)
    (hnot : ∀ move ∈ moves, move.owner? ≠ some id) :
    (play moves broker).store.KeepsBack id expiry added := by
  induction moves generalizing broker with
  | nil => exact h
  | cons move rest ih =>
      obtain ⟨hmove, hrest⟩ := List.forall_mem_cons.1 hnot
      exact ih (Move.keepsBack_after h hmove) hrest

/-- A message that is gone does not come back. -/
theorem hasLostMessage_play (moves : List Move) (hsound : broker.store.Sound)
    (h : broker.store.HasLostMessage message) :
    (play moves broker).store.HasLostMessage message := by
  refine (play_store (fun store => store.Sound ∧ store.HasLostMessage message) ?_ moves
    ⟨hsound, h⟩).2
  rintro change store hallowed ⟨hsound, hlost⟩
  exact ⟨Change.sound_apply hallowed hsound,
    hlost.apply hallowed hsound.numbered fun _ _ _ _ hnever _ => hnever⟩

/-- After a sweep at the end of its lifetime or later the transaction is not active, and what it
kept back is gone. -/
theorem swept_of_keepsBack (h : broker.store.KeepsBack id expiry added)
    (hnot : ∀ move ∈ moves, move.owner? ≠ some id) (hpast : expiry.storedLe instant = true)
    (hsweeps : Sweeps instant SweepStage.all moves broker) :
    (∃ t, (play moves broker).store.transaction? id = some t ∧ t.state ≠ .active) ∧
      ∀ message ∈ added, (play moves broker).store.message? message = none := by
  obtain ⟨first, more, _, rfl, hends, second, later, _, hmore, hdiscards, _⟩ := hsweeps
  have hfirst : (play first broker).store.KeepsBack id expiry added :=
    keepsBack_play h fun move hmove => hnot move (List.mem_append_left _ hmove)
  obtain ⟨t, hfind, hended⟩ := Move.ended_after_sweep hfirst hpast hends
  have hover : t.state ≠ .active := by
    rcases hended with hstate | hstate <;> rw [hstate] <;> decide
  have hkeeps := Move.keepsBack_after_sweep .transactions instant hfirst
  rw [play_append, play]
  generalize (Move.sweep .transactions instant).after (play first broker) = ended at *
  refine ⟨⟨t, transaction?_play_of_ended more hkeeps.sound.numbered hfind hover, hover⟩, ?_⟩
  intro message hadded
  have hsecond : (play second ended).store.KeepsBack id expiry added :=
    keepsBack_play hkeeps fun move hmove => hnot move (by simp [hmore, hmove])
  have hkept := transaction?_play_of_ended second hkeeps.sound.numbered hfind hover
  rw [hmore, play_append, play]
  exact (hasLostMessage_play later (Move.keepsBack_after_sweep .orphanedAdds instant hsecond).sound
    (Move.hasLostMessage_after_sweep hsecond hkept hended hadded hdiscards)).message?_eq

end Broker

namespace Service

variable {store after : Store} {now : Instant} {queue : QueueId} {new : NewMessage} {fault : Fault}

/-- A message that was not sent leaves nothing, or a transaction that is not committed, and at most
itself in the hands of that transaction, which is active then. -/
theorem SendsTo.exists_left (h : SendsTo store now queue new (.error fault) after) :
    ∃ opened added, after = store.plus opened added ∧ opened.length ≤ 1 ∧ added.length ≤ 1 ∧
      (∀ m ∈ added, ∃ t ∈ opened, m.isHeldBy t.id .add = true) ∧
        ∀ t ∈ opened, expiryAfter now (.ofSeconds 60) = .ok t.expiryTime ∧ t.state ≠ .committed ∧
          ∀ m ∈ added, t.state = .active ∧ m.isHeldBy t.id .add = true := by
  cases h with
  | unstarted => exact ⟨[], [], store.plus_nil.symm, by simp⟩
  | rolledBack _ expiry hexpiry =>
      refine ⟨_, [], rfl, by simp, by simp, by simp, ?_⟩
      simpa [Transaction.close, Store.opening] using hexpiry
  | leftOpen _ expiry hexpiry =>
      refine ⟨_, [], rfl, by simp, by simp, by simp, ?_⟩
      simpa [Store.opening] using hexpiry
  | uncommitted _ expiry lives hexpiry =>
      have hheld : (store.adding now expiry lives queue new).isHeldBy
          (store.opening now expiry).id .add = true := Message.isHeldBy_iff.2 ⟨rfl, rfl, rfl⟩
      refine ⟨_, _, rfl, by simp, by simp, by simpa using hheld, ?_⟩
      simpa [Store.opening] using ⟨hexpiry, hheld⟩

/-- What a message has left that was not sent is kept back. -/
theorem keepsBack_of_left {opened : List Transaction} {added : List Message} {t : Transaction}
    (hsound : (store.plus opened added).Sound) (ht : t ∈ opened) (hstate : t.state ≠ .committed)
    (hheld : ∀ m ∈ added, t.state = .active ∧ m.isHeldBy t.id .add = true) :
    (store.plus opened added).KeepsBack t.id t.expiryTime (added.map Message.id) := by
  have hopened : t ∈ (store.plus opened added).transactions := List.mem_append_right _ ht
  refine ⟨hsound, ⟨t, hsound.numbered.transaction?_eq hopened, hstate, fun _ => rfl⟩, ?_⟩
  intro message hmessage
  obtain ⟨m, hm, rfl⟩ := List.mem_map.1 hmessage
  obtain ⟨hactive, hadded⟩ := hheld m hm
  refine ⟨t, hopened, rfl, hsound.numbered.tells (List.mem_append_right _ hm) ?_⟩
  rw [hactive]
  exact hadded

end Service

/-- The end of a minute that begins in the years from 0 to 9999 is stored as it should be if it is
not after these years. -/
theorem Broker.storable_of_expiryAfter {now expiry instant : Instant} (hnow : now.Storable)
    (hexpiry : expiryAfter now (.ofSeconds 60) = .ok expiry) (hle : expiry ≤ instant)
    (hinstant : instant.Storable) : expiry.Storable := by
  have hlater : now ≤ expiry :=
    (Instant.le_total now expiry).resolve_right (not_le_of_expiryAfter hexpiry)
  exact ⟨hnow.1.trans (Instant.year_le_of_le hlater),
    (Instant.year_le_of_le hle).trans hinstant.2.1, wellFormed_of_expiryAfter hnow.2.2 hexpiry⟩

namespace Service

/-- After every run, at every instant and whatever storage transactions cannot be begun: a message
is sent if nothing is in the way of that, and one that is answered to be sent is there, active and
in nobody's hands, behind a transaction that is committed, and nothing else has changed. If the
answer is a fault, there is at most one transaction more, and at most one message, in its hands. In
every run after that without calls under the transaction the message is neither shown nor delivered,
and after a sweep at the end of the transaction's lifetime or later, in the years from 0 to 9999,
the transaction is not active and the message is gone. -/
theorem sending_all_or_nothing (broker : Broker) (moves : List Move) (now : Instant)
    (outages : Outages) (queue : QueueId) (new : NewMessage) :
    let before := { play moves broker.emptied with clock := now, outages }
    let answer := ((send queue new).run before).1
    let after := ((send queue new).run before).2
    (CanSend before queue new → ∃ id, answer = .ok id) ∧
      (∀ id, answer = .ok id → id = ⟨before.store.lastMessage + 1⟩ ∧ ∃ expiry lives,
        expiryAfter now (.ofSeconds 60) = .ok expiry ∧ messageExpiry new now = .ok lives ∧
        after.store = before.store.plus
          [{ id := ⟨before.store.lastTransaction + 1⟩, state := .committed, startTime := now,
             expiryTime := expiry, endTime := some now, endReason := some committedReason }]
          [{ id, queue, owner := none, action := none, state := .active, addTime := now,
             closeTime := none, priority := new.priority,
             maxAttempts := min new.maxAttempts maxAttemptsLimit, attempts := 0,
             expiryTime := lives, correlation := new.correlation, group := new.group,
             metadata := new.metadata, payload := new.payload }]) ∧
      ∀ fault, answer = .error fault → ∃ opened added,
        after.store = before.store.plus opened added ∧ opened.length ≤ 1 ∧ added.length ≤ 1 ∧
          (∀ m ∈ added, ∃ t ∈ opened, m.isHeldBy t.id .add = true) ∧
          ∀ later, (∀ t ∈ opened, ∀ move ∈ later, move.owner? ≠ some t.id) →
            let final := play later after
            (∀ m ∈ added, ∀ queue seen, seen.id = m.id →
              (Move.peek queue).answer final ≠ .ok (some seen) ∧
                ∀ taker, (Move.dequeue taker queue).answer final ≠ .ok (some seen)) ∧
              ∀ t ∈ opened, ∀ instant, now.Storable → instant.Storable →
                t.expiryTime ≤ instant → Sweeps instant SweepStage.all later after →
                  (∃ kept, final.store.transaction? t.id = some kept ∧ kept.state ≠ .active) ∧
                    ∀ m ∈ added, final.store.message? m.id = none := by
  intro before answer after
  have hsound : before.store.Sound := play_sound broker moves
  have hclock : before.clock = now := rfl
  clear_value before
  have hsends : SendsTo before.store now queue new answer after.store :=
    hclock ▸ sendsTo hsound queue new
  have hafter : after.store.Sound :=
    (isRun_send queue new).store (fun _ _ hallowed h => Change.sound_apply hallowed h) hsound
  refine ⟨fun h => ⟨_, h.answer hsound⟩, ?_⟩
  clear_value answer after
  constructor
  · rintro id rfl
    generalize hstore : after.store = stored at hsends
    cases hsends with
    | sent expiry lives hexpiry hlives => exact ⟨rfl, expiry, lives, hexpiry, hlives, rfl⟩
  · rintro fault rfl
    obtain ⟨opened, added, hplus, hone, hlone, hholds, hleft⟩ := hsends.exists_left
    refine ⟨opened, added, hplus, hone, hlone, hholds, fun later hnot => ?_⟩
    have hkeeps : ∀ t ∈ opened,
        after.store.KeepsBack t.id t.expiryTime (added.map Message.id) := by
      intro t ht
      obtain ⟨_, hstate, hheld⟩ := hleft t ht
      rw [hplus] at hafter ⊢
      exact keepsBack_of_left hafter ht hstate hheld
    refine ⟨?_, ?_⟩
    · intro m hm queue seen hsame
      obtain ⟨t, ht, _⟩ := hholds m hm
      exact Move.not_seen_of_keepsBack (keepsBack_play (hkeeps t ht) (hnot t ht))
        (hsame ▸ List.mem_map_of_mem hm) queue
    · intro t ht instant hnow hinstant hle hsweeps
      have hexpiry := storable_of_expiryAfter hnow (hleft t ht).1 hle hinstant
      obtain ⟨hended, hgone⟩ := swept_of_keepsBack (hkeeps t ht) (hnot t ht)
        ((Instant.storedLe_iff hexpiry hinstant).2 hle) hsweeps
      exact ⟨hended, fun m hm => hgone m.id (List.mem_map_of_mem hm)⟩

/-- When the last of its three storage transactions cannot be begun, sending a message leaves it in
the hands of a transaction that nobody commits, until a sweep a minute later. -/
theorem sending_all_or_nothing_uncommitted :
    let now : Instant := ⟨1740830400, 0⟩
    let later : Instant := ⟨1740830460, 0⟩
    let before : Broker :=
      { play [.createQueue "q"] (emptied { clock := now }) with clock := now, outages := ⟨[3]⟩ }
    let after := ((send ⟨1⟩ { payload := [120] }).run before).2
    let sweep := SweepStage.all.map fun stage => Move.sweep stage later
    after.store.messages.map Message.state = [.inTransaction] ∧
      (play (.setClock later :: sweep) after).store.message? ⟨1⟩ = none := by
  intro now later before after sweep
  refine ⟨by decide +kernel, ?_⟩
  obtain ⟨_, _, hfails⟩ := sending_all_or_nothing { clock := now } [.createQueue "q"] now ⟨[3]⟩ ⟨1⟩
    { payload := [120] }
  obtain ⟨opened, added, hplus, _, _, _, hleft⟩ :=
    hfails (Fault.ofError (.storage .noConnection)) (by decide +kernel)
  have hempty : before.store.transactions = [] ∧ before.store.messages = [] := by decide +kernel
  have hopened : after.store.transactions = before.store.transactions ++ opened :=
    congrArg Store.transactions hplus
  have hadded : after.store.messages = before.store.messages ++ added :=
    congrArg Store.messages hplus
  rw [hempty.1, List.nil_append] at hopened
  rw [hempty.2, List.nil_append] at hadded
  obtain ⟨t, ht, hexpiry⟩ : ∃ t ∈ opened, t.expiryTime ≤ later := by
    rw [← hopened]
    decide +kernel
  obtain ⟨m, hm, hid⟩ : ∃ m ∈ added, m.id = ⟨1⟩ := by
    rw [← hadded]
    decide +kernel
  have hnot : ∀ move ∈ .setClock later :: sweep, move.owner? = none := by decide +kernel
  obtain ⟨_, hswept⟩ := hleft (.setClock later :: sweep) fun _ _ move hmove => by
    simp [hnot move hmove]
  rw [← hid]
  exact (hswept t ht later (by decide +kernel) (by decide +kernel) hexpiry
    (sweeps_of_undisturbed later SweepStage.all [.setClock later] (by decide +kernel))).2 m hm

/-- A message that may be tried more often than the store can count is sent, and may be tried as
often as it can count. -/
theorem sent_with_fewer_attempts :
    let before : Broker := play [.createQueue "q"] (emptied { clock := ⟨1740830400, 0⟩ })
    let new : NewMessage := { payload := [120], maxAttempts := 2147483648 }
    let result := (send ⟨1⟩ new).run before
    result.1 = .ok ⟨1⟩ ∧ result.2.store.messages.map Message.maxAttempts = [2147483647] ∧
      ¬ ∃ m ∈ result.2.store.messages, m.id = ⟨1⟩ ∧ m.maxAttempts = new.maxAttempts := by
  decide +kernel

end Service

end WorkQueue
