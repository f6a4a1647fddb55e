import WorkQueue.Proofs.Run.Parts
import WorkQueue.Proofs.Store.Fates
import WorkQueue.Proofs.Time.StoredOrder

/-!
# The clock along a run

Calls look at the clock and leave it where it is; only the world sets it. A clock shows instants
that have a time of day, and so does every end of a lifetime that was reckoned from it: moving an
instant by a duration leaves a leap second or stays within it.
-/

namespace WorkQueue

/-- The instant to which the move sets the clock. -/
def Move.clock? : Move → Option Instant
  | .setClock now => some now
  | _ => none

namespace Broker

variable {α : Type}

/-- Does the call leave the clock where it is? -/
def KeepsClock (call : Call α) : Prop :=
  ∀ broker, (call.run broker).2.clock = broker.clock

/-- No part of a call sets the clock. -/
theorem acrossCalls_clock : AcrossCalls fun before after => after.clock = before.clock where
  refl _ := rfl
  trans hfirst hsecond := hsecond.trans hfirst
  storage _ _ _ := rfl
  entry _ _ := rfl
  hold _ _ _ _ hkept := hkept
  forget _ _ := rfl

end Broker

namespace Move

open Broker

/-- A move that does not set the clock leaves it. -/
theorem keepsClock {move : Move} (h : move.clock? = none) : KeepsClock move.call := by
  refine move.relates acrossCalls_clock fun now hmove => ?_
  rw [hmove] at h
  cases h

/-- After a move the clock shows what it showed, or the instant to which the move sets it. -/
theorem clock_after (move : Move) (broker : Broker) :
    (move.after broker).clock = move.clock?.getD broker.clock := by
  cases hclock : move.clock? with
  | none => exact keepsClock hclock broker
  | some now =>
      cases move <;> cases hclock
      rfl

end Move

namespace Instant

/-- An instant that is moved by a duration has a time of day. -/
theorem WellFormed.shift {t : Instant} (h : t.WellFormed) (span : Duration) :
    (t.shift span).WellFormed := by
  have hordinary (nanos : Int) : (ofSinceEpoch nanos).WellFormed := by
    refine .inl ?_
    simp only [ofSinceEpoch]
    omega
  unfold Instant.shift
  split
  · exact hordinary _
  · next hleap =>
      split
      · exact hordinary _
      · next hstays =>
          split
          · exact hordinary _
          · -- The instant was in a leap second, and still is.
            refine .inr ⟨(h.resolve_left hleap).1, ?_⟩
            simp only
            omega

/-- An instant that is moved by a duration within the calendar has a time of day. -/
theorem WellFormed.of_shift? {t moved : Instant} {span : Duration} (h : t.WellFormed)
    (hmoved : t.shift? span = some moved) : moved.WellFormed := by
  simp only [shift?] at hmoved
  split at hmoved
  · cases hmoved
    exact h.shift span
  · cases hmoved

end Instant

namespace Broker

/-- The end of a transaction's lifetime has a time of day if the clock does. -/
theorem wellFormed_of_expiryAfter {now expiry : Instant} {lifetime : Duration} (h : now.WellFormed)
    (hexpiry : expiryAfter now lifetime = .ok expiry) : expiry.WellFormed := by
  unfold expiryAfter at hexpiry
  split at hexpiry
  · cases hexpiry
  · split at hexpiry
    · next hshift => cases hexpiry; exact h.of_shift? hshift
    · cases hexpiry

/-- The end of a message's lifetime has a time of day if the clock does. -/
theorem wellFormed_of_messageExpiry {now expiry : Instant} {new : NewMessage} (h : now.WellFormed)
    (hexpiry : messageExpiry new now = .ok (some expiry)) : expiry.WellFormed := by
  unfold messageExpiry at hexpiry
  split at hexpiry
  · cases hexpiry
  · split at hexpiry
    · next hshift => cases hexpiry; exact h.of_shift? hshift
    · cases hexpiry

/-- The clock and the ends of all lifetimes have a time of day. -/
structure Timely (broker : Broker) : Prop where
  clock : broker.clock.WellFormed
  transactions : ∀ t ∈ broker.store.transactions, t.expiryTime.WellFormed
  messages : ∀ m ∈ broker.store.messages, ∀ expiry, m.expiryTime = some expiry →
    expiry.WellFormed

namespace Timely

variable {broker : Broker}

/-- A broker without rows is timely if its clock is. -/
theorem emptied (h : broker.clock.WellFormed) : broker.emptied.Timely :=
  ⟨h, fun _ hmem => absurd hmem List.not_mem_nil, fun _ hmem => absurd hmem List.not_mem_nil⟩

/-- A timely broker is timely after every move that does not set its clock otherwise. -/
theorem after (h : broker.Timely) {move : Move}
    (hset : ∀ instant, move.clock? = some instant → instant.WellFormed) :
    (move.after broker).Timely := by
  obtain ⟨change, _, hcomes, hstore⟩ := move.explained broker
  replace hstore : (move.after broker).store = change.apply broker.store := hstore
  generalize (move.call.run broker).1 = answer at hcomes
  refine ⟨?_, ?_, ?_⟩
  · rw [move.clock_after]
    cases hclock : move.clock? with
    | none => exact h.clock
    | some instant => exact hset instant hclock
  · rw [hstore]
    intro t ht
    rcases Change.mem_transactions_apply.1 ht with ⟨old, hold, rfl⟩ | hnew
    · have hfate := change.transaction_fate old
      generalize change.transactionAfter old = kept at hfate
      cases hfate with
      | extended now expiry =>
          cases hcomes with
          | extended _ _ _ hexpiry => exact wellFormed_of_expiryAfter h.clock hexpiry
      | _ => exact h.transactions old hold
    · cases change with
      | start now expiry =>
          cases List.mem_singleton.1 hnew
          cases hcomes with
          | started _ _ hexpiry => exact wellFormed_of_expiryAfter h.clock hexpiry
      | _ => cases hnew
  · rw [hstore]
    intro m hm expiry hexpires
    rcases Change.mem_messages_apply.1 hm with ⟨old, hold, hkept⟩ | hnew
    · have hsame := Message.expiryTime_eq_of_content (Change.content_messageAfter hkept)
      exact h.messages old hold expiry (hsame.symm.trans hexpires)
    · cases change with
      | add draft =>
          cases List.mem_singleton.1 hnew
          cases hcomes with
          | added _ _ _ _ hexpiry =>
              cases hexpires
              exact wellFormed_of_messageExpiry h.clock hexpiry
      | _ => cases hnew

/-- A timely broker is timely after every run along which the clock is set to instants that have a
time of day. -/
theorem play (h : broker.Timely) {moves : List Move}
    (hset : ∀ instant ∈ moves.filterMap Move.clock?, instant.WellFormed) :
    (play moves broker).Timely := by
  induction moves generalizing broker with
  | nil => exact h
  | cons move rest ih =>
      refine ih (h.after fun instant hclock => ?_) fun instant hmem => ?_
      · exact hset instant (List.mem_filterMap.2 ⟨move, List.mem_cons_self, hclock⟩)
      · obtain ⟨later, hlater, hclock⟩ := List.mem_filterMap.1 hmem
        exact hset instant (List.mem_filterMap.2 ⟨later, List.mem_cons_of_mem _ hlater, hclock⟩)

end Timely

end Broker

end WorkQueue
