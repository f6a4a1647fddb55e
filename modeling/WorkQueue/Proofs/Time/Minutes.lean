import WorkQueue.Proofs.Time.StoredOrder
import WorkQueue.Service

/-!
# Lifetimes in minutes

A lifetime of so many minutes has two limits: a duration has no more than `Duration.maxSeconds`
seconds, and the end of the lifetime has to be in the calendar. `Instant.Overruns` says when a
number of minutes is not a lifetime from an instant on, and `Instant.addMinutes` says when a
lifetime ends otherwise. The checks that calls with minutes make are told in terms of the two: no
number of minutes is so large that it comes round to an end that it does not mean.
-/

namespace WorkQueue

namespace Instant

/-- The last second of the calendar. -/
def lastSecond : Int :=
  (lastDay + 1) * 86400 - 1

/-- The instant so many minutes later. A leap second is left as if it had not been there. -/
def addMinutes (t : Instant) (minutes : Int) : Instant :=
  ⟨t.second + 60 * minutes, if minutes = 0 then t.nano else t.nano % 1_000_000_000⟩

/-- Are the minutes no lifetime from this instant on? They are negative, or more than a duration can
have, or end after the calendar. -/
def Overruns (t : Instant) (minutes : Int) : Prop :=
  minutes < 0 ∨ Duration.maxSeconds < 60 * minutes ∨ lastSecond < t.second + 60 * minutes

/-- Whether minutes are a lifetime is decided by comparing numbers. -/
instance (t : Instant) (minutes : Int) : Decidable (t.Overruns minutes) :=
  inferInstanceAs (Decidable (_ ∨ _))

variable {t : Instant} {minutes : Int}

/-- What minutes that are a lifetime come to. -/
theorem not_overruns_iff :
    ¬ t.Overruns minutes ↔
      0 ≤ minutes ∧ 60 * minutes ≤ Duration.maxSeconds ∧ t.second + 60 * minutes ≤ lastSecond := by
  unfold Overruns
  omega

/-- Moving an instant by minutes leads that many minutes further. -/
theorem shift_ofSeconds (h : t.WellFormed) (hminutes : 0 ≤ minutes) :
    t.shift (.ofSeconds (60 * minutes)) = t.addMinutes minutes := by
  have hnano : t.nano < 2_000_000_000 := by
    rcases h with h | ⟨_, h⟩ <;> omega
  unfold shift addMinutes
  split
  · next hordinary =>
      simp only [ofSinceEpoch, sinceEpoch, Duration.ofSeconds, mk.injEq]
      refine ⟨by omega, ?_⟩
      split <;> omega
  · next hleap =>
      rcases Int.lt_or_eq_of_le hminutes with hsome | hnone
      · rw [if_pos (.inl (by simp only [Duration.ofSeconds]; omega)), if_neg (by omega)]
        simp only [ofSinceEpoch, sinceEpoch, Duration.ofSeconds, mk.injEq]
        omega
      · have hspan : (Duration.ofSeconds (60 * minutes)).nanos = 0 := by
          simp only [Duration.ofSeconds]
          omega
        rw [hspan, if_neg (by omega), if_neg (by omega), if_pos hnone.symm, mk.injEq]
        omega

/-- A later instant is in the calendar up to its last second. -/
theorem inCalendar_addMinutes_iff (h : t.InCalendar) (hminutes : 0 ≤ minutes) :
    (t.addMinutes minutes).InCalendar ↔ t.second + 60 * minutes ≤ lastSecond := by
  simp only [InCalendar, dayNumber, addMinutes, lastSecond] at h ⊢
  omega

/-- An instant can be moved by minutes that are a lifetime from it on. -/
theorem shift?_of_not_overruns (hcalendar : t.InCalendar) (hformed : t.WellFormed)
    (h : ¬ t.Overruns minutes) :
    t.shift? (.ofSeconds (60 * minutes)) = some (t.addMinutes minutes) := by
  obtain ⟨hminutes, _, hlast⟩ := not_overruns_iff.1 h
  rw [shift?, shift_ofSeconds hformed hminutes]
  exact if_pos ((inCalendar_addMinutes_iff hcalendar hminutes).2 hlast)

/-- An instant cannot be moved by minutes that end after the calendar. -/
theorem shift?_of_late (hcalendar : t.InCalendar) (hformed : t.WellFormed)
    (hminutes : 0 ≤ minutes) (hlate : lastSecond < t.second + 60 * minutes) :
    t.shift? (.ofSeconds (60 * minutes)) = none := by
  rw [shift?, shift_ofSeconds hformed hminutes]
  exact if_neg fun h =>
    Int.not_lt.2 ((inCalendar_addMinutes_iff hcalendar hminutes).1 h) hlate

/-- A lifetime of no minutes is over when it begins. -/
theorem addMinutes_zero_le (t : Instant) : t.addMinutes 0 ≤ t := by
  simp [le_iff, addMinutes]

/-- A lifetime of some minutes is not over when it begins. -/
theorem not_addMinutes_le (hminutes : 0 < minutes) : ¬ t.addMinutes minutes ≤ t := by
  simp only [le_iff, addMinutes]
  omega

end Instant

namespace Service

variable {t : Instant} {minutes : Int} {lifetime : Duration}

/-- A number of minutes that is accepted is the duration of these minutes. -/
theorem minutes_of_ok (h : Service.minutes minutes = .ok lifetime) :
    0 ≤ minutes ∧ lifetime = .ofSeconds (60 * minutes) := by
  unfold Service.minutes Duration.ofMinutes? at h
  split at h
  · cases h
  · next hsome =>
      refine ⟨Int.not_lt.1 hsome, ?_⟩
      split at h
      · next hmoved =>
          split at hmoved
          · cases hmoved; cases h; rfl
          · cases hmoved
      · cases h

/-- Minutes that are a lifetime are accepted. -/
theorem minutes_of_not_overruns (h : ¬ t.Overruns minutes) :
    Service.minutes minutes = .ok (.ofSeconds (60 * minutes)) := by
  obtain ⟨hminutes, hmost, _⟩ := Instant.not_overruns_iff.1 h
  have hleast : -Duration.maxSeconds ≤ 60 * minutes := by
    have hpositive : 0 ≤ Duration.maxSeconds := by decide
    omega
  rw [Service.minutes, if_neg (Int.not_lt.2 hminutes), Duration.ofMinutes?,
    if_pos ⟨hleast, hmost⟩]

/-- Minutes that are no lifetime from an instant on are refused, or make up a duration by which the
instant cannot be moved. -/
theorem minutes_of_overruns (hcalendar : t.InCalendar) (hformed : t.WellFormed)
    (h : t.Overruns minutes) :
    (∃ why, Service.minutes minutes = .error (.invalidArgument why)) ∨
      0 ≤ minutes ∧ Service.minutes minutes = .ok (.ofSeconds (60 * minutes)) ∧
        t.shift? (.ofSeconds (60 * minutes)) = none := by
  unfold Service.minutes Duration.ofMinutes?
  by_cases hminutes : minutes < 0
  · exact .inl ⟨_, if_pos hminutes⟩
  · rw [if_neg hminutes]
    by_cases hfits : -Duration.maxSeconds ≤ 60 * minutes ∧ 60 * minutes ≤ Duration.maxSeconds
    · have hlate : Instant.lastSecond < t.second + 60 * minutes := by
        unfold Instant.Overruns at h
        omega
      rw [if_pos hfits]
      exact .inr ⟨Int.not_lt.1 hminutes, rfl,
        Instant.shift?_of_late hcalendar hformed (Int.not_lt.1 hminutes) hlate⟩
    · rw [if_neg hfits]
      exact .inl ⟨_, rfl⟩

end Service

namespace Broker

variable {t : Instant} {minutes : Int}

/-- A duration of minutes leads forwards. -/
theorem not_isNegative_ofSeconds (h : 0 ≤ minutes) :
    (Duration.ofSeconds (60 * minutes)).isNegative = false := by
  refine decide_eq_false ?_
  simp only [Duration.ofSeconds]
  omega

/-- The end of a transaction's lifetime of minutes. -/
theorem expiryAfter_of_not_overruns (hcalendar : t.InCalendar) (hformed : t.WellFormed)
    (h : ¬ t.Overruns minutes) :
    expiryAfter t (.ofSeconds (60 * minutes)) = .ok (t.addMinutes minutes) := by
  have hminutes := (Instant.not_overruns_iff.1 h).1
  rw [expiryAfter, not_isNegative_ofSeconds hminutes,
    Instant.shift?_of_not_overruns hcalendar hformed h]
  rfl

/-- A transaction's lifetime that leaves the calendar is refused. -/
theorem expiryAfter_of_none {lifetime : Duration} (h : t.shift? lifetime = none) :
    ∃ why, expiryAfter t lifetime = .error (.invalidArgument why) := by
  unfold expiryAfter
  split
  · exact ⟨_, rfl⟩
  · rw [h]
    exact ⟨_, rfl⟩

end Broker

end WorkQueue
