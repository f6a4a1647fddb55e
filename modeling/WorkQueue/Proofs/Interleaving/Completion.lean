import WorkQueue.Proofs.Interleaving.Exclusion

/-!
# Calls come to their turn

Whoever is first in line for a lock holds it, makes its storage transaction and leaves, and so does
the next. So the calls under way can always be brought to their end without anybody giving up:
`exists_finish`. Whenever nobody has given up and nobody is in line any more, every call that has
asked for a lock has answered: `length_answers`.
-/

namespace WorkQueue

/-- Does a new call ask for a lock in the turn? -/
def Turn.isAsk : Turn → Bool
  | .ask _ _ => true
  | _ => false

namespace Traffic

variable {traffic next start : Traffic} {turn : Turn} {turns : List Turn}

/-- Has the call made its storage transaction? -/
def hasAnswered (traffic : Traffic) (taker : Taker) : Bool :=
  traffic.answers.any fun answer => answer.1 = taker

/-- The calls in line that have not made their storage transaction. -/
def unanswered (traffic : Traffic) : List (LockHandle Taker) :=
  traffic.locks.line.filter fun h => !traffic.hasAnswered h.handle

/-- Does nobody give up? Whoever leaves the line in one of the turns has answered before. -/
def Patient : List Turn → Traffic → Prop
  | [], _ => True
  | turn :: rest, traffic =>
      (∀ h ∈ traffic.locks.line, turn = .leave h.handle → traffic.hasAnswered h.handle = true) ∧
        Patient rest (traffic.after turn)

/-- Whether nobody gives up is decided turn by turn. -/
instance decidablePatient : (turns : List Turn) → (traffic : Traffic) →
    Decidable (Patient turns traffic)
  | [], _ => .isTrue trivial
  | turn :: rest, traffic =>
      have := decidablePatient rest (traffic.after turn)
      inferInstanceAs (Decidable (_ ∧ _))

/-- A call that holds its lock has answered once it has had its turn. -/
theorem hasAnswered_take {h : LockHandle Taker} (hheld : h ∈ traffic.locks.held) :
    (traffic.take h.handle).hasAnswered h.handle = true := by
  rw [take]
  cases hready : traffic.ready? h.handle with
  | none =>
      have hnone := List.find?_eq_none.1 hready h hheld
      simpa [hasAnswered] using hnone
  | some _ => exact List.any_eq_true.2 ⟨_, List.mem_concat_self, decide_eq_true rfl⟩

/-- The locks are as they were when a call has made its storage transaction. -/
@[simp]
theorem locks_take (traffic : Traffic) (taker : Taker) :
    (traffic.take taker).locks = traffic.locks := by
  rw [take]
  split <;> rfl

/-- Calls under way can be brought to their end, and none has to give up. -/
theorem exists_finish (traffic : Traffic) :
    ∃ more : List Turn, (∀ turn ∈ more, ∃ taker, turn = .take taker ∨ turn = .leave taker) ∧
      Patient more traffic ∧ (run more traffic).locks.line = [] := by
  induction hlength : traffic.locks.line.length using Nat.strongRecOn generalizing traffic with
  | ind length ih =>
      cases hline : traffic.locks.line with
      | nil => exact ⟨[], fun _ hmem => absurd hmem List.not_mem_nil, trivial, hline⟩
      | cons first rest =>
          have hheld : first ∈ traffic.locks.held := by
            rw [LockTable.mem_held, hline]
            exact List.find?_cons_of_pos (by simp)
          -- The first in line has its turn and leaves, and fewer are in line then.
          have hshorter : ((traffic.take first.handle).leave first.handle).locks.line.length <
              length := by
            rw [leave, LockTable.release, locks_take, ← hlength, hline,
              List.filter_cons_of_neg (by simp)]
            exact Nat.lt_succ_of_le (List.length_filter_le _ rest)
          obtain ⟨more, hmore, hpatient, hdone⟩ := ih _ hshorter _ rfl
          refine ⟨.take first.handle :: .leave first.handle :: more, ?_, ⟨?_, ?_, hpatient⟩, hdone⟩
          · rintro turn (_ | ⟨_, _ | ⟨_, hmem⟩⟩)
            · exact ⟨_, .inl rfl⟩
            · exact ⟨_, .inr rfl⟩
            · exact hmore turn hmem
          · exact fun _ _ hleaves => nomatch hleaves
          · intro h _ hleaves
            rw [← Turn.leave.inj hleaves]
            exact hasAnswered_take hheld

/-! ## When nobody gives up -/

/-- Calls are numbered as they come, and each has answered or has still to come to its turn. -/
structure Attended (traffic : Traffic) : Prop where
  line : traffic.Guarded fun _ => True
  answered : ∀ given ∈ traffic.answers, given.1.number < traffic.calls
  total : traffic.answers.length + traffic.unanswered.length = traffic.calls

/-- A call that asks is waited for. -/
theorem unanswered_ask (hanswered : ∀ given ∈ traffic.answers, given.1.number < traffic.calls)
    (owner : TransactionId) (queue : QueueId) :
    (traffic.ask owner queue).unanswered = traffic.unanswered ++
      [⟨⟨traffic.calls, owner⟩, queue, traffic.locks.lockFor queue⟩] := by
  have hnew : traffic.hasAnswered ⟨traffic.calls, owner⟩ = false := by
    refine List.any_eq_false.2 fun given hgiven => ?_
    rw [decide_eq_true_eq]
    intro hsame
    have hnumber := hanswered given hgiven
    rw [hsame] at hnumber
    exact Nat.lt_irrefl _ hnumber
  have hasked : (traffic.ask owner queue).hasAnswered = traffic.hasAnswered := rfl
  rw [unanswered, hasked, ask, LockTable.line_acquire, List.filter_append]
  simp [unanswered, hnew]

/-- A call that answers is not waited for any more. -/
theorem unanswered_append {h : LockHandle Taker} (answer : Except Error (Option Message))
    (broker : Broker) (hdistinct : (traffic.locks.line.map LockHandle.handle).Nodup)
    (hmem : h ∈ traffic.locks.line) :
    ({ traffic with broker, answers := traffic.answers ++ [(h.handle, answer)] } :
      Traffic).unanswered = traffic.unanswered.erase h := by
  have hsub : traffic.unanswered.Sublist traffic.locks.line := List.filter_sublist
  rw [((List.Nodup.of_map _ hdistinct).sublist hsub).erase_eq_filter, unanswered, unanswered,
    List.filter_filter]
  refine List.filter_congr fun g hg => ?_
  by_cases hsame : g = h
  · simp [hasAnswered, hsame]
  · have hother : h.handle ≠ g.handle := fun heq =>
      hsame (List.inj_on_of_nodup_map hdistinct hg hmem heq.symm)
    simp [hasAnswered, hsame, hother]

/-- Whether a call that has answered stays in line or leaves it, nobody waits for it. -/
theorem unanswered_leave {taker : Taker}
    (hpatient : ∀ h ∈ traffic.locks.line, h.handle = taker → traffic.hasAnswered h.handle = true) :
    (traffic.leave taker).unanswered = traffic.unanswered := by
  have hleft : (traffic.leave taker).hasAnswered = traffic.hasAnswered := rfl
  rw [unanswered, unanswered, hleft, leave, LockTable.release, List.filter_filter]
  refine List.filter_congr fun h hmem => ?_
  by_cases hleaves : h.handle = taker
  · rw [hpatient h hmem hleaves]
    rfl
  · simp [hleaves]

/-- Every turn in which nobody gives up leaves it so. -/
theorem Attended.after (h : traffic.Attended) (hturn : TurnsTo traffic turn next)
    (hpatient : ∀ g ∈ traffic.locks.line, turn = .leave g.handle →
      traffic.hasAnswered g.handle = true) : next.Attended := by
  have hline : next.Guarded fun _ => True := h.line.after hturn fun _ _ _ _ _ => trivial
  have htotal := h.total
  cases hturn with
  | nothing | refused | deleted | evicted | made => exact ⟨hline, h.answered, htotal⟩
  | asked owner queue =>
      refine ⟨hline, fun given hgiven => Nat.lt_succ_of_lt (h.answered given hgiven), ?_⟩
      show traffic.answers.length + (traffic.ask owner queue).unanswered.length = traffic.calls + 1
      rw [unanswered_ask h.answered, List.length_append, List.length_singleton]
      omega
  | took g answer broker hheld hnew =>
      have hmem : g ∈ traffic.locks.line := LockTable.mem_line.2 (.inl hheld)
      have hwaits : g ∈ traffic.unanswered := by
        refine List.mem_filter.2 ⟨hmem, ?_⟩
        simpa [hasAnswered] using fun taker answer hgiven => hnew (taker, answer) hgiven
      refine ⟨hline, fun given hgiven => ?_, ?_⟩
      · rcases List.mem_append.1 hgiven with hold | hlast
        · exact h.answered given hold
        · rw [List.mem_singleton.1 hlast]
          exact h.line.below g hmem
      · show (traffic.answers ++ [(g.handle, answer)]).length + _ = traffic.calls
        rw [unanswered_append answer broker h.line.distinct hmem, List.length_erase_of_mem hwaits,
          List.length_append, List.length_singleton]
        have hpositive := List.length_pos_of_mem hwaits
        omega
  | left taker =>
      have hsame : (traffic.leave taker).unanswered = traffic.unanswered :=
        unanswered_leave fun g hg hleaves => hpatient g hg (hleaves ▸ rfl)
      exact ⟨hline, h.answered, hsame ▸ htotal⟩

/-- All turns in which nobody gives up leave it so. -/
theorem Attended.run (h : start.Attended) (hpatient : Patient turns start) :
    (Traffic.run turns start).Attended := by
  induction turns generalizing start with
  | nil => exact h
  | cons turn rest ih => exact ih (h.after (turnsTo start turn) hpatient.1) hpatient.2

/-- There are as many calls more as have asked. -/
theorem calls_run (turns : List Turn) (traffic : Traffic) :
    (run turns traffic).calls = traffic.calls + turns.countP Turn.isAsk := by
  induction turns generalizing traffic with
  | nil => rfl
  | cons turn rest ih =>
      have hcalls : (traffic.after turn).calls = traffic.calls + if turn.isAsk then 1 else 0 := by
        cases turn with
        | ask | leave | delete => rfl
        | take taker =>
            rw [Traffic.after, take]
            split <;> rfl
        | evict queue =>
            rw [Traffic.after, evict]
            split <;> rfl
        | other move =>
            rw [Traffic.after, make]
            split <;> rfl
      rw [run, ih, hcalls, List.countP_cons]
      omega

/-- When calls have come that find nobody in line, nobody has given up, and all have left, then each
has answered. -/
theorem length_answers {broker : Broker} {capacity : Nat}
    (hpatient : Patient turns { broker, locks := .ofCapacity capacity })
    (hdone : (run turns { broker, locks := .ofCapacity capacity }).locks.line = []) :
    (run turns { broker, locks := .ofCapacity capacity }).answers.length =
      turns.countP Turn.isAsk := by
  have hstart : Attended { broker, locks := .ofCapacity capacity } :=
    ⟨.ofCapacity broker capacity, fun _ hmem => absurd hmem List.not_mem_nil, rfl⟩
  have htotal := (hstart.run hpatient).total
  rw [unanswered, hdone, calls_run] at htotal
  simpa using htotal

end Traffic

end WorkQueue
