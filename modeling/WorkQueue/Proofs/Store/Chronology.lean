import WorkQueue.Proofs.Store.Numbers

/-!
# The order in which messages were added

Messages stand in the store in the order in which they were added: their numbers are among those
that adding has answered, in that order (`messages_sublist_additions`). They also have the instants
at which they were added in that order, as long as the clock is never set back, for then no message
was added later than the clock shows when the next one comes (`chronological_play`). Messages that
were taken and given back have kept their places and their instants.
-/

namespace WorkQueue

/-- An instant up to another is up to every later one. -/
theorem Instant.le_trans {a b c : Instant} (hab : a ≤ b) (hbc : b ≤ c) : a ≤ c := by
  rw [le_iff] at *
  omega

/-- Messages of one content were added at one instant. -/
theorem Message.addTime_eq_of_content {a b : Message} (h : a.content = b.content) :
    a.addTime = b.addTime := by
  show a.content.addTime = b.content.addTime
  rw [h]

/-- Where some messages go and the others keep their numbers, these numbers stay in their order. -/
theorem map_id_filterMap_sublist (after : Message → Option Message)
    (h : ∀ m kept, after m = some kept → kept.id = m.id) (messages : List Message) :
    ((messages.filterMap after).map Message.id).Sublist (messages.map Message.id) := by
  induction messages with
  | nil => exact List.Sublist.refl _
  | cons m rest ih =>
      cases hafter : after m with
      | none =>
          rw [List.filterMap_cons_none hafter]
          exact ih.cons m.id
      | some kept =>
          rw [List.filterMap_cons_some hafter, List.map_cons, List.map_cons, h m kept hafter]
          exact ih.cons_cons m.id

/-- The numbers of the messages that a change adds are those that adding answers. -/
theorem Change.map_id_newMessages (change : Change) (store : Store) :
    (change.newMessages store).map Message.id =
      ((change.addition? store).map Prod.fst).toList := by
  cases change <;> rfl

/-- A message is added at the instant that the clock shows. -/
theorem ComesTo.addTime_eq {store : Store} {now : Instant} {move : Move}
    {answer : Except Error move.Answer} {draft : MessageDraft}
    (h : ComesTo store now move answer (.add draft)) : draft.addTime = now := by
  cases h
  rfl

namespace Store

/-- Are the messages in the order of the instants at which they were added, none of them later than
an instant? -/
structure Chronological (store : Store) (now : Instant) : Prop where
  sorted : store.messages.Pairwise fun a b => a.addTime ≤ b.addTime
  le_now : ∀ m ∈ store.messages, m.addTime ≤ now

/-- There are no messages in the empty store. -/
theorem chronological_empty (now : Instant) : Chronological {} now := by
  constructor
  · exact List.Pairwise.nil
  · intro m hm
    cases hm

namespace Chronological

variable {store : Store} {now : Instant}

/-- No message is later than a later instant. -/
theorem later (h : store.Chronological now) {next : Instant} (hnext : now ≤ next) :
    store.Chronological next where
  sorted := h.sorted
  le_now m hm := Instant.le_trans (h.le_now m hm) hnext

/-- A change that adds a message, if any, at the instant, leaves the messages in the order of their
instants. -/
theorem apply (h : store.Chronological now) {change : Change}
    (hadds : ∀ draft, change = .add draft → draft.addTime = now) :
    (change.apply store).Chronological now := by
  have hnew : ∀ m ∈ change.newMessages store, m.addTime = now := by
    intro m hm
    cases change with
    | add draft =>
        rw [List.mem_singleton.1 hm]
        exact hadds draft rfl
    | _ => cases hm
  have hkept : ∀ m old, change.messageAfter store old = some m → m.addTime = old.addTime := by
    intro m old hafter
    exact Message.addTime_eq_of_content (Change.content_messageAfter hafter)
  constructor
  · show (store.messages.filterMap (change.messageAfter store) ++
      change.newMessages store).Pairwise _
    refine List.pairwise_append.2 ⟨?_, ?_, ?_⟩
    · refine h.sorted.filterMap _ ?_
      intro a b hle m hm n hn
      rw [hkept m a hm, hkept n b hn]
      exact hle
    · cases change with
      | add draft => exact List.pairwise_singleton _ _
      | _ => exact List.Pairwise.nil
    · intro m hm new hadded
      obtain ⟨old, hold, hafter⟩ := List.mem_filterMap.1 hm
      rw [hkept m old hafter, hnew new hadded]
      exact h.le_now old hold
  · intro m hm
    rcases Change.mem_messages_apply.1 hm with ⟨old, hold, hafter⟩ | hadded
    · rw [hkept m old hafter]
      exact h.le_now old hold
    · rw [hnew m hadded, Instant.le_iff]
      omega

end Chronological

end Store

namespace Broker

/-- The messages that were added in some steps, in the order in which they were added. -/
def additions (steps : List Step) : List MessageId :=
  steps.filterMap fun step => step.addition?.map Prod.fst

/-- After every run the messages stand in the order in which they were added. -/
theorem messages_sublist_additions (broker : Broker) (moves : List Move) :
    ((play moves broker.emptied).store.messages.map Message.id).Sublist
      (additions (trace moves broker.emptied)) := by
  have hstart : (broker.emptied.store.messages.map Message.id).Sublist (additions []) :=
    List.Sublist.refl []
  refine play_invariant
    (fun steps broker => (broker.store.messages.map Message.id).Sublist (additions steps))
    hstart ?_ moves
  intro steps before move h
  obtain ⟨change, _, hcomes, hstore⟩ := Step.explained ⟨before, move⟩
  have hadded : additions (steps ++ [⟨before, move⟩]) =
      additions steps ++ (change.newMessages before.store).map Message.id := by
    rw [change.map_id_newMessages, ← hcomes.addition_eq, additions, List.filterMap_append]
    rfl
  have hkept := map_id_filterMap_sublist (change.messageAfter before.store)
    (fun m kept hafter => Message.id_eq_of_content (Change.content_messageAfter hafter))
    before.store.messages
  show ((Step.after ⟨before, move⟩).store.messages.map Message.id).Sublist _
  rw [hstore, hadded]
  show ((before.store.messages.filterMap (change.messageAfter before.store) ++
    change.newMessages before.store).map Message.id).Sublist _
  rw [List.map_append]
  exact (hkept.trans h).append (List.Sublist.refl _)

/-- After every run along which the clock was never set back, the messages stand in the order of the
instants at which they were added, none of which is later than the clock shows. -/
theorem chronological_play (broker : Broker) (moves : List Move)
    (hforward : ∀ step ∈ trace moves broker.emptied, step.before.clock ≤ step.after.clock) :
    (play moves broker.emptied).store.Chronological (play moves broker.emptied).clock := by
  refine play_invariant
    (fun steps broker => (∀ step ∈ steps, step.before.clock ≤ step.after.clock) →
      broker.store.Chronological broker.clock)
    (fun _ => Store.chronological_empty _) ?_ moves hforward
  intro steps before move h hsteps
  obtain ⟨hearlier, hlast⟩ := List.forall_mem_append.1 hsteps
  have hbefore : before.store.Chronological before.clock := h hearlier
  have hclock : before.clock ≤ (move.after before).clock :=
    hlast ⟨before, move⟩ (List.mem_singleton.2 rfl)
  obtain ⟨change, _, hcomes, hstore⟩ := Step.explained ⟨before, move⟩
  have hafter : (change.apply before.store).Chronological before.clock := by
    refine hbefore.apply ?_
    intro draft hadd
    subst hadd
    exact hcomes.addTime_eq
  show (Step.after ⟨before, move⟩).store.Chronological (move.after before).clock
  rw [hstore]
  exact hafter.later hclock

end Broker

end WorkQueue
