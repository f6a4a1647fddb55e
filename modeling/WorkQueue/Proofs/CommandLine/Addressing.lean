import WorkQueue.Proofs.CommandLine.QueueCommands
import WorkQueue.Proofs.Queues.Identity
import WorkQueue.Proofs.Text.Digits

/-!
# Queues on the command line

A word for a queue is its number, if the word is a number, and else its name. So a queue that has
just been created is addressed by the word that it was created with, unless that is a number: then
the word addresses the queue with that number, if there is one, whatever the new queue is called.
This is `created_queue_addressed`.
-/

namespace WorkQueue

namespace CommandLine

/-! ## Words -/

/-- Is the word a run of digits that stands for a number of 64 bits? -/
def IsNumber (word : String) : Prop :=
  word.toList ≠ [] ∧ Text.AllDigits word.toList ∧ Text.decimalValue word.toList < UInt64.size

/-- Whether a word is a number is seen from its characters. -/
instance (word : String) : Decidable (IsNumber word) :=
  have : Decidable (Text.AllDigits word.toList) := List.decidableBAll _ _
  inferInstanceAs (Decidable (_ ≠ [] ∧ Text.AllDigits word.toList ∧ _ < _))

variable {word : String}

/-- A word without a sign is read as the number that its digits stand for. -/
theorem natural_eq_some_iff {n : Nat} (hsign : word.toList.head? ≠ some '+') :
    natural word = some n ↔ IsNumber word ∧ n = Text.decimalValue word.toList := by
  have hread : natural word = some n ↔ Text.readNat UInt64.size word.toList = .ok n := by
    unfold natural
    cases Text.readNat UInt64.size word.toList <;> simp [Except.toOption]
  rw [hread, Text.readNat_eq_ok_iff (by decide) hsign, IsNumber]
  constructor
  · intro ⟨hnil, hdigits, hvalue, hlimit⟩
    exact ⟨⟨hnil, hdigits, hvalue ▸ hlimit⟩, hvalue⟩
  · intro ⟨⟨hnil, hdigits, hlimit⟩, hvalue⟩
    exact ⟨hnil, hdigits, hvalue, hvalue ▸ hlimit⟩

/-- A number addresses the queue with that number. -/
theorem queueRef_of_isNumber (h : IsNumber word) :
    queueRef word = .byId ⟨Text.decimalValue word.toList⟩ := by
  have hsign : word.toList.head? ≠ some '+' := by
    intro hplus
    have hc := h.2.1 '+' (List.mem_of_head? hplus)
    revert hc
    decide
  rw [queueRef, (natural_eq_some_iff hsign).2 ⟨h, rfl⟩]

/-- A word that is no number, and has no sign, addresses the queue with that name. -/
theorem queueRef_of_not_isNumber (hsign : word.toList.head? ≠ some '+') (h : ¬ IsNumber word) :
    queueRef word = .byName word := by
  have hnone : natural word = none := by
    rw [Option.eq_none_iff_forall_not_mem]
    intro n hn
    exact h ((natural_eq_some_iff hsign).1 hn).1
  rw [queueRef, hnone]

/-- A text that writes a name does not begin with a sign. -/
theorem head?_ne_plus_of_ofText {name : QueueName} (h : QueueName.ofText word = .ok name) :
    word.toList.head? ≠ some '+' := by
  obtain ⟨_, hnil, hchars⟩ := QueueName.ofText_eq_ok_iff.1 h
  have hstrips := Text.stripsTo_trim word.toList
  obtain ⟨before, after, hparts, hblank, _⟩ := hstrips.parts
  intro hplus
  rw [hparts] at hplus
  cases before with
  | cons c rest =>
      cases hplus
      have hc := hblank '+' List.mem_cons_self
      revert hc
      decide
  | nil =>
      cases htrim : Text.trim word.toList with
      | nil => exact hnil htrim
      | cons c rest =>
          rw [htrim] at hplus hchars
          cases hplus
          have hc := hchars '+' List.mem_cons_self
          revert hc
          decide

end CommandLine

/-! ## New queues -/

namespace Store

variable {store : Store}

/-- The text that a new queue was named by means that queue. -/
theorem meant_addQueue {text : String} {name : QueueName} (hname : QueueName.ofText text = .ok name)
    (hfree : store.queueNamed? name = none) :
    ((Change.addQueue name).apply store).meant (.byName text) =
      .ok ⟨⟨store.lastQueue + 1⟩, name.display⟩ := by
  refine meant_eq_ok_iff.2 ⟨.named name, ?_, ?_⟩
  · rw [QueueAddress.ofRef, hname]
    rfl
  · show ((Change.addQueue name).apply store).queueNamed? name = _
    rw [queueNamed?, Change.queues_addQueue, List.find?_append]
    rw [queueNamed?] at hfree
    rw [hfree]
    simp [QueueName.key]

end Store

namespace CommandLine

open CommandLine.Script

variable {store : Store} {word : String}

/-- A number addresses the queue that has it. -/
theorem addresses_of_isNumber (hsound : store.Sound) (h : IsNumber word) {queue : Queue}
    (hqueue : queue ∈ store.queues) (hvalue : queue.id.value = Text.decimalValue word.toList) :
    Addresses store word queue := by
  refine addresses_of_meant hsound ?_
  rw [queueRef_of_isNumber h, ← hvalue]
  exact hsound.numbered.meant_byId hqueue

/-- A number that no queue has addresses none. -/
theorem addressesNone_of_isNumber (h : IsNumber word)
    (hnone : ∀ queue ∈ store.queues, queue.id.value ≠ Text.decimalValue word.toList) :
    AddressesNone store word := by
  have hmeant : store.meant (queueRef word) =
      .error (.notFound (QueueId.display ⟨Text.decimalValue word.toList⟩)) := by
    rw [queueRef_of_isNumber h]
    exact Store.meant_byId_of_none fun queue hqueue hid =>
      hnone queue hqueue (congrArg QueueId.value hid)
  exact addressesNone_of_meant hmeant

/-- What holds when a queue has been created: the text was a name that no queue had, and the queue
has been added. -/
theorem run_createQueue {text : String} {session left : Session}
    (h : (Command.createQueue text).script.run session = (.ok (), left)) :
    ∃ name, QueueName.ofText text = .ok name ∧
      (Change.addQueue name).Allowed session.broker.store ∧
      left.broker.store = (Change.addQueue name).apply session.broker.store ∧
      left.output = session.output ++
        ("Created: " ++ QueueId.display ⟨session.broker.store.lastQueue + 1⟩) ++ "\n" := by
  obtain ⟨id, created, hchange, hprint⟩ := exists_of_run_bind h
  obtain ⟨after, hreply, rfl⟩ := run_of_run_change hchange
  have hrun : (Move.createQueue text).call.run session.broker = (.ok id, after) :=
    Service.run_of_run_reply hreply
  obtain ⟨change, hallowed, hcomes, hstore⟩ := (Move.createQueue text).explained session.broker
  rw [hrun] at hcomes hstore
  cases hprint
  cases hcomes with
  | looked _ _ hlook => cases hlook
  | queueCreated _ name hname => exact ⟨name, hname, hallowed, hstore, rfl⟩

/-- What a run answers that went well, its script has done. -/
theorem Plan.exists_of_run_ran {plan : Plan} {clock : Instant} {store after : Store}
    {readOnly : Bool} {output errors : String}
    (h : plan.run clock store readOnly = (.ran 0 output errors, after)) :
    ∃ left, plan.command.script.run (plan.firstSession clock store readOnly) = (.ok (), left) ∧
      left.output = output ∧ left.broker.store = after := by
  rw [Plan.run_eq, Plan.carryOut] at h
  rcases hrun : plan.command.script.run (plan.firstSession clock store readOnly) with
    ⟨reason | ⟨⟩, left⟩
  all_goals rw [hrun] at h
  · cases h
  · cases h
    exact ⟨left, rfl, rfl, rfl⟩

/-- After every run of the broker, a run of the program that creates a queue adds a queue behind the
others, and prints its number. The word that it was created with addresses this queue, unless the
word is a number. A number addresses the queue that has it, new or not, and if no queue has it, then
none. -/
theorem created_queue_addressed (broker : Broker) (moves : List Move) {creating : Plan}
    {raw output errors : String} {clock : Instant} {readOnly : Bool} {made : Store}
    (hcommand : creating.command = .createQueue raw)
    (hcreated : creating.run clock (Broker.play moves broker.emptied).store readOnly =
      (.ran 0 output errors, made)) :
    ∃ queue, QueueName.ofText raw = .ok ⟨queue.name⟩ ∧
      made.queues = (Broker.play moves broker.emptied).store.queues ++ [queue] ∧
      output = "Created: " ++ queue.id.display ++ "\n" ∧
      (¬ IsNumber raw → Addresses made raw queue) ∧
      (IsNumber raw →
        (∀ other ∈ made.queues, other.id.value = Text.decimalValue raw.toList →
          Addresses made raw other) ∧
        ((∀ other ∈ made.queues, other.id.value ≠ Text.decimalValue raw.toList) →
          AddressesNone made raw)) := by
  generalize hreached : (Broker.play moves broker.emptied).store = reached at hcreated ⊢
  have hsound : reached.Sound := hreached ▸ Broker.play_sound broker moves
  obtain ⟨left, hrun, rfl, rfl⟩ := Plan.exists_of_run_ran hcreated
  rw [hcommand] at hrun
  obtain ⟨name, hname, hallowed, hmade, houtput⟩ := run_createQueue hrun
  replace hallowed : (Change.addQueue name).Allowed reached := hallowed
  replace hmade : left.broker.store = (Change.addQueue name).apply reached := hmade
  have hsound' := Change.sound_apply hallowed hsound
  rw [hmade]
  refine ⟨⟨⟨reached.lastQueue + 1⟩, name.display⟩, hname, Change.queues_addQueue reached name,
    houtput, ?_, ?_⟩
  · intro hnumber
    refine addresses_of_meant hsound' ?_
    rw [queueRef_of_not_isNumber (head?_ne_plus_of_ofText hname) hnumber]
    exact Store.meant_addQueue hname hallowed.1
  · intro hnumber
    exact ⟨fun other hother hvalue => addresses_of_isNumber hsound' hnumber hother hvalue,
      addressesNone_of_isNumber hnumber⟩

/-- A plan to carry out a command. -/
def planFor (command : Command) : Plan where
  command
  config := {
    databaseUrl := "sqlite:queues.db"
    otelEndpoint := none
    logLevel := "info"
    sweepIntervalSeconds := 60
    maxConnections := 5
    lockTableCapacity := 16 }
  target := { path := Text.writeUtf8 "queues.db" }

/-- A queue whose name is no number is addressed by the word that it was created with, blanks
included. -/
theorem created_queue_addressed_orders :
    let reached := (Broker.play [.createQueue "1"] (Broker.emptied { clock := ⟨0, 0⟩ })).store
    let made := ((planFor (.createQueue " Orders ")).run ⟨0, 0⟩ reached false).2
    Addresses made " Orders " ⟨⟨2⟩, "Orders"⟩ ∧
      (planFor (.queueInfo " Orders ")).run ⟨0, 0⟩ made false =
        (.ran 0 "ID        NAME\n2         Orders\n" "", made) ∧
      ((planFor (.deleteQueue " Orders ")).run ⟨0, 0⟩ made false).2.queues = [⟨⟨1⟩, "1"⟩] := by
  intro reached made
  have hcommand : (planFor (.createQueue " Orders ")).command = .createQueue " Orders " := rfl
  have hcreated : (planFor (.createQueue " Orders ")).run ⟨0, 0⟩ reached false =
      (.ran 0 "Created: queue#2\n" "", made) := by decide +kernel
  obtain ⟨queue, _, _, _, haddresses, _⟩ :=
    created_queue_addressed { clock := ⟨0, 0⟩ } [.createQueue "1"] hcommand hcreated
  have hqueue := haddresses (by decide +kernel)
  have hmeant : made.meant (queueRef " Orders ") = .ok ⟨⟨2⟩, "Orders"⟩ := by decide +kernel
  obtain rfl := Except.ok.inj (hqueue.meant.symm.trans hmeant)
  exact ⟨hqueue, by decide +kernel, by decide +kernel⟩

/-- A queue whose name is the number of another queue is not addressed by it: the word shows the
other queue, and deletes it. -/
theorem created_queue_not_addressed :
    let reached := (Broker.play [.createQueue "orders"] (Broker.emptied { clock := ⟨0, 0⟩ })).store
    let made := ((planFor (.createQueue "1")).run ⟨0, 0⟩ reached false).2
    (planFor (.createQueue "1")).run ⟨0, 0⟩ reached false =
        (.ran 0 "Created: queue#2\n" "", made) ∧
      (planFor (.queueInfo "1")).run ⟨0, 0⟩ made false =
        (.ran 0 "ID        NAME\n1         orders\n" "", made) ∧
      ((planFor (.deleteQueue "1")).run ⟨0, 0⟩ made false).2.queues = [⟨⟨2⟩, "1"⟩] ∧
      ¬ Addresses made "1" ⟨⟨2⟩, "1"⟩ := by
  intro reached made
  have hmeant : made.meant (queueRef "1") = .ok ⟨⟨1⟩, "orders"⟩ := by decide +kernel
  refine ⟨by decide +kernel, by decide +kernel, by decide +kernel, ?_⟩
  intro h
  cases h.meant.symm.trans hmeant

end CommandLine

end WorkQueue
