import Mathlib.Data.List.Permutation
import WorkQueue.Proofs.Wire.RoundTrip

/-!
# Requests with some of their fields

A request to add a message is read from an object by the names of its members, whatever their order
and whatever members with other names stand between them, and from an array by the places of its
items. Either way the request depends on which fields are given only. The fields after the payload
have defaults. A text is parsed as a JSON value exactly if it denotes the value, and as none if it
denotes no value: `Json.parse?_eq_some_iff` and `Json.parse?_eq_none_iff`.
-/

namespace WorkQueue

namespace Json

/-! ## Fields under their names -/

variable {α : Type} {name : String}

/-- Names are found distinct when none of them occurs twice. -/
theorem distinct_iff_nodup {names : List String} : distinct names = true ↔ names.Nodup := by
  induction names with
  | nil => simp [distinct]
  | cons name rest ih => simp [distinct, ih]

/-- Under names that are distinct, what is found is what is there. -/
theorem lookup_eq_some_iff_mem {fields : List (String × α)} {value : α}
    (h : (fields.map Prod.fst).Nodup) :
    fields.lookup name = some value ↔ (name, value) ∈ fields := by
  rw [List.lookup_eq_some_iff]
  constructor
  · rintro ⟨before, after, rfl, _⟩
    exact List.mem_append_right before List.mem_cons_self
  · intro hmem
    obtain ⟨before, after, rfl⟩ := List.append_of_mem hmem
    refine ⟨before, after, rfl, fun field hfield => ?_⟩
    rw [List.map_append, List.map_cons, List.nodup_middle, List.nodup_cons] at h
    have hother : field.1 ≠ name := fun hsame =>
      h.1 (List.mem_append_left _ (List.mem_map.2 ⟨field, hfield, hsame⟩))
    simpa using hother.symm

/-- Under names that are distinct the order of fields does not matter. -/
theorem lookup_eq_of_perm {fields others : List (String × α)} (hperm : fields.Perm others)
    (h : (others.map Prod.fst).Nodup) (name : String) :
    fields.lookup name = others.lookup name := by
  have hfields : (fields.map Prod.fst).Nodup := (hperm.map Prod.fst).nodup_iff.2 h
  refine Option.ext fun value => ?_
  rw [lookup_eq_some_iff_mem hfields, lookup_eq_some_iff_mem h, hperm.mem_iff]

/-- The fields that have values. -/
def present (fields : List (String × Option α)) : List (String × α) :=
  fields.filterMap fun (name, value?) => value?.map fun value => (name, value)

/-- The fields that have values are some of the fields. -/
theorem map_fst_present_sublist (fields : List (String × Option α)) :
    ((present fields).map Prod.fst).Sublist (fields.map Prod.fst) := by
  induction fields with
  | nil => exact .refl _
  | cons field rest ih =>
      obtain ⟨name, _ | value⟩ := field
      · exact ih.cons name
      · exact ih.cons_cons name

/-- Under names that are distinct a value is found if the field has one. -/
theorem lookup_present {fields : List (String × Option α)} (h : (fields.map Prod.fst).Nodup) :
    (present fields).lookup name = (fields.lookup name).join := by
  induction fields with
  | nil => rfl
  | cons field rest ih =>
      obtain ⟨other, value?⟩ := field
      rw [List.map_cons, List.nodup_cons] at h
      have hrest := ih h.2
      by_cases hsame : name = other
      · subst hsame
        have hnone : (present rest).lookup name = none := by
          refine List.lookup_eq_none_iff.2 fun found hfound => ?_
          have hmem := (map_fst_present_sublist rest).subset (List.mem_map_of_mem hfound)
          simpa using fun heq : name = found.1 => h.1 (heq ▸ hmem)
        cases value? with
        | none => simpa [present] using hnone
        | some value => simp [present]
      · have hother : (name == other) = false := by simpa using hsame
        cases value? <;> simpa [present, List.lookup_cons, hother] using hrest

/-! ## Objects and arrays as records -/

/-- Members that are kept have names that are texts. -/
theorem eq_map_of_namedMembers? {objects : List (Option String × Json)}
    {members : List (String × Json)} (h : namedMembers? objects = some members) :
    objects = members.map fun (name, value) => (some name, value) := by
  induction objects generalizing members with
  | nil =>
      cases h
      rfl
  | cons member rest ih =>
      obtain ⟨_ | name, value⟩ := member
      · cases h
      · rw [namedMembers?] at h
        obtain ⟨kept, hkept, rfl⟩ := Option.map_eq_some_iff.1 h
        rw [ih hkept]
        rfl

/-- The members of an object that have the names of fields. -/
def known (names : List String) (members : List (String × Json)) : List (String × Json) :=
  members.filter fun (name, _) => names.contains name

/-- A field that is among the known members is as often among all members. -/
theorem count_known {names : List String} (h : name ∈ names) (members : List (String × Json)) :
    ((known names members).map Prod.fst).count name = (members.map Prod.fst).count name := by
  have hnames : (known names members).map Prod.fst =
      (members.map Prod.fst).filter fun name => names.contains name := by
    rw [known, List.filter_map]
    rfl
  rw [hnames, List.count_filter (List.contains_iff_mem.2 h)]

/-- An object is a record if no field is named twice. -/
theorem record?_record {names : List String} {members : List (String × Json)}
    (h : ((known names members).map Prod.fst).Nodup) :
    (record members).record? names = some ⟨false, known names members⟩ := by
  rw [record, record?, namedMembers?_map]
  exact if_pos (distinct_iff_nodup.2 h)

/-- An object that is a record has members whose names are texts, and names no field twice. -/
theorem exists_members_of_record? {names : List String} {objects : List (Option String × Json)}
    {found : Record} (h : (object objects).record? names = some found) :
    ∃ members, objects = members.map (fun (name, value) => (some name, value)) ∧
      found = ⟨false, known names members⟩ ∧ ((known names members).map Prod.fst).Nodup := by
  rw [record?] at h
  obtain ⟨members, hmembers, hfound⟩ := Option.bind_eq_some_iff.1 h
  dsimp only at hfound
  split at hfound
  · next hdistinct =>
      cases hfound
      exact ⟨members, eq_map_of_namedMembers? hmembers, rfl, distinct_iff_nodup.1 hdistinct⟩
  · cases hfound

/-- An array that lists some fields from the first one on is a record of them. -/
theorem record?_array {names : List String} {fields : List (String × Json)}
    (h : fields.map Prod.fst <+: names) :
    (array (fields.map Prod.snd)).record? names = some ⟨true, fields⟩ := by
  obtain ⟨rest, rfl⟩ := h
  have hzip : (fields.map Prod.fst ++ rest).zip (fields.map Prod.snd) = fields := by
    induction fields with
    | nil => simp
    | cons field fields ih => simp [ih]
  rw [record?, hzip]
  exact if_pos (by simp)

namespace Record

variable {α β : Type} (record : Record) {name : String} {decode : Json → Option α}

/-- A field that has to be there is missed. -/
theorem required_of_none (h : record.get? name = none) : record.required name decode = none := by
  rw [required, h]
  rfl

/-- A field with a default is read from its member, if there is one. -/
theorem bind_defaulted_map {default : α} {given : Option α} {write : α → Json}
    (hmember : record.get? name = given.map write)
    (hread : ∀ value, given = some value → decode (write value) = some value)
    (next : α → Option β) :
    (record.defaulted name default decode >>= next) = next (given.getD default) := by
  cases given with
  | none =>
      rw [defaulted, hmember]
      rfl
  | some value => exact record.bind_defaulted hmember (hread value rfl) next

end Record

end Json

open Json

/-- The fields of a request that are given. The first three always are. -/
structure GivenFields where
  transaction : TransactionId
  queue : QueueId
  payload : List UInt8
  metadata : Option String := none
  priority : Option Int := none
  maxAttempts : Option Nat := none
  /-- The minutes may be given as missing. -/
  expiryMinutes : Option (Option Int) := none
  correlation : Option Int := none
  /-- The group may be given as missing. -/
  group : Option (Option String) := none
  deriving DecidableEq, Repr

namespace GivenFields

/-- The request with the fields that are given, and the defaults. -/
def request (given : GivenFields) : MessageRequest where
  transaction := given.transaction
  queue := given.queue
  payload := given.payload
  metadata := given.metadata.getD ""
  priority := given.priority.getD 0
  maxAttempts := given.maxAttempts.getD 3
  expiryMinutes := given.expiryMinutes.getD none
  correlation := given.correlation.getD 0
  group := given.group.getD none

/-- The fields of a request in their order, with the values of those that are given. -/
def fields (given : GivenFields) : List (String × Option Json) :=
  [("transaction_id", some given.transaction.toJson),
    ("queue_id", some given.queue.toJson),
    ("payload", some (.bytes given.payload)),
    ("metadata", given.metadata.map Json.text),
    ("priority", given.priority.map Json.int),
    ("max_attempts", given.maxAttempts.map Json.nat),
    ("expiry_minutes", given.expiryMinutes.map (Json.optional Json.int)),
    ("correlation_id", given.correlation.map Json.int),
    ("group_name", given.group.map (Json.optional Json.text))]

/-- The fields that are given, in their order. -/
def members (given : GivenFields) : List (String × Json) :=
  present given.fields

/-- The fields have different names. -/
theorem nodup_fields (given : GivenFields) : (given.fields.map Prod.fst).Nodup := by
  show MessageRequest.fieldNames.Nodup
  decide

/-- No field is given twice. -/
theorem nodup_members (given : GivenFields) : (given.members.map Prod.fst).Nodup :=
  given.nodup_fields.sublist (map_fst_present_sublist given.fields)

/-- A field is found if it is given. -/
theorem lookup_members (given : GivenFields) {name : String} {value? : Option Json}
    (h : given.fields.lookup name = some value?) : given.members.lookup name = value? := by
  rw [members, lookup_present given.nodup_fields, h]
  rfl

/-- A request is decoded from any record that has the fields that are given. -/
theorem ofJson?_of_record (given : GivenFields) (h : given.request.OnWire) {json : Json}
    {record : Record} (hrecord : json.record? MessageRequest.fieldNames = some record)
    (hfields : record.fields.Perm given.members) :
    MessageRequest.ofJson? json = some given.request := by
  have hget (name : String) {value? : Option Json}
      (hfield : given.fields.lookup name = some value?) : record.get? name = value? :=
    (lookup_eq_of_perm hfields given.nodup_members name).trans (given.lookup_members hfield)
  have hpriority (value : Int) (hvalue : given.priority = some value) :
      (int value).smallInt? = some value :=
    smallInt?_int (by simpa only [request, hvalue, Option.getD_some] using h.priority)
  have hattempts (value : Nat) (hvalue : given.maxAttempts = some value) :
      (nat value).smallCount? = some value :=
    smallCount?_nat (by simpa only [request, hvalue, Option.getD_some] using h.maxAttempts)
  have hexpiry (value : Option Int) (hvalue : given.expiryMinutes = some value) :
      nullable? wideInt? (optional Json.int value) = some value := by
    have hfits := h.expiryMinutes
    simp only [request, hvalue, Option.getD_some] at hfits
    exact nullable?_optional fun minutes hminutes => ⟨nofun, wideInt?_int (hfits minutes hminutes)⟩
  have hcorrelation (value : Int) (hvalue : given.correlation = some value) :
      (int value).wideInt? = some value :=
    wideInt?_int (by simpa only [request, hvalue, Option.getD_some] using h.correlation)
  rw [MessageRequest.ofJson?, hrecord, Option.bind_eq_bind, Option.bind_some,
    record.bind_required (hget "transaction_id" rfl)
      (TransactionId.ofJson?_toJson h.transaction),
    record.bind_required (hget "queue_id" rfl) (QueueId.ofJson?_toJson h.queue),
    record.bind_required (hget "payload" rfl) (bytes?_bytes given.payload),
    record.bind_defaulted_map (hget "metadata" rfl) fun value _ => string?_text value,
    record.bind_defaulted_map (hget "priority" rfl) hpriority,
    record.bind_defaulted_map (hget "max_attempts" rfl) hattempts,
    record.bind_defaulted_map (hget "expiry_minutes" rfl) hexpiry,
    record.bind_defaulted_map (hget "correlation_id" rfl) hcorrelation,
    record.bind_defaulted_map (hget "group_name" rfl) fun value _ => nullable?_text value]
  rfl

end GivenFields

namespace MessageRequest

variable {objects : List (Option String × Json)} {name : String}

/-- An object that names a field twice is refused. -/
theorem ofJson?_of_repeated (hname : name ∈ fieldNames)
    (h : 2 ≤ objects.countP fun (other, _) => other = some name) :
    ofJson? (object objects) = none := by
  cases hrecord : (object objects).record? fieldNames with
  | none =>
      rw [ofJson?, hrecord]
      rfl
  | some record =>
      obtain ⟨members, rfl, _, hnodup⟩ := exists_members_of_record? hrecord
      have honce := List.nodup_iff_count_le_one.1 hnodup name
      have hcount : (members.map fun (other, value) => (some other, value)).countP
          (fun (other, _) => other = some name) = (members.map Prod.fst).count name := by
        rw [List.count, List.countP_map, List.countP_map]
        refine List.countP_congr fun member _ => ?_
        simp
      rw [count_known hname] at honce
      omega

/-- An object that lacks one of the first three fields is refused. -/
theorem ofJson?_of_missing (hname : name ∈ fieldNames.take 3)
    (h : some name ∉ objects.map Prod.fst) : ofJson? (object objects) = none := by
  rw [ofJson?]
  cases hrecord : (object objects).record? fieldNames with
  | none => rfl
  | some record =>
      obtain ⟨members, rfl, rfl, _⟩ := exists_members_of_record? hrecord
      have hmissing : (Record.mk false (known fieldNames members)).get? name = none := by
        refine List.lookup_eq_none_iff.2 fun member hmember => ?_
        have hother : name ≠ member.1 := by
          rintro rfl
          refine h (List.mem_map.2 ⟨(some member.1, member.2), ?_, rfl⟩)
          exact List.mem_map.2 ⟨member, (List.mem_filter.1 hmember).1, rfl⟩
        simpa using hother
      have hname : name = "transaction_id" ∨ name = "queue_id" ∨ name = "payload" := by
        simpa [fieldNames] using hname
      rw [Option.bind_eq_bind, Option.bind_some]
      generalize Record.mk false (known fieldNames members) = record at hmissing
      -- The fields before the one that is missed may be found or not.
      rcases hname with rfl | rfl | rfl
      · rw [record.required_of_none hmissing]
        rfl
      · rw [record.required_of_none hmissing]
        cases record.required "transaction_id" TransactionId.ofJson? <;> rfl
      · rw [record.required_of_none hmissing]
        cases record.required "transaction_id" TransactionId.ofJson? with
        | none => rfl
        | some transaction => cases record.required "queue_id" QueueId.ofJson? <;> rfl

/-- What is decoded from an object that has the fields that are given, each once and in any order,
with any members under other names between them, is the request with these fields and the defaults;
so it is for an array that lists these fields, if they are the first ones in their order. An object
that names a field twice, or lacks one of the first three, is refused. -/
theorem request_of_given_fields :
    (∀ (text : String) (members : List (String × Json)) (given : GivenFields),
        parse? text = some (.record members) →
        (members.filter fun (name, _) => fieldNames.contains name).Perm given.members →
        given.request.OnWire → decode? ofJson? text = some given.request) ∧
      (∀ (text : String) (given : GivenFields),
        parse? text = some (.array (given.members.map Prod.snd)) →
        given.members.map Prod.fst <+: fieldNames → given.request.OnWire →
        decode? ofJson? text = some given.request) ∧
      ∀ (text : String) (objects : List (Option String × Json)),
        parse? text = some (.object objects) →
        (∃ name ∈ fieldNames, 2 ≤ objects.countP fun (other, _) => other = some name) ∨
          (∃ name ∈ fieldNames.take 3, some name ∉ objects.map Prod.fst) →
        decode? ofJson? text = none := by
  refine ⟨fun text members given htext hgiven hwire => ?_,
    fun text given htext hfirst hwire => ?_, fun text objects htext hrefused => ?_⟩
  all_goals rw [decode?, htext, Option.bind_some]
  · have hdistinct : ((known fieldNames members).map Prod.fst).Nodup :=
      (hgiven.map Prod.fst).nodup_iff.2 given.nodup_members
    exact given.ofJson?_of_record hwire (record?_record hdistinct) hgiven
  · exact given.ofJson?_of_record hwire (record?_array hfirst) (.refl _)
  · rcases hrefused with ⟨name, hname, htwice⟩ | ⟨name, hname, hmissing⟩
    · exact ofJson?_of_repeated hname htwice
    · exact ofJson?_of_missing hname hmissing

/-- Members with other names may be given twice, hold numbers that no field holds, and name half of
a surrogate pair. A field that is given twice is refused whatever its values. -/
theorem request_of_given_fields_mixed :
    decode? ofJson? "\x7b\"note\": \x7b\"a\": [1.5e3]\x7d, \"group_name\": null, \"payload\": [104],
        \"queue_id\": 2, \"note\": \"\\ud800\", \"transaction_id\": 1\x7d" =
        some ⟨⟨1⟩, ⟨2⟩, [104], "", 0, 3, none, 0, none⟩ ∧
      decode? ofJson? "[1, 2, [104], \"m\"]" = some ⟨⟨1⟩, ⟨2⟩, [104], "m", 0, 3, none, 0, none⟩ ∧
      decode? ofJson? "\x7b\"transaction_id\": 1, \"queue_id\": 2, \"payload\": [],
        \"priority\": 0, \"priority\": 0\x7d" = none ∧
      decode? ofJson? "\x7b\"transaction_id\": 1, \"queue_id\": 2\x7d" = none := by
  obtain ⟨hobject, harray, hrefused⟩ := request_of_given_fields
  let given : GivenFields :=
    { transaction := ⟨1⟩, queue := ⟨2⟩, payload := [104], group := some none }
  let listed : GivenFields :=
    { transaction := ⟨1⟩, queue := ⟨2⟩, payload := [104], metadata := some "m" }
  refine ⟨hobject _ [("note", .object [(some "a", .array [.decimal "1.5e3".toList])]),
      ("group_name", .null), ("payload", .array [.int 104]), ("queue_id", .int 2),
      ("note", .string none), ("transaction_id", .int 1)] given ?_ (List.reverse_perm given.members)
      ⟨by decide, by decide, ⟨by decide, by decide⟩, by decide, nofun, ⟨by decide, by decide⟩⟩,
    harray _ listed ?_ ⟨_, rfl⟩
      ⟨by decide, by decide, ⟨by decide, by decide⟩, by decide, nofun, ⟨by decide, by decide⟩⟩,
    hrefused _ [(some "transaction_id", .int 1), (some "queue_id", .int 2),
      (some "payload", .array []), (some "priority", .int 0), (some "priority", .int 0)] ?_
      (.inl ⟨"priority", by decide, by decide⟩),
    hrefused _ [(some "transaction_id", .int 1), (some "queue_id", .int 2)] ?_
      (.inr ⟨"payload", by decide, by decide⟩)⟩
  all_goals cbv

end MessageRequest

end WorkQueue
