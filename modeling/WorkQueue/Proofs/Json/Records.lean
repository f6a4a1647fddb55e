import WorkQueue.Proofs.Json.Values
import WorkQueue.Json.Record
import Mathlib.Data.List.Basic

/-!
# Records read back

What the decoders accept of what the writers write: values of each kind, and records as objects
whose members are named after the fields. Such values are plain, so that their texts are read back
first.
-/

namespace WorkQueue.Json

/-! ## Plain values -/

/-- A text is plain. -/
@[simp]
theorem plain_text (value : String) : (text value).Plain := by
  rw [text, Plain]
  rfl

/-- A natural number is plain. -/
@[simp]
theorem plain_nat (value : Nat) : (nat value).Plain := by
  rw [nat, Plain]
  exact trivial

/-- An integer is plain. -/
@[simp]
theorem plain_int (value : Int) : (int value).Plain := by
  rw [Plain]
  exact trivial

/-- A value that may be missing is plain if it is plain when it is there. -/
@[simp]
theorem plain_optional {α : Type} {write : α → Json} (h : ∀ value, (write value).Plain)
    (value : Option α) : (optional write value).Plain := by
  cases value with
  | none => rw [optional, Plain]; exact trivial
  | some value => exact h value

/-- An array of plain values is plain. -/
theorem plain_list {α : Type} {write : α → Json} (h : ∀ item, (write item).Plain)
    (items : List α) : (list write items).Plain := by
  rw [list, Plain]
  induction items with
  | nil => rw [List.map_nil, PlainItems]; exact trivial
  | cons item items ih => rw [List.map_cons, PlainItems]; exact ⟨h item, ih⟩

/-- Bytes are plain. -/
@[simp]
theorem plain_bytes (value : List UInt8) : (bytes value).Plain := by
  rw [bytes]
  exact plain_list (fun byte => plain_nat _) value

/-- A record of plain values is plain. -/
theorem plain_record {members : List (String × Json)}
    (h : ∀ member ∈ members, member.2.Plain) : (record members).Plain := by
  rw [record, Plain]
  induction members with
  | nil => rw [List.map_nil, PlainMembers]; exact trivial
  | cons member members ih =>
      rw [List.map_cons, PlainMembers]
      exact ⟨rfl, h member List.mem_cons_self,
        ih fun other hother => h other (List.mem_cons_of_mem _ hother)⟩

/-! ## Values of each kind -/

/-- A text is read back. -/
@[simp]
theorem string?_text (value : String) : (text value).string? = some value :=
  rfl

/-- A natural number is read back if it is below the limit. -/
theorem natBelow?_nat {limit value : Nat} (h : value < limit) :
    (nat value).natBelow? limit = some value :=
  if_pos h

/-- An integer is read back if it is in the range. -/
theorem intIn?_int {low high value : Int} (h : low ≤ value ∧ value ≤ high) :
    (int value).intIn? low high = some value :=
  if_pos h

/-- Bytes are read back. -/
theorem bytes?_bytes (value : List UInt8) : (bytes value).bytes? = some value := by
  rw [bytes, bytes?, list, list?]
  induction value with
  | nil => rfl
  | cons byte rest ih =>
      have hbyte : (nat byte.toNat).byte? = some byte := by
        rw [byte?, natBelow?_nat byte.toNat_lt, Option.map_some, UInt8.ofNat_toNat]
      rw [List.map_cons, List.mapM_cons, hbyte, ih]
      rfl

/-- A value that may be missing is read back as it is when it is there, as long as it is not written
as null. -/
theorem nullable?_optional {α : Type} {write : α → Json} {decode : Json → Option α}
    {value : Option α}
    (h : ∀ given, value = some given → write given ≠ .null ∧ decode (write given) = some given) :
    nullable? decode (optional write value) = some value := by
  cases value with
  | none => rfl
  | some given =>
      obtain ⟨hnull, hread⟩ := h given rfl
      rw [optional, nullable?, hread]
      · rfl
      · exact hnull

/-! ## Records -/

/-- Names that are texts are kept. -/
theorem namedMembers?_map (members : List (String × Json)) :
    namedMembers? (members.map fun (name, value) => (some name, value)) = some members := by
  induction members with
  | nil => rfl
  | cons member members ih =>
      rw [List.map_cons, namedMembers?, ih]
      rfl

/-- A record is read as one that has the members that were written, if they have the names of the
fields, each once. -/
theorem exists_record (json : Json) (names : List String) {members : List (String × Json)}
    (hjson : json = record members) (hnames : members.map Prod.fst = names)
    (hdistinct : distinct names = true) :
    ∃ found : Record,
      (∀ {α : Type} (next : Record → Option α), (json.record? names >>= next) = next found) ∧
        ∀ name value, members.lookup name = some value → found.get? name = some value := by
  have hfields : (members.filter fun (name, _) => names.contains name) = members := by
    refine List.filter_eq_self.2 fun member hmember => ?_
    rw [List.contains_iff_mem, ← hnames]
    exact List.mem_map_of_mem hmember
  have hfound : json.record? names = some ⟨false, members⟩ := by
    rw [hjson, record, record?, namedMembers?_map]
    simp only [Option.bind_eq_bind, Option.bind_some]
    rw [hfields, hnames, if_pos hdistinct]
  exact ⟨⟨false, members⟩, fun next => by rw [hfound]; rfl, fun _ _ hmember => hmember⟩

namespace Record

variable {α β : Type} (record : Record) {name : String} {json : Json} {decode : Json → Option α}

/-- A field that has to be there is read from its member. -/
theorem bind_required {value : α} (hmember : record.get? name = some json)
    (hread : decode json = some value) (next : α → Option β) :
    (record.required name decode >>= next) = next value := by
  rw [required, hmember, Option.bind_some, hread]
  rfl

/-- A field that may be null is read from its member. -/
theorem bind_optional {value : Option α} (hmember : record.get? name = some json)
    (hread : nullable? decode json = some value) (next : Option α → Option β) :
    (record.optional name decode >>= next) = next value := by
  rw [Record.optional, hmember]
  simp only [hread]
  rfl

/-- A field with a default is read from its member. -/
theorem bind_defaulted {default value : α} (hmember : record.get? name = some json)
    (hread : decode json = some value) (next : α → Option β) :
    (record.defaulted name default decode >>= next) = next value := by
  rw [defaulted, hmember]
  simp only [hread]
  rfl

end Record

end WorkQueue.Json
