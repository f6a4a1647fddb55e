import WorkQueue.Json.Basic

/-!
# Decoding values and records

Decoders from JSON values. A record is read from an object, where names decide and members with
other names are passed over, or from an array, which lists the fields in their order. A field that
is named twice is refused. Fields are of three kinds: required, optional (null and, in an object,
absence stand for no value), and defaulted (absence stands for the default).
-/

namespace WorkQueue.Json

/-- Whether a value is true or false. -/
def bool? : Json → Option Bool
  | .bool value => some value
  | _ => none

/-- The string of a value. -/
def string? : Json → Option String
  | .string text => text
  | _ => none

/-- The integer of a value, if it is in a range with both ends included. -/
def intIn? (low high : Int) : Json → Option Int
  | .int value => if low ≤ value ∧ value ≤ high then some value else none
  | _ => none

/-- The natural number of a value, if it is below a limit. -/
def natBelow? (limit : Nat) : Json → Option Nat
  | .int (.ofNat value) => if value < limit then some value else none
  | _ => none

/-- The number of a byte. -/
def byte? (value : Json) : Option UInt8 :=
  (value.natBelow? 256).map UInt8.ofNat

/-- The items of an array, all of which a decoder accepts. -/
def list? {α : Type} (decode : Json → Option α) : Json → Option (List α)
  | .array items => items.mapM decode
  | _ => none

/-- The bytes of an array of numbers. -/
def bytes? : Json → Option (List UInt8) :=
  list? byte?

/-- A value that may be null. -/
def nullable? {α : Type} (decode : Json → Option α) : Json → Option (Option α)
  | .null => some none
  | value => (decode value).map some

/-- The fields of a record, and whether they were listed by position. -/
structure Record where
  byPosition : Bool
  fields : List (String × Json)

namespace Record

/-- The value of a field. -/
def get? (record : Record) (name : String) : Option Json :=
  record.fields.lookup name

/-- A field that has to be there. -/
def required {α : Type} (record : Record) (name : String) (decode : Json → Option α) : Option α :=
  (record.get? name).bind decode

/-- A field that may be null, and that an object need not have. -/
def optional {α : Type} (record : Record) (name : String) (decode : Json → Option α) :
    Option (Option α) :=
  match record.get? name with
  | none => if record.byPosition then none else some none
  | some value => nullable? decode value

/-- A field that need not be there. -/
def defaulted {α : Type} (record : Record) (name : String) (default : α)
    (decode : Json → Option α) : Option α :=
  match record.get? name with
  | none => some default
  | some value => decode value

end Record

/-- Does no name occur twice? -/
def distinct : List String → Bool
  | [] => true
  | name :: rest => !rest.contains name && distinct rest

/-- The members of an object under their names, unless a name is no text. -/
def namedMembers? : List (Option String × Json) → Option (List (String × Json))
  | [] => some []
  | (none, _) :: _ => none
  | (some name, value) :: rest => (namedMembers? rest).map ((name, value) :: ·)

/-- The record with these fields that a value denotes. -/
def record? (names : List String) : Json → Option Record
  | .object members => do
      let members ← namedMembers? members
      let fields := members.filter fun (name, _) => names.contains name
      if distinct (fields.map Prod.fst) then some ⟨false, fields⟩ else none
  | .array items =>
      if items.length ≤ names.length then some ⟨true, names.zip items⟩ else none
  | _ => none

/-- A choice between words: a string, or an object with the word as its one member, which is
null. -/
def word? {α : Type} (ofWord : String → Option α) : Json → Option α
  | .string (some word) => ofWord word
  | .object [(some word, .null)] => ofWord word
  | _ => none

end WorkQueue.Json
