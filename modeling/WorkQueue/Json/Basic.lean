/-!
# JSON values

The values that a JSON text denotes. Whole numbers are kept exactly. A number with a fraction or
an exponent, and the number `-0`, are kept as they are written, since nothing on the wire is such
a number. A string literal may name half of a surrogate pair, which no text contains; such a
literal is `none`.
-/

namespace WorkQueue

/-- A JSON value. The members of an object keep their order and their repetitions. -/
inductive Json where
  | null
  | bool (value : Bool)
  | int (value : Int)
  | decimal (written : List Char)
  | string (text : Option String)
  | array (items : List Json)
  | object (members : List (Option String × Json))

namespace Json

/-- A string. -/
def text (value : String) : Json :=
  .string (some value)

/-- A natural number. -/
def nat (value : Nat) : Json :=
  .int value

/-- An object with these members. -/
def record (members : List (String × Json)) : Json :=
  .object (members.map fun (name, value) => (some name, value))

/-- A value that may be missing, which is written as null. -/
def optional {α : Type} (write : α → Json) : Option α → Json
  | none => .null
  | some value => write value

/-- An array of values that one writer writes. -/
def list {α : Type} (write : α → Json) (items : List α) : Json :=
  .array (items.map write)

/-- Bytes are written as an array of numbers. -/
def bytes : List UInt8 → Json :=
  list fun byte => .nat byte.toNat

end Json

end WorkQueue
