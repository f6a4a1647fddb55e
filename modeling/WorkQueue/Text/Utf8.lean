/-!
# Reading UTF-8

A machine that reads UTF-8 one byte at a time. Text that may be damaged is read with a
replacement character for each longest run of bytes that starts a character and cannot be
continued; text that must be whole is refused instead.
-/

namespace WorkQueue.Text

/-- The bytes still owed to a character, and the range that the next of them must be in. -/
structure Utf8Pending where
  owed : Nat
  low : Nat
  high : Nat
  bits : Nat
  deriving DecidableEq, Repr

/-- What a byte at the start of a character means. -/
inductive Utf8Start where
  | whole (c : Char)
  | pending (state : Utf8Pending)
  | refused

/-- Read the first byte of a character. -/
def utf8Start (byte : UInt8) : Utf8Start :=
  let b := byte.toNat
  if b < 0x80 then .whole (Char.ofNat b)
  else if b < 0xC2 then .refused
  else if b < 0xE0 then .pending ⟨1, 0x80, 0xBF, b - 0xC0⟩
  else if b < 0xF0 then
    .pending ⟨2, if b = 0xE0 then 0xA0 else 0x80, if b = 0xED then 0x9F else 0xBF, b - 0xE0⟩
  else if b < 0xF5 then
    .pending ⟨3, if b = 0xF0 then 0x90 else 0x80, if b = 0xF4 then 0x8F else 0xBF, b - 0xF0⟩
  else .refused

/-- Read bytes as characters, with `none` for each damaged run. The first argument is the
character that has begun, if one has. -/
def utf8Runs : Option Utf8Pending → List UInt8 → List (Option Char)
  | none, [] => []
  | some _, [] => [none]
  | none, byte :: rest =>
      match utf8Start byte with
      | .whole c => some c :: utf8Runs none rest
      | .pending state => utf8Runs (some state) rest
      | .refused => none :: utf8Runs none rest
  | some state, byte :: rest =>
      let b := byte.toNat
      if state.low ≤ b ∧ b ≤ state.high then
        let bits := state.bits * 64 + b % 64
        if state.owed ≤ 1 then some (Char.ofNat bits) :: utf8Runs none rest
        else utf8Runs (some ⟨state.owed - 1, 0x80, 0xBF, bits⟩) rest
      else
        match utf8Start byte with
        | .whole c => none :: some c :: utf8Runs none rest
        | .pending next => none :: utf8Runs (some next) rest
        | .refused => none :: none :: utf8Runs none rest

/-- The text of bytes that may be damaged. -/
def readUtf8Lossy (bytes : List UInt8) : String :=
  String.ofList ((utf8Runs none bytes).map fun c => c.getD '\uFFFD')

/-- The text of bytes that must be whole. -/
def readUtf8? (bytes : List UInt8) : Option String :=
  ((utf8Runs none bytes).mapM id).map String.ofList

/-- Where bytes stop being text. -/
structure Utf8Fault where
  /-- The number of bytes before the damaged ones. -/
  index : Nat
  /-- The number of damaged bytes, unless the text breaks off inside a character. -/
  length : Option Nat
  deriving DecidableEq, Repr

/-- Where bytes first stop being text, of bytes that do. -/
def utf8Fault (bytes : List UInt8) : Utf8Fault :=
  let whole := (utf8Runs none bytes).takeWhile Option.isSome
  let index := whole.foldr (fun c size => (c.getD '\x00').utf8Size + size) 0
  let rest := bytes.drop index
  let length := if utf8Runs none (rest.take 3) = [none] then (rest.take 3).length
    else if utf8Runs none (rest.take 2) = [none] then 2 else 1
  let breaksOff := length = rest.length && rest.head?.any fun byte =>
    match utf8Start byte with
    | .pending _ => true
    | _ => false
  ⟨index, if breaksOff then none else some length⟩

/-- The wording of a fault. -/
def Utf8Fault.message (fault : Utf8Fault) : String :=
  match fault.length with
  | some length => "invalid utf-8 sequence of " ++ toString length ++ " bytes from index " ++
      toString fault.index
  | none => "incomplete utf-8 byte sequence from index " ++ toString fault.index

/-- The bytes of a text. -/
def writeUtf8 (text : String) : List UInt8 :=
  text.toUTF8.toList

end WorkQueue.Text
