import WorkQueue.Json.Basic
import WorkQueue.Text.Digits
import WorkQueue.Text.Hex

/-!
# Reading JSON

A reader for RFC 8259: one value, with blanks around it and nothing else. Numbers have no leading
zeros, nothing follows the last comma of an array or an object, and control characters in string
literals are escaped. Each step of the readers of values takes a character of the text, so that the
count that they carry starts from the length of the text and never runs out before the text does:
`parse?_eq_none_iff`.
-/

namespace WorkQueue.Json

open Text

/-- The blanks that may stand between the tokens of a JSON text. -/
def isSpace (c : Char) : Bool :=
  c == ' ' || c == '\n' || c == '\r' || c == '\t'

/-- The rest of a text after blanks. -/
def skipSpace (text : List Char) : List Char :=
  text.dropWhile isSpace

/-- The number with four hexadecimal digits. -/
def hexUnit? (a b c d : Char) : Option Nat := do
  let a ← hexValue? a
  let b ← hexValue? b
  let c ← hexValue? c
  let d ← hexValue? d
  some (((a * 16 + b) * 16 + c) * 16 + d)

/-- The character that an escape of one letter stands for. -/
def escaped? (letter : Char) : Option Char :=
  match letter with
  | '"' => some '"'
  | '\\' => some '\\'
  | '/' => some '/'
  | 'b' => some '\x08'
  | 'f' => some '\x0c'
  | 'n' => some '\n'
  | 'r' => some '\r'
  | 't' => some '\t'
  | _ => none

/-- A part of a string literal: a character, or a unit of UTF-16 given by its number. -/
inductive Piece where
  | char (c : Char)
  | unit (number : Nat)

/-- The parts of a string literal up to its closing quote, and the rest after it. -/
def readPieces : List Char → Option (List Piece × List Char)
  | [] => none
  | '"' :: rest => some ([], rest)
  | '\\' :: 'u' :: a :: b :: c :: d :: rest => do
      let number ← hexUnit? a b c d
      let (pieces, rest) ← readPieces rest
      some (.unit number :: pieces, rest)
  | '\\' :: letter :: rest => do
      let c ← escaped? letter
      let (pieces, rest) ← readPieces rest
      some (.char c :: pieces, rest)
  | c :: rest =>
      if c.toNat < 0x20 then none
      else do
        let (pieces, rest) ← readPieces rest
        some (.char c :: pieces, rest)

/-- The characters of a literal's parts, unless a surrogate stands alone. -/
def joinPieces : List Piece → Option (List Char)
  | [] => some []
  | .char c :: rest => (joinPieces rest).map (c :: ·)
  | .unit high :: .unit low :: rest =>
      if 0xD800 ≤ high ∧ high < 0xDC00 then
        if 0xDC00 ≤ low ∧ low < 0xE000 then
          let number := 0x10000 + (high - 0xD800) * 0x400 + (low - 0xDC00)
          (joinPieces rest).map (Char.ofNat number :: ·)
        else none
      else if 0xDC00 ≤ high ∧ high < 0xE000 then none
      else (joinPieces (.unit low :: rest)).map (Char.ofNat high :: ·)
  | .unit number :: rest =>
      if 0xD800 ≤ number ∧ number < 0xE000 then none
      else (joinPieces rest).map (Char.ofNat number :: ·)

/-- A string literal after its opening quote. -/
def readLiteral (text : List Char) : Option (Option String × List Char) := do
  let (pieces, rest) ← readPieces text
  some ((joinPieces pieces).map String.ofList, rest)

/-- Is the character an ASCII digit? -/
def isDigit (c : Char) : Bool :=
  (digitValue? c).isSome

/-- The digits at the start of a text, if there is one, and the rest. -/
def readDigitRun (text : List Char) : Option (List Char × List Char) :=
  let digits := text.takeWhile isDigit
  if digits.isEmpty then none else some (digits, text.dropWhile isDigit)

/-- The whole part of a number: digits, the first of which is no zero unless it is the only one. -/
def readWhole (text : List Char) : Option (List Char × List Char) := do
  let (digits, rest) ← readDigitRun text
  match digits with
  | '0' :: _ :: _ => none
  | _ => some (digits, rest)

/-- The fraction of a number, which may be missing. -/
def readFraction (text : List Char) : Option (List Char × List Char) :=
  match text with
  | '.' :: rest => do
      let (digits, rest) ← readDigitRun rest
      some ('.' :: digits, rest)
  | _ => some ([], text)

/-- The exponent of a number, which may be missing. -/
def readExponent (text : List Char) : Option (List Char × List Char) :=
  match text with
  | mark :: rest =>
      if mark = 'e' || mark = 'E' then
        match rest with
        | sign :: after =>
            if sign = '+' || sign = '-' then do
              let (digits, rest) ← readDigitRun after
              some (mark :: sign :: digits, rest)
            else do
              let (digits, rest) ← readDigitRun rest
              some (mark :: digits, rest)
        | [] => none
      else some ([], text)
  | [] => some ([], text)

/-- The number that digits write. -/
def wholeValue (digits : List Char) : Nat :=
  digits.foldl (fun n c => n * 10 + (digitValue? c).getD 0) 0

/-- A number. -/
def readNumber (text : List Char) : Option (Json × List Char) := do
  let (negative, rest) := match text with
    | '-' :: rest => (true, rest)
    | _ => (false, text)
  let (whole, rest) ← readWhole rest
  let (fraction, rest) ← readFraction rest
  let (exponent, rest) ← readExponent rest
  let value := wholeValue whole
  if fraction.isEmpty && exponent.isEmpty && !(negative && value == 0) then
    some (.int (if negative then -(value : Int) else value), rest)
  else
    some (.decimal ((if negative then ['-'] else []) ++ whole ++ fraction ++ exponent), rest)

mutual
/-- A value at the start of a text, after any blanks. -/
def readValue : Nat → List Char → Option (Json × List Char)
  | 0, _ => none
  | count + 1, text =>
      match skipSpace text with
      | 'n' :: 'u' :: 'l' :: 'l' :: rest => some (.null, rest)
      | 't' :: 'r' :: 'u' :: 'e' :: rest => some (.bool true, rest)
      | 'f' :: 'a' :: 'l' :: 's' :: 'e' :: rest => some (.bool false, rest)
      | '"' :: rest => do
          let (text, rest) ← readLiteral rest
          some (.string text, rest)
      | '[' :: rest =>
          match skipSpace rest with
          | ']' :: rest => some (.array [], rest)
          | rest => do
              let (items, rest) ← readItems count rest
              some (.array items, rest)
      | '\x7b' :: rest =>
          match skipSpace rest with
          | '\x7d' :: rest => some (.object [], rest)
          | rest => do
              let (members, rest) ← readMembers count rest
              some (.object members, rest)
      | rest => readNumber rest

/-- The items of an array, at least one, up to the closing bracket. -/
def readItems : Nat → List Char → Option (List Json × List Char)
  | 0, _ => none
  | count + 1, text => do
      let (item, rest) ← readValue count text
      match skipSpace rest with
      | ',' :: rest => do
          let (items, rest) ← readItems count rest
          some (item :: items, rest)
      | ']' :: rest => some ([item], rest)
      | _ => none

/-- The members of an object, at least one, up to the closing brace. -/
def readMembers : Nat → List Char → Option (List (Option String × Json) × List Char)
  | 0, _ => none
  | count + 1, text =>
      match skipSpace text with
      | '"' :: rest => do
          let (name, rest) ← readLiteral rest
          match skipSpace rest with
          | ':' :: rest => do
              let (value, rest) ← readValue count rest
              match skipSpace rest with
              | ',' :: rest => do
                  let (members, rest) ← readMembers count rest
                  some ((name, value) :: members, rest)
              | '\x7d' :: rest => some ([(name, value)], rest)
              | _ => none
          | _ => none
      | _ => none
end

/-- The value that a text denotes, if it is a JSON text. -/
def parse? (text : String) : Option Json :=
  match readValue (text.length + 1) text.toList with
  | some (value, rest) => if (skipSpace rest).isEmpty then some value else none
  | none => none

end WorkQueue.Json
