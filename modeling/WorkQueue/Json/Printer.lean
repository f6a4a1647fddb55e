import WorkQueue.Json.Basic
import WorkQueue.Text.Digits
import WorkQueue.Text.Quoted

/-!
# Writing JSON

A compact form without blanks, and a form over several lines for people. Each writer puts its
text in front of a text that follows, so that a value is written in time linear in its size.
-/

namespace WorkQueue.Json

open Text

/-- A character inside a string literal. -/
def writeChar (c : Char) (rest : List Char) : List Char :=
  if c = '"' then '\\' :: '"' :: rest
  else if c = '\\' then '\\' :: '\\' :: rest
  else if c = '\n' then '\\' :: 'n' :: rest
  else if c = '\r' then '\\' :: 'r' :: rest
  else if c = '\t' then '\\' :: 't' :: rest
  else if c = '\x08' then '\\' :: 'b' :: rest
  else if c = '\x0c' then '\\' :: 'f' :: rest
  else if c.toNat < 0x20 then
    '\\' :: 'u' :: '0' :: '0' :: hexDigit (c.toNat / 16) :: hexDigit c.toNat :: rest
  else c :: rest

/-- A string literal. -/
def writeString (text : String) (rest : List Char) : List Char :=
  '"' :: text.toList.foldr writeChar ('"' :: rest)

/-- A string literal, or the literal of a lone surrogate where there is no text. -/
def writeLiteral (text : Option String) (rest : List Char) : List Char :=
  match text with
  | some text => writeString text rest
  | none => "\"\\ud800\"".toList ++ rest

mutual
/-- A value, in front of what follows. -/
def write : Json → List Char → List Char
  | .null, rest => 'n' :: 'u' :: 'l' :: 'l' :: rest
  | .bool true, rest => 't' :: 'r' :: 'u' :: 'e' :: rest
  | .bool false, rest => 'f' :: 'a' :: 'l' :: 's' :: 'e' :: rest
  | .int value, rest => intDigits value ++ rest
  | .decimal written, rest => written ++ rest
  | .string text, rest => writeLiteral text rest
  | .array items, rest => '[' :: writeItems items (']' :: rest)
  | .object members, rest => '\x7b' :: writeMembers members ('\x7d' :: rest)

/-- The items of an array, with commas between them. -/
def writeItems : List Json → List Char → List Char
  | [], rest => rest
  | [item], rest => item.write rest
  | item :: next :: items, rest => item.write (',' :: writeItems (next :: items) rest)

/-- The members of an object, with commas between them. -/
def writeMembers : List (Option String × Json) → List Char → List Char
  | [], rest => rest
  | [(name, value)], rest => writeLiteral name (':' :: value.write rest)
  | (name, value) :: next :: members, rest =>
      writeLiteral name (':' :: value.write (',' :: writeMembers (next :: members) rest))
end

/-- The compact form of a value. -/
def compact (value : Json) : String :=
  String.ofList (value.write [])

/-- A line break and the indentation of a nesting depth. -/
def newLine (depth : Nat) (rest : List Char) : List Char :=
  '\n' :: (List.replicate (2 * depth) ' ' ++ rest)

mutual
/-- A value over several lines, at a nesting depth, in front of what follows. -/
def writeLines : Json → Nat → List Char → List Char
  | .array (item :: items), depth, rest =>
      '[' :: newLine (depth + 1) (writeItemLines (item :: items) (depth + 1)
        (newLine depth (']' :: rest)))
  | .object (member :: members), depth, rest =>
      '\x7b' :: newLine (depth + 1) (writeMemberLines (member :: members) (depth + 1)
        (newLine depth ('\x7d' :: rest)))
  | value, _, rest => value.write rest

/-- The items of an array, one on each line. -/
def writeItemLines : List Json → Nat → List Char → List Char
  | [], _, rest => rest
  | [item], depth, rest => item.writeLines depth rest
  | item :: next :: items, depth, rest =>
      item.writeLines depth (',' :: newLine depth (writeItemLines (next :: items) depth rest))

/-- The members of an object, one on each line. -/
def writeMemberLines : List (Option String × Json) → Nat → List Char → List Char
  | [], _, rest => rest
  | [(name, value)], depth, rest => writeLiteral name (':' :: ' ' :: value.writeLines depth rest)
  | (name, value) :: next :: members, depth, rest =>
      writeLiteral name (':' :: ' ' :: value.writeLines depth
        (',' :: newLine depth (writeMemberLines (next :: members) depth rest)))
end

/-- The form of a value over several lines. -/
def pretty (value : Json) : String :=
  String.ofList (value.writeLines 0 [])

end WorkQueue.Json
