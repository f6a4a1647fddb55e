import WorkQueue.Location.Fault
import WorkQueue.Text.Digits
import WorkQueue.Text.Percent
import WorkQueue.Width

/-!
# Names of files

A file is named by a path or by a URI, which starts with `file:` and can end with options. A part
of a URI stands for the bytes before its first zero byte. Any other name is a path as it stands.
-/

namespace WorkQueue.Location

/-- The name of a file: a path, and options for the use of the file. -/
structure FileName where
  path : List UInt8
  options : List (String × String) := []
  deriving DecidableEq, Repr

namespace FileName

/-- The bytes before the first zero byte. -/
def beforeZero (bytes : List UInt8) : List UInt8 :=
  bytes.takeWhile (· ≠ 0)

/-- The option that a piece of a URI stands for. -/
def optionOf (piece : List Char) : String × String :=
  let value := (piece.dropWhile (· ≠ '=')).drop 1
  (Text.readUtf8Lossy (beforeZero (Text.percentDecode (piece.takeWhile (· ≠ '=')))),
    Text.readUtf8Lossy (beforeZero (Text.percentDecode value)))

/-- The name that a URI gives after its authority. What follows a number sign says nothing. -/
def ofUriPath (text : List Char) : FileName :=
  let text := text.takeWhile (· ≠ '#')
  let options := (text.dropWhile (· ≠ '?')).drop 1
  { path := beforeZero (Text.percentDecode (text.takeWhile (· ≠ '?')))
    options := ((Text.pieces '&' options).map optionOf).filter fun option => option.1 ≠ "" }

/-- The name that a URI gives after its scheme. The file is on this machine. -/
def ofUri (text : List Char) : Except FileFault FileName :=
  match text with
  | '/' :: '/' :: rest =>
      let authority := String.ofList (rest.takeWhile (· ≠ '/'))
      if authority = "" ∨ authority = "localhost" then
        .ok (ofUriPath (rest.dropWhile (· ≠ '/')))
      else .error (.unknownAuthority authority)
  | _ => .ok (ofUriPath text)

/-- The scheme of the names that are URIs. -/
def scheme : List Char :=
  "file:".toList

/-- The file that a text names. -/
def ofText (text : String) : Except FileFault FileName :=
  if scheme.isPrefixOf text.toList then ofUri (text.toList.drop scheme.length)
  else .ok { path := Text.writeUtf8 text }

/-- The number that a text starts with, in some base. -/
def leadingNumber (base : Nat) (digit? : Char → Option Nat) : Nat → List Char → Nat
  | value, [] => value
  | value, c :: rest =>
      match digit? c with
      | some digit => leadingNumber base digit? (base * value + digit) rest
      | none => value

/-- The number that a switch is set to. One that is too large counts as zero. -/
def switchNumber (text : List Char) : Nat :=
  let number := match text with
    | '0' :: 'x' :: digits | '0' :: 'X' :: digits => leadingNumber 16 Text.hexValue? 0 digits
    | digits => leadingNumber 10 Text.digitValue? 0 digits
  if number < half32 then number else 0

/-- Is a switch set to this on? Of a number only the last byte counts. -/
def isOn (text : String) : Bool :=
  if text.toList.head?.any fun c => (Text.digitValue? c).isSome then
    switchNumber text.toList % 256 ≠ 0
  else ["on", "yes", "true"].contains (text.map Char.toLower)

end FileName

end WorkQueue.Location
