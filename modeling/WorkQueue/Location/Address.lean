import WorkQueue.Location.Fault
import WorkQueue.Text.Percent

/-!
# Addresses

The address of a store names a file and says how it is to be used. An address may start with a
scheme and end with parameters after a question mark. A store on a server cannot be reached.
-/

namespace WorkQueue.Location

/-- What an address asks for. -/
structure Address where
  name : String
  readOnly : Bool := false
  inMemory : Bool := false
  /-- Nobody changes the file, so that it can be read without care. -/
  immutable : Bool := false
  /-- The layer that files are reached through. -/
  layer : Option String := none
  deriving DecidableEq, Repr

namespace Address

/-- What is left without a start is shorter. -/
theorem length_drop_lt {start text : List Char}
    (h : start ≠ [] ∧ start.isPrefixOf text = true) :
    (text.drop start.length).length < text.length := by
  have hlength := (List.isPrefixOf_iff_prefix.1 h.2).length_le
  have hstart := List.length_pos_iff.2 h.1
  rw [List.length_drop]
  omega

/-- A text without a start, however often it has that start. -/
def dropStart (start text : List Char) : List Char :=
  if _h : start ≠ [] ∧ start.isPrefixOf text = true then
    dropStart start (text.drop start.length)
  else text
termination_by text.length
decreasing_by exact length_drop_lt _h

/-- Does an address name a server? -/
def isServer (address : List Char) : Bool :=
  "postgres://".toList.isPrefixOf address || "postgresql://".toList.isPrefixOf address

/-- Take one parameter into account. Of two that contradict each other the last one counts, except
that a store which must not be changed stays so. -/
def withParameter (address : Address) : String × String → Except AddressFault Address
  | ("mode", value) => match value with
      | "ro" => .ok { address with readOnly := true }
      | "rw" | "rwc" => .ok address
      | "memory" => .ok { address with inMemory := true }
      | _ => .error (.unknownValue value "mode")
  | ("cache", value) => match value with
      | "private" | "shared" => .ok address
      | _ => .error (.unknownValue value "cache")
  | ("immutable", value) => match value with
      | "true" | "1" => .ok { address with immutable := true }
      | "false" | "0" => .ok { address with immutable := false }
      | _ => .error (.unknownValue value "immutable")
  | ("vfs", value) => .ok { address with layer := some value }
  | (name, _) => .error (.unknownParameter name)

/-- What an address asks for. -/
def ofText (address : String) : Except OpeningFault Address :=
  if isServer address.toList then .error .noServer
  else
    let text := dropStart "sqlite:".toList (dropStart "sqlite://".toList address.toList)
    let bytes := Text.percentDecode (text.takeWhile (· ≠ '?'))
    let parameters := Text.formParameters ((text.dropWhile (· ≠ '?')).drop 1)
    match Text.readUtf8? bytes with
    | none => .error (.address (.notText (Text.utf8Fault bytes)))
    | some name => (parameters.foldlM withParameter { name }).mapError .address

end Address

end WorkQueue.Location
