import WorkQueue.Location.Address
import WorkQueue.Location.FileName

/-!
# What is to be opened

An address comes to a file's path, the access that is wanted, and a layer that files are reached
through. The options of a file's name can narrow the access that the address allows, but not widen
it.
-/

namespace WorkQueue.Location

/-- What may be done with a file. -/
inductive Access where
  | read
  | write
  /-- Make the file if it is not there. -/
  | create
  deriving DecidableEq, Repr

namespace Access

/-- How much an access allows. -/
def rank : Access → Nat
  | .read => 0
  | .write => 1
  | .create => 2

/-- The access with a word. -/
def ofWord? : String → Option Access
  | "ro" => some .read
  | "rw" => some .write
  | "rwc" => some .create
  | _ => none

end Access

/-- A layer that files are reached through. The layers differ in how programs keep out of each
other's way. -/
inductive FileLayer where
  | shared
  | exclusive
  | unlocked
  | lockFiles
  /-- The files are in memory. -/
  | volatile
  deriving DecidableEq, Repr

namespace FileLayer

/-- The layer with a name. -/
def ofWord? : String → Option FileLayer
  | "unix" => some .shared
  | "unix-excl" => some .exclusive
  | "unix-none" => some .unlocked
  | "unix-dotfile" => some .lockFiles
  | "memdb" => some .volatile
  | _ => none

/-- Can changes be logged beside a file before they are made? -/
def canLog : FileLayer → Bool
  | .shared | .exclusive => true
  | _ => false

end FileLayer

/-- What is to be opened. -/
structure Target where
  path : List UInt8
  options : List (String × String) := []
  access : Access := .create
  inMemory : Bool := false
  layer : FileLayer := .shared
  deriving DecidableEq, Repr

namespace Target

/-- Is an option switched on? The first of that name counts. -/
def isOn (target : Target) (option : String) : Bool :=
  (target.options.lookup option).any FileName.isOn

/-- Are changes logged beside the file before they are made? -/
def logs (target : Target) : Bool :=
  target.layer.canLog && !target.isOn "nolock"

/-- Is no file meant? -/
def isNowhere (target : Target) : Bool :=
  target.inMemory || target.path.isEmpty || target.path = Text.writeUtf8 ":memory:"

/-- Take one option of a file's name into account. What is in memory can be used in any way. -/
def withOption (target : Target) : String × String → Except FileFault Target
  | ("cache", mode) =>
      if mode = "shared" ∨ mode = "private" then .ok target else .error (.unknownCacheMode mode)
  | ("mode", "memory") => .ok { target with access := .create, inMemory := true }
  | ("mode", mode) =>
      match Access.ofWord? mode with
      | none => .error (.unknownAccessMode mode)
      | some access =>
          if target.inMemory ∨ access.rank ≤ target.access.rank then
            .ok { target with access, inMemory := false }
          else .error (.accessNotAllowed mode)
  | _ => .ok target

/-- What a file's name comes to. Of several layers the last one counts. -/
def ofName (name : FileName) (access : Access) (inMemory : Bool) : Except FileFault Target := do
  let target ← name.options.foldlM withOption
    { path := name.path, options := name.options, access, inMemory }
  let layer := (name.options.reverse.lookup "vfs").getD "unix"
  match FileLayer.ofWord? layer with
  | some layer => pure { target with layer }
  | none => throw (.unknownLayer layer)

end Target

namespace Address

/-- The name of a layer as an option, where a plus stands for each space. -/
def layerOption (layer : String) : String × String :=
  let bytes := FileName.beforeZero (Text.writeUtf8 layer)
  ("vfs", Text.readUtf8Lossy (bytes.map fun byte => if byte = 0x20 then 0x2B else byte))

/-- The file that an address names. Where the address itself has options for the file, its name is
a path, whatever it looks like. -/
def fileName (address : Address) : Except OpeningFault FileName :=
  let options := (if address.immutable then [("immutable", "true")] else []) ++
    (address.layer.map layerOption).toList
  let bytes := Text.writeUtf8 address.name
  if options ≠ [] then .ok { path := FileName.beforeZero bytes, options }
  else if bytes.contains 0 then .error .zeroInName
  else (FileName.ofText address.name).mapError .file

/-- What an address comes to. -/
def target (address : Address) : Except OpeningFault Target := do
  let name ← address.fileName
  let access := if address.readOnly then Access.read else .create
  (Target.ofName name access address.inMemory).mapError .file

end Address

end WorkQueue.Location
