import WorkQueue.Location.Path
import WorkQueue.Store.Basic

/-!
# Files that hold stores

The part of a file system that matters to stores: which directories there are, and what the files
hold.
-/

namespace WorkQueue.Location

/-- What a file holds. -/
inductive FileContent where
  /-- Nothing has been written to it. -/
  | blank
  /-- A store, and whether changes to it are logged beside the file before they are made. -/
  | store (logged : Bool) (store : Store)
  /-- A text that is no store. -/
  | other (text : String)
  deriving DecidableEq, Repr

/-- What there is at a path. -/
inductive PathEntry where
  | absent
  | directory
  | file (content : FileContent)
  deriving DecidableEq, Repr

namespace PathEntry

/-- Is it a directory? -/
def isDirectory : PathEntry → Bool
  | .directory => true
  | _ => false

/-- Is nothing there? -/
def isAbsent : PathEntry → Bool
  | .absent => true
  | _ => false

end PathEntry

/-- Directories and files, and the directory that paths start from. -/
structure Files where
  home : Path := []
  entries : List (Path × PathEntry) := []

namespace Files

/-- Nothing but a directory to start from, and those above it. -/
def ofHome (home : Path) : Files :=
  ⟨home, (List.range (home.length + 1)).map fun depth => (home.take depth, .directory)⟩

/-- What there is at a path. -/
def entry (files : Files) : Path → PathEntry
  | [] => .directory
  | path => (files.entries.lookup path).getD .absent

/-- Put something into a file. -/
def put (files : Files) (path : Path) (content : FileContent) : Files :=
  { files with entries := (path, .file content) :: files.entries }

/-- The path that relative paths of a text start from. -/
def origin (files : Files) (text : List UInt8) : Path :=
  if Path.isAbsolute text then [] else files.home

/-- The most bytes in a name. -/
def nameLimit : Nat :=
  255

/-- Can a name be looked up at a path? Nothing is found where nothing is, but a file holds no
names, and a directory no long ones. -/
def canLookUp (files : Files) (path : Path) (name : Name) : Bool :=
  match files.entry path with
  | .absent => true
  | .directory => name.length ≤ nameLimit
  | .file _ => false

/-- The path one name further on, if there can be such a path. -/
def enter? (files : Files) (path : Path) (name : Name) : Option Path :=
  if name = Path.here ∨ name = Path.up then some (path.enter name)
  else if files.canLookUp path name ∧ (path.enter name).size < 512 then some (path.enter name)
  else none

/-- The path of the file that a text names, if there can be such a file. A directory that is left
again need not be there. The name must leave room for the files beside it. -/
def resolve? (files : Files) (text : List UInt8) : Option Path := do
  let path ← (Path.names text).foldlM files.enter? (files.origin text)
  if path ≠ [] ∧ path.size ≤ 504 then some path else none

/-- The path one name further on, if all is there. -/
def follow? (files : Files) (path : Path) (name : Name) : Option Path :=
  if (files.entry path).isDirectory ∧ !(files.entry (path.enter name)).isAbsent then
    some (path.enter name)
  else none

/-- Is there something where a text leads to, with all the directories on the way? -/
def leadsSomewhere (files : Files) (text : List UInt8) : Bool :=
  !text.isEmpty && ((Path.pieces text).foldlM files.follow? (files.origin text)).isSome

end Files

end WorkQueue.Location
