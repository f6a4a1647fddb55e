import WorkQueue.Text.Percent

/-!
# Paths

A path from the root of the file system is the list of the names on it. Names are bytes, and a
slash stands between them.
-/

namespace WorkQueue.Location

/-- The name of a file or directory. -/
abbrev Name : Type :=
  List UInt8

/-- A path from the root. -/
abbrev Path : Type :=
  List Name

namespace Path

/-- The name of a directory in itself. -/
def here : Name :=
  [0x2E]

/-- The name of the directory above. -/
def up : Name :=
  [0x2E, 0x2E]

/-- The pieces of a text between slashes, some of which may be empty. -/
def pieces (text : List UInt8) : List Name :=
  Text.pieces 0x2F text

/-- The names in a text. -/
def names (text : List UInt8) : List Name :=
  (pieces text).filter fun name => !name.isEmpty

/-- Does a text give a path from the root? -/
def isAbsolute (text : List UInt8) : Bool :=
  text.head? = some 0x2F

/-- The path one name further on. There is nothing above the root. -/
def enter (path : Path) (name : Name) : Path :=
  if name = [] ∨ name = here then path
  else if name = up then path.dropLast
  else path ++ [name]

/-- The paths that one comes to from a path by names. -/
def way (path : Path) : List Name → List Path
  | [] => [path]
  | name :: rest => path :: way (path.enter name) rest

/-- The number of bytes of a path, with a slash before each name. -/
def size : Path → Nat
  | [] => 0
  | name :: rest => name.length + 1 + size rest

/-- The bytes of a path, with a slash before each name. -/
def bytes (path : Path) : List UInt8 :=
  path.flatMap fun name => 0x2F :: name

end Path

end WorkQueue.Location
