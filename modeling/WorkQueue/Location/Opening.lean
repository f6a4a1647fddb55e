import WorkQueue.Location.Files
import WorkQueue.Location.Target

/-!
# Opening stores

A store is opened where a target says, used, and kept again. A file that is not there is made if
the access allows it, and stays even if it cannot be used. A store that was opened only to be read
leaves all files as they are.
-/

namespace WorkQueue.Location

/-- A store that is open, and the file that it is kept in, if changes to it are to be kept at all;
with the file, whether changes are logged beside it before they are made. -/
structure Opened where
  store : Store
  readOnly : Bool
  place : Option (Path × Bool)
  deriving DecidableEq, Repr

namespace Opened

/-- A store that must not be changed. -/
def toRead (store : Store) : Opened :=
  ⟨store, true, none⟩

/-- A store that is kept in a file. -/
def toChange (store : Store) (path : Path) (logged : Bool) : Opened :=
  ⟨store, false, some (path, logged)⟩

/-- A new store that is kept nowhere. -/
def inMemory (readOnly : Bool) : Except OpeningFault Opened :=
  if readOnly then .error (.tables .readOnly) else .ok ⟨{}, false, none⟩

end Opened

namespace Target

/-- Is there a name for the journal beside a file? Changes that are not logged yet need one. -/
def hasJournal (path : Path) : Bool :=
  (path.getLastD []).length + "-journal".length ≤ Files.nameLimit

/-- Open a blank file, and make it hold a store. -/
def openBlank (target : Target) (path : Path) : Except OpeningFault Opened :=
  let fault := if target.logs then OpeningFault.file else .tables
  if target.access = .read then .error (fault .readOnly)
  else if hasJournal path then .ok (.toChange {} path target.logs)
  else .error (fault .cannotOpen)

/-- Open a file that holds a store. To log the changes of one whose changes are not logged yet is a
change, and what is logged can be read only with the log. -/
def openHeld (target : Target) (path : Path) (logged : Bool) (store : Store) :
    Except OpeningFault Opened :=
  if logged && !target.logs then .error (.file .cannotOpen)
  else if target.access ≠ .read then .ok (.toChange store path target.logs)
  else if target.logs && !logged then .error (.file .readOnly)
  else .ok (.toRead store)

/-- Open a file. One that nobody changes is only read. -/
def openContent (target : Target) (path : Path) : FileContent → Except OpeningFault Opened
  | .blank =>
      if target.isOn "immutable" then .error (.tables .readOnly) else target.openBlank path
  | .store logged store =>
      if target.isOn "immutable" then .ok (.toRead store) else target.openHeld path logged store
  | .other _ => .error (.file .noStore)

/-- The paths that a target can come to from a directory; the one that is opened comes last. -/
def paths (target : Target) (home : Path) : List Path :=
  let way := fun text =>
    Path.way (if Path.isAbsolute text then [] else home) (Path.pieces text)
  Path.way [] home ++ ((target.options.lookup "modeof").map Text.writeUtf8).elim [] way ++
    way target.path

end Target

namespace Files

/-- Open what is at a path. -/
def openPath (files : Files) (target : Target) (path : Path) :
    Except OpeningFault Opened × Files :=
  match files.entry path, target.access with
  | .file content, _ => (target.openContent path content, files)
  | .directory, .read => (.error (.file .unreadable), files)
  | .absent, .create =>
      if (files.entry path.dropLast).isDirectory then
        (target.openContent path .blank, files.put path .blank)
      else (.error (.file .cannotOpen), files)
  | _, _ => (.error (.file .cannotOpen), files)

/-- Does a target name a file that is to lend its permissions, and that is not there? -/
def missesModel (files : Files) (target : Target) : Bool :=
  (target.options.lookup "modeof").any fun model => !files.leadsSomewhere (Text.writeUtf8 model)

/-- Open a store. -/
def openTarget (files : Files) (target : Target) : Except OpeningFault Opened × Files :=
  if target.isNowhere then (Opened.inMemory (target.access = .read), files)
  else if target.layer = .volatile then
    if target.path.length ≤ 1016 then
      (Opened.inMemory (target.access = .read || target.isOn "immutable"), files)
    else (.error (.file .cannotOpen), files)
  else match files.resolve? target.path with
    | none => (.error (.file .cannotOpen), files)
    | some path =>
        if files.missesModel target then (.error (.file .noModel), files)
        else files.openPath target path

/-- Keep a store as it is now, where it was opened. -/
def keep (files : Files) (opened : Opened) (store : Store) : Files :=
  match opened.place with
  | some (path, logged) => files.put path (.store logged store)
  | none => files

end Files

end WorkQueue.Location
