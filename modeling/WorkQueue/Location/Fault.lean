import WorkQueue.Error
import WorkQueue.Text.Quoted
import WorkQueue.Text.Utf8

/-!
# Why a store cannot be opened

What can be wrong with the address of a store and with the file that it names. A fault is told in
one line, with its causes below it.
-/

namespace WorkQueue.Location

/-- What is wrong with an address. -/
inductive AddressFault where
  | notText (fault : Text.Utf8Fault)
  | unknownValue (value parameter : String)
  | unknownParameter (name : String)
  deriving DecidableEq, Repr

/-- The wording of a fault. -/
def AddressFault.message : AddressFault → String
  | .notText fault => fault.message
  | .unknownValue value parameter =>
      "unknown value " ++ Text.quote value ++ " for `" ++ parameter ++ "`"
  | .unknownParameter name =>
      "unknown query parameter `" ++ name ++ "` while parsing connection URL"

/-- Why a file does not serve to keep a store. -/
inductive FileFault where
  /-- The file would be on another machine. -/
  | unknownAuthority (authority : String)
  | unknownCacheMode (mode : String)
  | unknownAccessMode (mode : String)
  /-- More is asked for than the address allows. -/
  | accessNotAllowed (mode : String)
  | unknownLayer (name : String)
  /-- The file would have to be written to, and must not be. -/
  | readOnly
  | cannotOpen
  /-- The file holds something else. -/
  | noStore
  /-- What was opened is no file. -/
  | unreadable
  /-- The file that is to lend its permissions is not there. -/
  | noModel
  deriving DecidableEq, Repr

namespace FileFault

/-- The number of a fault. -/
def code : FileFault → Nat
  | .unknownAuthority _ | .unknownCacheMode _ | .unknownAccessMode _ | .unknownLayer _ => 1
  | .accessNotAllowed _ => 3
  | .readOnly => 8
  | .cannotOpen => 14
  | .noStore => 26
  | .unreadable => 266
  | .noModel => 1802

/-- The wording of a fault. -/
def message : FileFault → String
  | .unknownAuthority authority => "invalid uri authority: " ++ authority
  | .unknownCacheMode mode => "no such cache mode: " ++ mode
  | .unknownAccessMode mode => "no such access mode: " ++ mode
  | .accessNotAllowed mode => "access mode not allowed: " ++ mode
  | .unknownLayer name => "no such vfs: " ++ name
  | .readOnly => "attempt to write a readonly database"
  | .cannotOpen => "unable to open database file"
  | .noStore => "file is not a database"
  | .unreadable | .noModel => "disk I/O error"

/-- The text of a fault. -/
def display (fault : FileFault) : String :=
  "(code: " ++ toString fault.code ++ ") " ++ fault.message

end FileFault

/-- Why a store cannot be opened. -/
inductive OpeningFault where
  | address (fault : AddressFault)
  /-- The server cannot be reached. -/
  | noServer
  /-- No file has a zero byte in its name. -/
  | zeroInName
  /-- The file cannot be opened. -/
  | file (fault : FileFault)
  /-- The file can be opened, but holds no store and cannot be made to. -/
  | tables (fault : FileFault)
  deriving DecidableEq, Repr

namespace OpeningFault

/-- What failed. -/
def title : OpeningFault → String
  | .tables _ => "migration failed: "
  | _ => "storage error: "

/-- What a fault comes from, each cause before its own cause. -/
def causes : OpeningFault → List String
  | .address fault => ["error with configuration: " ++ fault.message, fault.message]
  | .noServer => [StorageFailure.noConnection.message]
  | .zeroInName =>
      ["error communicating with database: filename passed to SQLite must not contain nul bytes",
        "filename passed to SQLite must not contain nul bytes"]
  | .file fault => ["error returned from database: " ++ fault.display, fault.display]
  | .tables fault =>
      ["while executing migrations: error returned from database: " ++ fault.display,
        "error returned from database: " ++ fault.display, fault.display]

/-- A text after a heading; its further lines start with blanks. -/
def hang (heading blanks text : String) : String :=
  heading ++ String.ofList
    (text.toList.flatMap fun c => if c = '\n' then '\n' :: blanks.toList else [c])

/-- The lines that list causes, numbered if they are several. -/
def causeLines : List String → List String
  | [cause] => [hang "    " "    " cause]
  | causes => causes.zipIdx.map fun (cause, number) =>
      hang ("    " ++ toString number ++ ": ") "       " cause

/-- The wording of a fault, with its causes below it. -/
def message (fault : OpeningFault) : String :=
  fault.title ++ fault.causes.headD "" ++ "\n\nCaused by:\n" ++
    "\n".intercalate (causeLines fault.causes)

end OpeningFault

end WorkQueue.Location
