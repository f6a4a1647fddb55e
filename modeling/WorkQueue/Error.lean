import WorkQueue.Id

/-!
# Errors and faults

An error says why an operation was not done. Clients see a fault instead: a result code, and a
message that tells nothing about errors of the store or of the configuration.
-/

namespace WorkQueue

/-- What the store can fail with. -/
inductive StorageFailure where
  /-- No storage transaction could be begun. -/
  | noConnection
  /-- A row would refer to a queue or a transaction that is not there. -/
  | missingReference
  /-- A row would break a rule about its own columns. -/
  | brokenRow
  /-- All numbers for new rows are used up. -/
  | noNumbersLeft
  /-- The store must not be changed. -/
  | readOnly
  deriving DecidableEq, Repr

/-- The wording of a storage failure. -/
def StorageFailure.message : StorageFailure → String
  | .noConnection => "pool timed out while waiting for an open connection"
  | .missingReference => "a row would refer to a row that is not there"
  | .brokenRow => "a message would be in a transaction without being held by one"
  | .noNumbersLeft => "all row numbers are used up"
  | .readOnly => "the store must not be changed"

/-- Why an operation was not done. -/
inductive Error where
  | notFound (what : String)
  | alreadyExists (what : String)
  | invalidArgument (why : String)
  | closed (id : TransactionId)
  | expired (id : TransactionId)
  | storage (failure : StorageFailure)
  | configuration (why : String)
  | other (why : String)
  deriving DecidableEq, Repr

/-- What clients branch on. -/
inductive ResultCode where
  | ok
  | notFound
  | alreadyExists
  | invalidArgument
  | closed
  | expired
  | unknown
  deriving DecidableEq, Repr

namespace ResultCode

/-- The word for a result code. -/
def word : ResultCode → String
  | .ok => "ok"
  | .notFound => "not_found"
  | .alreadyExists => "already_exists"
  | .invalidArgument => "invalid_argument"
  | .closed => "closed"
  | .expired => "expired"
  | .unknown => "unknown"

/-- The result code with a word. -/
def ofWord? (word : String) : Option ResultCode :=
  [.ok, .notFound, .alreadyExists, .invalidArgument, .closed, .expired, .unknown].find?
    fun code => code.word = word

/-- A result code's word names that code. -/
@[simp]
theorem ofWord_word (code : ResultCode) : ofWord? code.word = some code := by
  cases code <;> decide

end ResultCode

namespace Error

/-- The result code that clients get for an error. -/
def code : Error → ResultCode
  | .notFound _ => .notFound
  | .alreadyExists _ => .alreadyExists
  | .invalidArgument _ => .invalidArgument
  | .closed _ => .closed
  | .expired _ => .expired
  | .storage _ | .configuration _ | .other _ => .unknown

/-- The wording of an error. -/
def message : Error → String
  | .notFound what => what ++ " not found"
  | .alreadyExists what => what ++ " already exists"
  | .invalidArgument why => "invalid argument: " ++ why
  | .closed id => id.display ++ " is closed"
  | .expired id => id.display ++ " has expired"
  | .storage failure => "storage error: " ++ failure.message
  | .configuration why => "configuration error: " ++ why
  | .other why => why

end Error

/-- A failed call as a client sees it. -/
structure Fault where
  code : ResultCode
  message : String
  deriving DecidableEq, Repr

namespace Fault

/-- The fault for an error. What clients cannot branch on, they are not told about. -/
def ofError (error : Error) : Fault :=
  ⟨error.code, if error.code = .unknown then "internal error" else error.message⟩

/-- The text of a fault. -/
def display (fault : Fault) : String :=
  fault.code.word ++ ": " ++ fault.message

end Fault

end WorkQueue
