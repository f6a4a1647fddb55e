import WorkQueue.Error
import WorkQueue.Text.Blank
import WorkQueue.Text.Digits
import WorkQueue.Text.Quoted

/-!
# Configuration

Settings from environment variables. Only the address of the database has to be set. Numbers may
have blanks around them; one that cannot be read is reported with the variable's text as it is.
-/

namespace WorkQueue

/-- The settings of the program. -/
structure Config where
  databaseUrl : String
  otelEndpoint : Option String
  logLevel : String
  sweepIntervalSeconds : Nat
  maxConnections : Nat
  lockTableCapacity : Nat
  deriving DecidableEq, Repr

/-- The variables that are set to a text. -/
abbrev Environment : Type :=
  String → Option String

namespace Config

/-- A number below a limit from a variable, which has a default. -/
def number (environment : Environment) (name : String) (limit default : Nat) :
    Except Error Nat :=
  match environment name with
  | none => .ok default
  | some raw =>
      match Text.readNat limit (Text.trim raw.toList) with
      | .ok value => .ok value
      | .error fault => .error (.configuration
          (name ++ "=" ++ Text.quote raw ++ " is not valid: " ++ fault.message))

/-- The variables that have a say. -/
def variableNames : List String :=
  ["DATABASE_URL", "OTEL_ENDPOINT", "LOG_LEVEL", "TXQ_SWEEP_INTERVAL_SECS", "TXQ_MAX_CONNECTIONS",
    "TXQ_LOCK_TABLE_CAPACITY"]

/-- A variable that has to be set. -/
def required (environment : Environment) (name : String) : Except Error String :=
  match environment name with
  | some text => .ok text
  | none =>
      .error (.configuration ("required environment variable " ++ name ++ " is not set"))

/-- The settings that an environment gives. -/
def ofEnvironment (environment : Environment) : Except Error Config := do
  let sweepIntervalSeconds ← number environment "TXQ_SWEEP_INTERVAL_SECS" UInt64.size 30
  if sweepIntervalSeconds = 0 then
    throw (.configuration "TXQ_SWEEP_INTERVAL_SECS must be at least 1")
  let databaseUrl ← required environment "DATABASE_URL"
  let maxConnections ← number environment "TXQ_MAX_CONNECTIONS" UInt32.size 10
  let lockTableCapacity ← number environment "TXQ_LOCK_TABLE_CAPACITY" UInt64.size 1024
  pure {
    databaseUrl
    otelEndpoint := environment "OTEL_ENDPOINT"
    logLevel := (environment "LOG_LEVEL").getD "info"
    sweepIntervalSeconds
    maxConnections
    lockTableCapacity }

end Config

end WorkQueue
