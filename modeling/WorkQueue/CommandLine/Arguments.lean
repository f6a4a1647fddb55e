import WorkQueue.Text.Digits
import WorkQueue.Width

/-!
# Arguments

How the words after the program's name are told apart. A word that starts with two hyphens is an
option; the value of an option is the rest of its word after an equals sign, or else the next word,
which then does not start with a hyphen. A word of two hyphens ends the options. A single hyphen is
an ordinary word. An option is given at most once.
-/

namespace WorkQueue.CommandLine

/-- An option that a command knows. -/
structure OptionSpec where
  name : String
  takesValue : Bool
  deriving DecidableEq, Repr

/-- A word of the command line, by its part in it. -/
inductive Argument where
  | positional (word : String)
  | option (name : String) (value : Option String)
  deriving DecidableEq, Repr

/-- Does a word look like an option? -/
def looksLikeOption (word : String) : Bool :=
  match word.toList with
  | '-' :: _ :: _ => true
  | _ => false

/-- The name of an option in a word without its hyphens, and the value after an equals sign. -/
def splitOption (word : List Char) : String × Option String :=
  let name := word.takeWhile fun c => c ≠ '='
  match word.dropWhile fun c => c ≠ '=' with
  | [] => (String.ofList name, none)
  | _ :: value => (String.ofList name, some (String.ofList value))

/-- Tell the words of a command apart, if they fit the options that it knows. -/
def scan (specs : List OptionSpec) : List String → Option (List Argument)
  | [] => some []
  | word :: rest =>
      if word = "--" then some (rest.map .positional)
      else if !looksLikeOption word then do
        let arguments ← scan specs rest
        some (.positional word :: arguments)
      else match word.toList with
        | '-' :: '-' :: letters =>
            let (name, given) := splitOption letters
            match specs.find? fun spec => spec.name = name with
            | none => none
            | some spec =>
                match spec.takesValue, given with
                | false, some _ => none
                | false, none => do
                    let arguments ← scan specs rest
                    some (.option name none :: arguments)
                | true, some value => do
                    let arguments ← scan specs rest
                    some (.option name (some value) :: arguments)
                | true, none =>
                    match rest with
                    | [] => none
                    | value :: rest =>
                        if looksLikeOption value then none
                        else do
                          let arguments ← scan specs rest
                          some (.option name (some value) :: arguments)
        | _ => none

/-- The positional words and the options of a command. -/
structure Arguments where
  positional : List String
  options : List (String × Option String)
  deriving DecidableEq, Repr

/-- Does no option occur twice? -/
def distinctOptions : List (String × Option String) → Bool
  | [] => true
  | (name, _) :: rest => !(rest.any fun (other, _) => other = name) && distinctOptions rest

/-- The words of a command, if they fit the options that it knows. -/
def Arguments.of? (specs : List OptionSpec) (words : List String) : Option Arguments := do
  let arguments ← scan specs words
  let positional := arguments.filterMap fun
    | .positional word => some word
    | .option .. => none
  let options := arguments.filterMap fun
    | .option name value => some (name, value)
    | .positional _ => none
  if distinctOptions options then some ⟨positional, options⟩ else none

namespace Arguments

/-- Is an option given? -/
def has (arguments : Arguments) (name : String) : Bool :=
  arguments.options.any fun (given, _) => given = name

/-- The value of an option, if it is given. -/
def value? (arguments : Arguments) (name : String) : Option String :=
  (arguments.options.lookup name).join

/-- The value of an option read by a reader: nothing where the reader refuses the value, and the
default where the option is not given. -/
def read {α : Type} (arguments : Arguments) (name : String) (default : α)
    (reader : String → Option α) : Option α :=
  match arguments.value? name with
  | none => some default
  | some text => reader text

end Arguments

/-- An integer of 64 bits between two bounds, both included. -/
def integerIn (low high : Int) (text : String) : Option Int :=
  match Text.readInt half64 text.toList with
  | .ok value => if low ≤ value ∧ value ≤ high then some value else none
  | .error _ => none

/-- A natural number of 64 bits. -/
def natural (text : String) : Option Nat :=
  (Text.readNat UInt64.size text.toList).toOption

end WorkQueue.CommandLine
