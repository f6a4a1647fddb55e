import WorkQueue.Error
import WorkQueue.Text.Blank
import WorkQueue.Text.Quoted

/-!
# Queue names

A queue name is a text of ASCII letters, ASCII digits, full stops, hyphens and low lines. Blanks
around it do not belong to it, and two names that differ in the case of letters only are the
same name. `ofText_eq_ok_iff` says which texts are names.
-/

namespace WorkQueue

/-- May a queue name have this character? -/
def isNameChar (c : Char) : Bool :=
  c.isAlphanum || c == '.' || c == '-' || c == '_'

/-- A text with its ASCII letters in lower case. -/
def foldCase (text : String) : String :=
  String.ofList (text.toList.map Char.toLower)

/-- A queue name, as its author wrote it. -/
structure QueueName where
  display : String
  deriving DecidableEq, Repr

namespace QueueName

/-- What makes two names the same: the name in lower case. -/
def key (name : QueueName) : String :=
  foldCase name.display

/-- How messages name a queue by its name. -/
def quoted (name : QueueName) : String :=
  "queue " ++ Text.quote name.display

/-- The name that a text writes. -/
def ofText (text : String) : Except Error QueueName :=
  let trimmed := Text.trim text.toList
  if trimmed.isEmpty then .error (.invalidArgument "queue name is empty")
  else match trimmed.find? fun c => !isNameChar c with
    | some bad => .error (.invalidArgument ("queue name " ++ Text.quote (String.ofList trimmed) ++
        " contains " ++ Text.quoteChar bad ++ "; allowed: letters, digits, '.', '-', '_'"))
    | none => .ok ⟨String.ofList trimmed⟩

/-- A text is a name exactly when, blanks around it aside, it is not empty and has only characters
that names may have. -/
theorem ofText_eq_ok_iff {text : String} {name : QueueName} :
    ofText text = .ok name ↔
      name.display = String.ofList (Text.trim text.toList) ∧ Text.trim text.toList ≠ [] ∧
        ∀ c ∈ Text.trim text.toList, isNameChar c = true := by
  unfold ofText
  simp only [List.isEmpty_iff]
  by_cases hempty : Text.trim text.toList = []
  · simp [hempty]
  · simp only [hempty, if_false, ne_eq, not_false_eq_true, true_and]
    cases hfind : (Text.trim text.toList).find? fun c => !isNameChar c with
    | some bad =>
        have hmem := List.mem_of_find?_eq_some hfind
        have hbad := List.find?_some hfind
        simp only [Bool.not_eq_true'] at hbad
        simp only [reduceCtorEq, false_iff, not_and]
        intro _ hall
        simp [hall bad hmem] at hbad
    | none =>
        simp only [List.find?_eq_none, Bool.not_eq_true', Bool.not_eq_false] at hfind
        cases name
        simp only [Except.ok.injEq, mk.injEq]
        exact ⟨fun h => ⟨h.symm, hfind⟩, fun h => h.1.symm⟩

end QueueName

/-- A queue addressed by its number or by its name. -/
inductive QueueRef where
  | byId (id : QueueId)
  | byName (text : String)
  deriving DecidableEq, Repr

/-- An address whose name has been checked. -/
inductive QueueAddress where
  | number (id : QueueId)
  | named (name : QueueName)
  deriving DecidableEq, Repr

namespace QueueAddress

/-- Check the name of an address. -/
def ofRef : QueueRef → Except Error QueueAddress
  | .byId id => .ok (.number id)
  | .byName text => (QueueName.ofText text).map .named

/-- How messages show a checked address. -/
def display : QueueAddress → String
  | .number id => id.display
  | .named name => name.quoted

end QueueAddress

/-- How messages show an address; a name is shown as it was given. -/
def QueueRef.display : QueueRef → String
  | .byId id => id.display
  | .byName text => "queue " ++ Text.quote text

end WorkQueue
