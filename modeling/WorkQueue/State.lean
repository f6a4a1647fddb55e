import WorkQueue.Error

/-!
# States

The states that messages and transactions go through, and the two ways in which a transaction
can hold a message, each with the word that stands for it in the store and on the wire. Reading a
word with `ofText` says which kind of word was expected.
-/

namespace WorkQueue

/-- Where a message is in its life. -/
inductive MessageState where
  /-- Committed, and there to be taken. -/
  | active
  /-- Held by a transaction that adds it or has taken it. -/
  | inTransaction
  /-- Taken, and the taking committed. -/
  | processed
  /-- Past its own lifetime before it was taken. -/
  | expired
  /-- Given back as often as it may be. -/
  | attemptsExceeded
  deriving DecidableEq, Repr

namespace MessageState

/-- All states, in the order in which they are listed. -/
def all : List MessageState :=
  [.active, .inTransaction, .processed, .expired, .attemptsExceeded]

/-- The word for a state. -/
def word : MessageState → String
  | .active => "active"
  | .inTransaction => "in_transaction"
  | .processed => "processed"
  | .expired => "expired"
  | .attemptsExceeded => "attempts_exceeded"

/-- The state with a word. -/
def ofWord? (word : String) : Option MessageState :=
  all.find? fun state => state.word = word

/-- Read the word for a state. -/
def ofText (text : String) : Except Error MessageState :=
  match ofWord? text with
  | some state => .ok state
  | none => .error (.other ("unknown message state: " ++ text))

/-- Is this the end of a message's life? -/
def isTerminal : MessageState → Bool
  | .active | .inTransaction => false
  | .processed | .expired | .attemptsExceeded => true

/-- A state's word names that state. -/
@[simp]
theorem ofWord_word (state : MessageState) : ofWord? state.word = some state := by
  cases state <;> decide

end MessageState

/-- Where a transaction is in its life; only an active one is open. -/
inductive TransactionState where
  | active
  | committed
  | rolledBack
  | expired
  deriving DecidableEq, Repr

namespace TransactionState

/-- The word for a state. -/
def word : TransactionState → String
  | .active => "active"
  | .committed => "committed"
  | .rolledBack => "rolled_back"
  | .expired => "expired"

/-- The state with a word. -/
def ofWord? (word : String) : Option TransactionState :=
  [.active, .committed, .rolledBack, .expired].find? fun state => state.word = word

/-- Read the word for a state. -/
def ofText (text : String) : Except Error TransactionState :=
  match ofWord? text with
  | some state => .ok state
  | none => .error (.other ("unknown transaction state: " ++ text))

/-- Is the transaction over? -/
def isTerminal (state : TransactionState) : Bool :=
  state ≠ .active

/-- A state's word names that state. -/
@[simp]
theorem ofWord_word (state : TransactionState) : ofWord? state.word = some state := by
  cases state <;> decide

end TransactionState

/-- Why a transaction holds a message. -/
inductive TransactionAction where
  /-- The transaction adds the message, which nobody sees before it is committed. -/
  | add
  /-- The transaction has taken the message, which is used up when it is committed. -/
  | pull
  deriving DecidableEq, Repr

namespace TransactionAction

/-- The word for an action. -/
def word : TransactionAction → String
  | .add => "add"
  | .pull => "pull"

/-- The action with a word. -/
def ofWord? (word : String) : Option TransactionAction :=
  [.add, .pull].find? fun action => action.word = word

/-- Read the word for an action. -/
def ofText (text : String) : Except Error TransactionAction :=
  match ofWord? text with
  | some action => .ok action
  | none => .error (.other ("unknown transaction action: " ++ text))

/-- An action's word names that action. -/
@[simp]
theorem ofWord_word (action : TransactionAction) : ofWord? action.word = some action := by
  cases action <;> decide

end TransactionAction

end WorkQueue
