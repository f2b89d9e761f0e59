import FlowDump.Members
import FlowDump.Session
import FlowDump.Text.Quoted

/-!
# The state of a session

The producer of a dump keeps a record for each session.  This program only looks at it:
notifications say that something changed, the record says what the state is.

* `SessionState` — the states, with `parse` and `text`; `SessionState.isTerminal` says which end a
  session.
* `StateRecord` — what a record says: a state and the path of the result, both optional.
* `Notification` — a hint that the record of a session has changed.
* `text_parse` — no state text is lost.
-/

namespace FlowDump

/-! ### States -/

/-- The state of a session as its producer reports it. -/
inductive SessionState where
  | pending
  | completed
  | failed
  /-- A state that this program does not know. -/
  | other (text : String)
  deriving DecidableEq, Repr, Inhabited

namespace SessionState

/-- The state that a text stands for. -/
def parse (raw : String) : SessionState :=
  if raw = "pending" then .pending
  else if raw = "completed" then .completed
  else if raw = "failed" then .failed
  else .other raw

/-- The text of a state. -/
def text : SessionState → String
  | pending => "pending"
  | completed => "completed"
  | failed => "failed"
  | other raw => raw

/-- Whether a state ends the session. -/
def isTerminal : SessionState → Bool
  | completed => true
  | failed => true
  | pending => false
  | other _ => false

/-- The name of a state as a log shows it. -/
def describe : SessionState → String
  | pending => "Pending"
  | completed => "Completed"
  | failed => "Failed"
  | other raw => "Other(" ++ Text.quoted raw ++ ")"

/-- A text that `parse` reads as a state is the text of that state. -/
@[simp] theorem text_parse (raw : String) : (parse raw).text = raw := by
  unfold parse
  split
  · next h => exact h.symm
  · split
    · next h => exact h.symm
    · split
      · next h => exact h.symm
      · rfl

end SessionState

/-- A state that may be missing, as a log shows it. -/
def describeState : Option SessionState → String
  | none => "None"
  | some s => "Some(" ++ s.describe ++ ")"

/-! ### Records -/

/-- What the record of a session says: its `SessionState` and the path of its artifact. -/
structure StateRecord where
  state? : Option SessionState
  path? : Option String
  deriving DecidableEq, Repr, Inhabited

namespace StateRecord

/-- The field that holds the state. -/
def stateField : String := "state"

/-- The field that holds the path of the result. -/
def pathField : String := "file_path"

/-- The value of a field; an empty value counts as none. -/
def field? (fields : Members String String) (name : String) : Option String :=
  (Members.get? fields name).filter (· ≠ "")

/-- The record with the fields `stateField` and `pathField`, by `field?`. -/
def ofFields (fields : Members String String) : StateRecord :=
  { state? := (field? fields stateField).map SessionState.parse
    path? := field? fields pathField }

/-- The record in a hash, by `ofFields`; a hash without fields is no record. -/
def ofHash? (fields : Members String String) : Option StateRecord :=
  if fields = [] then none else some (ofFields fields)

end StateRecord

/-! ### Notifications -/

/-- A change in the table of records.  The operation is for the log only. -/
structure Notification where
  key : String
  operation : String
  deriving DecidableEq, Repr, Inhabited

end FlowDump
