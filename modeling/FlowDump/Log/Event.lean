import FlowDump.Decimal.Signed
import FlowDump.Failure
import FlowDump.Text.Quoted

/-!
# Log events

Everything the program tells about its work.

* `Log.Event` — an operation that starts, ends or fails, or a remark.
* `Log.Event.level`, `Log.Event.component`, `Log.Event.fields` — what is written of an event.
* `Log.Value` — the value of a field; `Log.Value.render` is its text.

Operations come in pairs: each `start` is to be followed by an `end` or an `end_error` of the same
operation.  Remarks stand for themselves.
-/

namespace FlowDump.Log

/-! ### Parts of an event -/

/-- How urgent an event is. -/
inductive Level where
  | error
  | warn
  | info
  | debug
  | trace
  deriving DecidableEq, Repr, Inhabited

namespace Level

/-- The name of a level. -/
def name : Level → String
  | error => "ERROR"
  | warn => "WARN"
  | info => "INFO"
  | debug => "DEBUG"
  | trace => "TRACE"

/-- How much a level lets through: 1 for errors only, 5 for everything. -/
def verbosity : Level → Nat
  | error => 1
  | warn => 2
  | info => 3
  | debug => 4
  | trace => 5

end Level

/-- The part of the program that an event comes from. -/
inductive Component where
  | decoder
  | trigger
  | watcher
  | dump
  | stateStore
  | keyspace
  | dumpCommand
  | decodeCommand
  deriving DecidableEq, Repr, Inhabited

/-- The path by which logs name a component. -/
def Component.path : Component → String
  | decoder => "flowdump_core::decoder"
  | trigger => "flowdump_core::trigger"
  | watcher => "flowdump_core::watcher"
  | dump => "flowdump_core::dump"
  | stateStore => "flowdump_store::state_db"
  | keyspace => "flowdump_store::keyspace"
  | dumpCommand => "flowdump::commands::dump"
  | decodeCommand => "flowdump::commands::decode"

/-- The value of a field. -/
inductive Value where
  | text (s : String)
  | number (n : Int)
  | flag (b : Bool)
  deriving DecidableEq, Repr, Inhabited

/-- The text of a value. -/
def Value.render : Value → String
  | .text s => s
  | .number n => String.ofList (Decimal.renderSigned n)
  | .flag true => "true"
  | .flag false => "false"

/-- A natural number as a value. -/
def Value.count (n : Nat) : Value := .number n

/-- A text as a value of its own, by `Text.quoted`. -/
def Value.quotedText (s : String) : Value := .text (Text.quoted s)

/-- Named values. -/
abbrev Fields := List (String × Value)

/-! ### Events -/

/-- How far an operation is; lengths of time are in milliseconds. -/
inductive Phase where
  | start
  | finish (millis : Nat)
  | fail (millis : Nat) (failure : Failure)
  deriving DecidableEq, Repr, Inhabited

/-- The name of a phase. -/
def Phase.name : Phase → String
  | start => "start"
  | finish _ => "end"
  | fail _ _ => "end_error"

/-- A remark. -/
structure Note where
  level : Level
  component : Component
  message : String
  fields : Fields := []
  deriving DecidableEq, Repr, Inhabited

/-- An operation reaches a phase. -/
structure Operation where
  component : Component
  name : String
  phase : Phase
  fields : Fields := []
  deriving DecidableEq, Repr, Inhabited

/-- A log event. -/
inductive Event where
  | operation (o : Operation)
  | note (n : Note)
  deriving DecidableEq, Repr, Inhabited

namespace Event

/-- The level of an event: failures are errors and other phases of operations are information; a
    `Note` has its own level. -/
def level : Event → Level
  | .operation { phase := .fail .., .. } => .error
  | .operation _ => .info
  | .note n => n.level

/-- Where an event comes from. -/
def component : Event → Component
  | .operation o => o.component
  | .note n => n.component

/-- What is written of a phase. -/
def phaseFields : Phase → Fields
  | .start => []
  | .finish millis => [("duration_ms", .count millis)]
  | .fail millis failure =>
    [("duration_ms", .count millis), ("err.kind", .text failure.report.kind.name),
      ("err.code", .text failure.report.code)]

/-- The fields of an event; `phaseFields` stand behind those of an operation. -/
def fields : Event → Fields
  | .operation o =>
    [("component", .text o.component.path), ("op", .text o.name), ("event", .text o.phase.name)]
      ++ phaseFields o.phase ++ o.fields
  | .note n => ("message", .text n.message) :: n.fields

/-- A field of an event. -/
def field? (e : Event) (name : String) : Option Value :=
  (e.fields.find? (fun f => f.1 = name)).map (·.2)

/-- Whether an event is the given phase of the given operation. -/
def isPhase (e : Event) (name phase : String) : Bool :=
  match e with
  | .operation o => o.name = name && o.phase.name = phase
  | .note _ => false

end Event

/-! ### Abbreviations -/

/-- The field that names a session. -/
def sessionField (session : SessionName) : String × Value :=
  ("session", .text session.text)

end FlowDump.Log
