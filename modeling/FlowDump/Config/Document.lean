import FlowDump.Config.Basic
import FlowDump.Decimal.Unsigned
import FlowDump.Files.Filesystem
import FlowDump.Toml.Parser

/-!
# Configurations as documents

* `Config.set?` — a configuration with one field replaced by the value of a document.
* `Config.ofTable?` — the defaults with the fields of a table in place.
* `Config.parse` — the configuration of a document, if it passes `Config.check`.
* `Config.load` — the configuration of a file.  A file that need not be there and is not there
  counts as an empty one.
-/

namespace FlowDump.Config

/-! ### Values -/

/-- A text. -/
def text? : Toml.Value → Option String
  | .string s => some s
  | _ => none

/-- Texts in order, each of them by `text?`. -/
def texts? : Toml.Value → Option (List String)
  | .array items => items.mapM text?
  | _ => none

/-- A number that is not negative and at most `max`. -/
def count? (max : Nat) : Toml.Value → Option Nat
  | .integer n => if 0 ≤ n ∧ n ≤ max then some n.toNat else none
  | _ => none

/-- A number of 32 bits, by `count?`. -/
def count32? (v : Toml.Value) : Option UInt32 :=
  (count? Decimal.max32 v).map UInt32.ofNat

/-- A number of 64 bits, by `count?`. -/
def count64? (v : Toml.Value) : Option UInt64 :=
  (count? Decimal.max64 v).map UInt64.ofNat

/-! ### Tables -/

/-- Replace the field of a name; `none` if there is no such field or the value is of another
    kind. -/
def set? (c : Config) (name : String) (v : Toml.Value) : Option Config :=
  match name with
  | "request_path" => (text? v).map fun s => { c with requestPath := s }
  | "apply_command" => (texts? v).map fun l => { c with applyCommand := l }
  | "request_table" => (text? v).map fun s => { c with requestTable := s }
  | "state_table" => (text? v).map fun s => { c with stateTable := s }
  | "state_db_url" => (text? v).map fun s => { c with stateDbUrl := s }
  | "state_db_index" => (count32? v).map fun n => { c with stateDbIndex := n }
  | "config_db_url" => (text? v).map fun s => { c with configDbUrl := s }
  | "expected_switch_type" => (text? v).map fun s => { c with expectedSwitchType := s }
  | "grace_period_secs" => (count64? v).map fun n => { c with gracePeriodSecs := n }
  | "poll_interval_ms" => (count64? v).map fun n => { c with pollIntervalMillis := n }
  | _ => none

/-- The defaults with the fields of a table in place, set by `set?` one after the other. -/
def ofTable? (table : Toml.Table) : Option Config :=
  table.foldlM (fun c entry => c.set? entry.1 entry.2) {}

/-! ### Documents and files -/

/-- The configuration of a document: `ofTable?` of what `Toml.parse` gives, if it passes `check`. -/
def parse (text : String) : Except Fault Config :=
  match (Toml.parse text).bind ofTable? with
  | none => .error .document
  | some c => c.check.map fun _ => c

/-- The configuration of the file at a path, by `parse`; where there is no file and none is
    required, the defaults. -/
def load (fs : Filesystem) (path : String) (required : Bool) : Except Fault Config :=
  match fs.readText path with
  | .ok text => parse text
  | .error e =>
    if e = .system .notFound ∧ ¬ required then .ok {}
    else .error (.unreadable path e)

end FlowDump.Config
