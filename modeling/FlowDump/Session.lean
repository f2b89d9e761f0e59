import FlowDump.Json.Parser
import FlowDump.Json.Printer
import FlowDump.Uuid

/-!
# Sessions

* `SessionName` — the name of one dump job, which is also the last part of its keys.
* `SessionName.generate` — a new name from a fresh identifier.
* `SessionName.toJson`, `SessionName.parse?` — a name as a JSON string and back.
-/

namespace FlowDump

/-- The name of a dump session. -/
structure SessionName where
  text : String
  deriving DecidableEq, Repr, Inhabited

namespace SessionName

/-- What every generated name starts with. -/
def stem : String := "flow_dump_"

/-- The name for a fresh identifier: the `stem` and `Uuid.hex`. -/
def generate (u : Uuid) : SessionName :=
  ⟨stem ++ u.hex⟩

/-- A name as a `Json` string. -/
def toJson (s : SessionName) : Json := .string s.text

/-- The name in the text of a `Json` string. -/
def parse? (text : String) : Option SessionName :=
  match Json.parse text.toList with
  | some (.string s) => some ⟨s⟩
  | _ => none

end SessionName

end FlowDump
