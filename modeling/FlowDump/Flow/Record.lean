import FlowDump.Flow.Names
import FlowDump.Json.Parser
import FlowDump.Json.Printer
import FlowDump.Text.Utf8

/-!
# Flow records

* `Flow.Record` — one flow, its fields under their long names.
* `Flow.Record.ofMembers` — the record of an object as written.
* `Flow.Record.ofLine?` — the record of one line of an artifact.
-/

namespace FlowDump.Flow

/-- One decoded flow: its fields in order, no name twice. -/
structure Record where
  fields : Members String Json
  deriving Repr, Inhabited

namespace Record

/-- Show every field of an object under its long name, by `relabel`.  Where two fields come under
    one name the first keeps its place and the last its value. -/
def ofMembers (raw : Members String Json) : Record :=
  ⟨Members.ofList (raw.map fun p => (relabel p.1, p.2))⟩

/-- The value of a field. -/
def get? (r : Record) (name : String) : Option Json :=
  Members.get? r.fields name

/-- The names of the fields in order. -/
def keys (r : Record) : List String :=
  Members.keys r.fields

/-- The record as an object. -/
def toJson (r : Record) : Json := .object r.fields

/-- The record of a line that holds one JSON object; `none` for every other line. -/
def ofLine? (line : List UInt8) : Option Record := do
  let text ← Utf8.decode? line
  let value ← Json.parse text.toList
  let raw ← value.members?
  return ofMembers raw

end Record

end FlowDump.Flow
