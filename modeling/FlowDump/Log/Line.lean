import FlowDump.Json.Printer
import FlowDump.Log.Filter

/-!
# Log lines

* `Log.Event.toJson` — an event as a structured line.
* `Log.Event.toText` — an event as a line for people.
* `Log.render` — the lines of the events that a filter lets through.
-/

namespace FlowDump.Log

/-- The value of a field in a structured line. -/
def Value.toJson : Value → Json
  | .text s => .string s
  | .number n => .number (.integer n)
  | .flag b => .bool b

namespace Event

/-- An event as an object, by `Value.toJson`: its level, its fields and where it comes from. -/
def toJson (e : Event) : Json :=
  .object
    [("level", .string e.level.name),
      ("fields", Json.ofMembers (e.fields.map fun f => (f.1, f.2.toJson))),
      ("target", .string e.component.path)]

/-- An event as a line for people: its level, where it comes from, its message if it has one, and
    its other fields. -/
def toText (e : Event) : String :=
  let field (f : String × Value) : String :=
    if f.1 = "message" then f.2.render else f.1 ++ "=" ++ f.2.render
  " ".intercalate ((e.level.name ++ " " ++ e.component.path ++ ":") :: e.fields.map field)

/-- The line of an event: `toJson` or `toText`, by the profile. -/
def line (profile : Profile) (e : Event) : String :=
  match profile with
  | .structured => String.ofList e.toJson.compact
  | _ => e.toText

end Event

/-- The lines of the events that `Filter.allows`. -/
def render (profile : Profile) (filter : Filter) (events : List Event) : List String :=
  (events.filter filter.allows).map (·.line profile)

end FlowDump.Log
