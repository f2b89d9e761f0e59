import FlowDump.Members

/-!
# JSON values

* `Json.Number` — an integer of 64 bits, or a double-precision number by its encoding.
* `Json` — a value; an object keeps its members in order.
* `Json.object` values built by `Json.ofMembers` have distinct keys.
-/

namespace FlowDump

/-- A number as a document holds it: integers that fit 64 bits stay exact, all others are doubles,
    given by their 64 bits. -/
inductive Json.Number where
  | integer (value : Int)
  | double (bits : UInt64)
  deriving DecidableEq, Repr, Inhabited

/-- A JSON value. -/
inductive Json where
  | null
  | bool (value : Bool)
  | number (value : Json.Number)
  | string (value : String)
  | array (items : List Json)
  | object (members : List (String × Json))
  deriving Repr, Inhabited

namespace Json

/-- The object with the given members, by `Members.ofList`: later values for a key replace earlier
    ones. -/
def ofMembers (pairs : List (String × Json)) : Json :=
  .object (Members.ofList pairs)

/-- The object's members, if this is an object. -/
def members? : Json → Option (Members String Json)
  | .object members => some members
  | _ => none

end Json

end FlowDump
