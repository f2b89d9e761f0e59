import FlowDump.Members

/-!
# TOML documents

* `Toml.Value` — a value; floats and dates are kept as they are written.
* `Toml.Table` — names with their values.
* `Toml.Statement` — one line of a document: a pair, or the header of a table.
* `Toml.build?` — the table that a sequence of statements makes, unless one of them redefines what
  an earlier one has defined.
-/

namespace FlowDump.Toml

/-! ### Values -/

/-- A value. -/
inductive Value where
  | string (s : String)
  | integer (n : Int)
  | float (text : String)
  | boolean (b : Bool)
  | datetime (text : String)
  | array (items : List Value)
  | table (entries : List (String × Value))
  deriving Repr, Inhabited

/-- Names with their values, in the order of their definition. -/
abbrev Table := Members String Value

/-- One line of a document.  A name may lead through several tables. -/
inductive Statement where
  | pair (path : List String) (value : Value)
  | header (path : List String)
  | arrayHeader (path : List String)
  deriving Repr, Inhabited

/-! ### Tables under construction -/

/-- How a table came about: on the way to another one, by a dotted name, or by its header. -/
inductive Origin where
  | implied
  | dotted
  | headed
  deriving DecidableEq, Repr

/-- An entry of a table under construction: a value, which is complete, a table that may still
    grow, or an array of tables of which the last may still grow. -/
inductive Entry where
  | value (v : Value)
  | table (origin : Origin) (entries : List (String × Entry))
  | tables (elements : List (List (String × Entry)))
  deriving Inhabited

/-- The entries of a table under construction. -/
abbrev Entries := List (String × Entry)

/-- Change the entries at the end of a path of tables, making tables that are missing. -/
def descend :
    (path : List String) → (change : Entries → Option Entries) → Entries → Option Entries
  | [], change, es => change es
  | k :: path, change, es =>
    match Members.get? es k with
    | none => (descend path change []).map fun sub => Members.insert k (.table .implied sub) es
    | some (.value _) => none
    | some (.table origin sub) =>
      (descend path change sub).map fun sub => Members.insert k (.table origin sub) es
    | some (.tables elements) =>
      -- a name that leads through an array of tables means the last of them
      match elements.getLast? with
      | none => none
      | some last =>
        (descend path change last).map fun last =>
          Members.insert k (.tables (elements.dropLast ++ [last])) es

/-- Define a value under a dotted name.  A table that has a header or is complete cannot be
    extended so. -/
def define (v : Value) : (path : List String) → Entries → Option Entries
  | [], _ => none
  | [k], es =>
    match Members.get? es k with
    | none => some (Members.insert k (.value v) es)
    | some _ => none
  | k :: next :: path, es =>
    match Members.get? es k with
    | none => (define v (next :: path) []).map fun sub => Members.insert k (.table .dotted sub) es
    | some (.table .headed _) => none
    | some (.table origin sub) =>
      (define v (next :: path) sub).map fun sub => Members.insert k (.table origin sub) es
    | some _ => none

/-- Give a table its header.  Only a table that came about on the way to another one may be there
    already. -/
def openHeader (k : String) (es : Entries) : Option Entries :=
  match Members.get? es k with
  | none => some (Members.insert k (.table .headed []) es)
  | some (.table .implied sub) => some (Members.insert k (.table .headed sub) es)
  | some _ => none

/-- Start the next table of an array of tables. -/
def push (k : String) (es : Entries) : Option Entries :=
  match Members.get? es k with
  | none => some (Members.insert k (.tables [[]]) es)
  | some (.tables elements) => some (Members.insert k (.tables (elements ++ [[]])) es)
  | some _ => none

/-- Change the entries that hold the last name of a path, which `descend` leads to. -/
def atLast (path : List String) (change : String → Entries → Option Entries) (es : Entries) :
    Option Entries :=
  match path.getLast? with
  | none => none
  | some k => descend path.dropLast (change k) es

/-- Carry statements out.  `current` is the path of the table that pairs belong to. -/
def construct : (current : List String) → Entries → List Statement → Option Entries
  | _, es, [] => some es
  | current, es, .pair path v :: rest =>
    (descend current (define v path) es).bind fun es => construct current es rest
  | _, es, .header path :: rest =>
    (atLast path openHeader es).bind fun es => construct path es rest
  | _, es, .arrayHeader path :: rest =>
    (atLast path push es).bind fun es => construct path es rest

/-! ### Finished tables -/

mutual

/-- A finished entry as a value. -/
def Entry.finish : Entry → Value
  | .value v => v
  | .table _ entries => .table (finishEntries entries)
  | .tables elements => .array (finishTables elements)

/-- Finished entries. -/
def finishEntries : List (String × Entry) → List (String × Value)
  | [] => []
  | (k, e) :: rest => (k, e.finish) :: finishEntries rest

/-- The finished tables of an array. -/
def finishTables : List (List (String × Entry)) → List Value
  | [] => []
  | es :: rest => .table (finishEntries es) :: finishTables rest

end

/-- The table that a sequence of statements makes, by `construct` and `finishEntries`. -/
def build? (statements : List Statement) : Option Table :=
  (construct [] [] statements).map finishEntries

end FlowDump.Toml
