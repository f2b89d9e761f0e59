import FlowDump.Decimal.Unsigned
import FlowDump.Log.Event
import FlowDump.Text.Alphanumeric
import FlowDump.Text.Blank
import FlowDump.Text.Pattern
import FlowDump.Text.Split

/-!
# Directives of a log filter

A directive is a level alone, or `target[span{field}]=level`, in which every part but one may be
left out.  Without a level it lets everything through.

* `Log.Directive` — which events a directive is about, and how many of them it lets through.
* `Log.Directive.parse` — the directive that a text describes; `Directive.Fault` is why it describes
  none.
* `Log.Directive.concerns` — whether it is about an event.
* `Log.Directive.isNarrower` — whether it is about less than another one.
-/

namespace FlowDump.Log

/-! ### Verbosities -/

/-- The names of the verbosities, from 0 on. -/
def verbosityNames : List String := ["off", "error", "warn", "info", "debug", "trace"]

/-- The verbosity of a name in `verbosityNames`, or of a number. -/
def verbosity? (s : List Char) : Option Nat :=
  match Decimal.readUnsigned? 5 s with
  | some n => some n
  | none => verbosityNames.findIdx? (· = String.ofList (s.map Char.toLower))

/-! ### Directives -/

/-- Let events from a target through up to a verbosity, 0 for none and 5 for all.  Every component
    starts with the empty target. -/
structure Directive where
  target : String := ""
  /-- A field that the events have. -/
  field? : Option String := none
  /-- The events happen within some spans only.  As the program opens no spans, there are none. -/
  inSpan : Bool := false
  verbosity : Nat := Level.trace.verbosity
  deriving DecidableEq, Repr, Inhabited

namespace Directive

/-! ### What a directive is about -/

/-- Whether a directive is about an event. -/
def concerns (d : Directive) (e : Event) : Bool :=
  !d.inSpan && d.target.toList.isPrefixOf e.component.path.toList &&
    d.field?.all fun field => (e.field? field).isSome

/-- Whether a directive is about less than another one: its target is longer, or it asks for a field
    in addition, or for one whose name comes later. -/
def isNarrower (d other : Directive) : Bool :=
  if d.target.length ≠ other.target.length then other.target.length < d.target.length
  else match other.field?, d.field? with
    | none, some _ => true
    | some theirs, some ours => theirs < ours
    | _, none => false

/-! ### Reading -/

/-- Why a text describes no directive. -/
inductive Fault where
  | malformed
  /-- A word of it would begin or end within a character. -/
  | withinCharacter
  deriving DecidableEq, Repr, Inhabited

/-- A character at the first of its bytes, and nothing at the others. -/
def spread (s : List Char) : List (Option Char) :=
  s.flatMap fun c => some c :: List.replicate (c.utf8Size - 1) none

/-- A text that is read for its marks, byte by byte: what is read there, with what is taken there.
    Marks are looked for in the text without the blanks at its ends, but taken is from the text with
    them, so that blanks in front move all words. -/
structure Cells where
  cells : List (Option Char × Option Char)
  /-- What can be taken after the last byte that is read. -/
  tail : List (Option Char)
  deriving Repr

namespace Cells

/-- A text to be read, byte by byte by `spread`. -/
def ofText (s : List Char) : Cells :=
  let inner := spread (Text.trim (String.ofList s)).toList
  { cells := inner.zip (spread s), tail := (spread s).drop inner.length }

/-- Everything that is taken from here on. -/
def taken (c : Cells) : List (Option Char) := c.cells.map (·.2) ++ c.tail

/-- Whether a character begins here, or nothing follows. -/
def isBetween (taken : List (Option Char)) : Bool := taken.head? ≠ some none

/-- Everything that can be `taken`, as a word. -/
def all (c : Cells) : Except Fault (List Char) :=
  if isBetween c.taken then .ok (c.taken.filterMap id) else .error .withinCharacter

/-- The word before the first of some marks, the mark, and what is read after it. -/
def cut? (marks : List Char) (c : Cells) : Except Fault (Option (List Char × Char × Cells)) :=
  let isMark (p : Option Char × Option Char) : Bool := p.1.any (· ∈ marks)
  match c.cells.dropWhile (!isMark ·) with
  | (some mark, here) :: rest =>
    let word := (c.cells.takeWhile (!isMark ·)).map (·.2)
    if isBetween (word ++ [here]) ∧ here ≠ none then
      .ok (some (word.filterMap id, mark, { c with cells := rest }))
    else .error .withinCharacter
  | _ => .ok none

/-- The word before the first of some marks, by `cut?`, where a mark is needed. -/
def cut (marks : List Char) (c : Cells) : Except Fault (List Char × Char × Cells) := do
  match ← c.cut? marks with
  | some found => .ok found
  | none => .error .malformed

end Cells

/-- Whether a directive may start with a character that opens no span. -/
def isStart (c : Char) : Bool :=
  c = '-' || c = ':' || c = '_' || Text.isAlphanumeric c

/-- Whether a text is a number with a point, an exponent, or without bounds. -/
def isNumber (s : List Char) : Bool :=
  let (mantissa, exponent?) := Text.cut 'e' (s.map Char.toLower)
  let (whole, fraction?) := Text.cut '.' mantissa
  let exponent := match exponent?.getD ['0'] with
    | '+' :: digits => digits
    | '-' :: digits => digits
    | digits => digits
  let digits := whole ++ fraction?.getD []
  String.ofList (s.map Char.toLower) ∈ ["inf", "infinity", "nan"] ||
    (digits ≠ [] && exponent ≠ [] && (digits ++ exponent).all Char.isDigit)

/-- Whether a field may be asked to have a value: a number with a plus sign, or a pattern, which
    other numbers are too. -/
def isValue (s : List Char) : Bool :=
  match s with
  | '+' :: digits => isNumber digits
  | s => Text.isPattern s

/-- Ask for a field.  Only a span can be asked for the value of a field, by `isValue`. -/
def withField (d : Directive) (s : List Char) : Except Fault Directive :=
  match Text.split '=' s with
  | name :: value :: _ =>
    if isValue value then .ok { d with field? := some (String.ofList name), inSpan := true }
    else .error .malformed
  | _ => if s = [] then .error .malformed else .ok { d with field? := some (String.ofList s) }

/-- Set the level, by `verbosity?`; an empty one lets everything through. -/
def withLevel (d : Directive) (c : Cells) : Except Fault Directive := do
  let level ← c.all
  if level = [] then return d
  match verbosity? level with
  | some verbosity => return { d with verbosity }
  | none => .error .malformed

/-- Read what follows the brackets of a span: nothing, or a level. -/
def readEnd (d : Directive) (c : Cells) : Except Fault Directive :=
  match c.cells with
  | [] => .ok d
  | (some '=', _) :: rest => d.withLevel { c with cells := rest }
  | _ => .error .malformed

/-- Read the field of a span by `withField`, and what follows by `readEnd`. -/
def readField (d : Directive) (c : Cells) : Except Fault Directive := do
  let (field, _, c) ← c.cut ['\x7d']
  let d ← d.withField field
  match c.cells with
  | (some ']', _) :: rest => d.readEnd { c with cells := rest }
  | _ => .error .malformed

/-- Read a span, from after its bracket, and what follows: `readField` or `readEnd`. -/
def readSpan (d : Directive) (c : Cells) : Except Fault Directive := do
  match ← c.cut [']', '\x7b'] with
  | (_, ']', c) => readEnd { d with inSpan := true } c
  | (name, _, c) => readField { d with inSpan := name ≠ [] } c

/-- Read a directive that starts with a level or a target; a span is left to `readSpan`. -/
def readTarget (c : Cells) : Except Fault Directive := do
  match ← c.cut? ['=', '['] with
  | none =>
    let word ← c.all
    return match verbosity? word with
      | some verbosity => { verbosity }
      | none => { target := String.ofList word }
  | some (target, '=', c) => withLevel { target := String.ofList target } c
  | some (target, _, c) => readSpan { target := String.ofList target } c

/-- The directive that a text describes: `readSpan` or `readTarget`, by how it starts. -/
def parse (s : List Char) : Except Fault Directive :=
  let c := Cells.ofText s
  match c.cells with
  | (some '[', _) :: rest => readSpan {} { c with cells := rest }
  | (some first, _) :: _ => if isStart first then readTarget c else .error .malformed
  | _ => .error .malformed

end Directive

end FlowDump.Log
