import FlowDump.Rehearsal.Shell.Glob

/-!
# Fields of words

A word in which everything has been looked up consists of runs.  Some of them are split into fields.

* `Shell.Cell`, `Shell.Run` — the runs of a word.
* `Fields.split` — the fields of a word.
-/

namespace FlowDump.Rehearsal.Shell

/-! ### Runs -/

/-- What a run is made of. -/
inductive Cell where
  | glyph (g : Glyph)
  /-- A quote mark, which keeps a field that would be empty without it. -/
  | mark
  /-- The end of one of several parameters. -/
  | gap
  deriving DecidableEq, Repr, Inhabited

/-- How a run takes part in splitting. -/
inductive Splitting where
  /-- The run is not split. -/
  | fixed
  /-- The run is split at separators and at gaps. -/
  | loose
  /-- The run is split at gaps. -/
  | listed
  deriving DecidableEq, Repr, Inhabited

/-- Cells that are split in the same way. -/
structure Run where
  splitting : Splitting
  cells : List Cell
  deriving Inhabited

namespace Fields

/-- The characters of cells. -/
def glyphs (cells : List Cell) : List Glyph :=
  cells.filterMap fun
    | .glyph g => some g
    | _ => none

/-- The text of cells. -/
def text (cells : List Cell) : Octets := (glyphs cells).map (·.char)

/-- The cells of a text. -/
def cells (quoted : Bool) (o : Octets) : List Cell := o.map fun c => .glyph ⟨c, quoted⟩

/-- Put a run after others, which come last run first with the last cell first in each.  Two runs
    that are split in the same way stay apart unless they are `joined`. -/
def push (runs : List Run) (r : Run) (joined : Bool) : List Run :=
  match runs with
  | last :: others =>
    if joined ∧ last.splitting = r.splitting then
      { last with cells := r.cells.reverse ++ last.cells } :: others
    else { r with cells := r.cells.reverse } :: runs
  | [] => [{ r with cells := r.cells.reverse }]

/-- Runs in order. -/
def inOrder (runs : List Run) : List Run :=
  runs.reverse.map fun r => { r with cells := r.cells.reverse }

/-- All cells of runs in order. -/
def allCells (runs : List Run) : List Cell := (runs.flatMap (·.cells)).reverse

/-! ### Splitting -/

/-- The separators that count for nothing at the ends of a field. -/
def blanks : Octets := [' ', '\t', '\n']

/-- How far a word has been split. -/
structure Splitter where
  /-- The fields so far, last field first. -/
  done : List (List Cell) := []
  /-- The cells of the present field, last cell first. -/
  current : List Cell := []
  /-- The last cell was a blank that has ended a field. -/
  afterBlank : Bool := false
  /-- The last run was split at gaps only. -/
  afterListed : Bool := false
  /-- How many fields may still be ended, if that is limited. -/
  left? : Option Nat := none
  /-- Where the last field is cut off. -/
  cut? : Option Nat := none
  deriving Inhabited

namespace Splitter

/-- Take a cell of a run that is split. -/
def take (separators : Octets) (listed after : Bool) (s : Splitter) (c : Cell) : Splitter :=
  let isEnd : Bool := match c with
    | .gap => true
    | .mark => false
    | .glyph g => !listed && g.char ∈ separators
  let isBlank : Bool := isEnd && match c with
    | .glyph g => g.char ∈ blanks
    | _ => true
  let kept := { s with current := c :: s.current }
  if s.left? = some 0 then
    if isBlank then { kept with cut? := s.cut?.or (some s.current.length) }
    else { kept with cut? := if isEnd && s.afterBlank then s.cut? else none, afterBlank := false }
  else if s.afterBlank then
    -- blanks, and one other separator among them, belong to the end of the field before
    if isEnd then { s with current := [], afterBlank := isBlank }
    else { s with current := [c], afterBlank := false }
  else if isEnd then
    let afterBlank := isBlank && !listed && !after
    if s.current = [] ∧ afterBlank then s
    else if s.left? = some 1 then
      { kept with left? := some 0, cut? := some s.current.length, afterBlank }
    else
      { s with
        done := s.current.reverse :: s.done, current := [], afterBlank
        left? := s.left?.map (· - 1) }
  else { kept with afterBlank := false }

/-- Take a run. -/
def takeRun (separators : Octets) (s : Splitter) (r : Run) : Splitter :=
  match r.splitting with
  | .fixed => { s with current := r.cells.reverse ++ s.current }
  | splitting =>
    let listed := splitting = .listed
    let s' := r.cells.foldl (take separators listed s.afterListed) { s with afterBlank := false }
    { s' with afterListed := listed }

/-- The fields in the end. -/
def finish (s : Splitter) : List (List Cell) :=
  let all := s.current.reverse
  let last := match s.cut? with
    | some n => all.take n
    | none => all
  if last = [] ∧ !s.afterListed then s.done.reverse else (last :: s.done).reverse

end Splitter

/-- The fields of a word; with a limit the last one of so many keeps the separators in it. -/
def split (separators : Octets) (limit? : Option Nat) (runs : List Run) : List (List Cell) :=
  (runs.foldl (Splitter.takeRun separators) { left? := limit? }).finish

end Fields

end FlowDump.Rehearsal.Shell
