import FlowDump.Rehearsal.Shell.Arithmetic
import FlowDump.Rehearsal.Shell.Fields

/-!
# Expansion of words

* `Expansion.value` — the value of a parameter.
* `Expansion.runs` — the runs of a word.
* `Expansion.fields`, `Expansion.text`, `Expansion.pattern` — what a word comes to as an argument,
  as a single text, and as a pattern.

The commands in a word are run by `outputOf`, which gives their output.
-/

namespace FlowDump.Rehearsal.Shell

namespace Expansion

/-- How a word is expanded. -/
structure Manner where
  /-- The word may become several fields. -/
  splits : Bool := false
  /-- A home may be named at the start of the word. -/
  tildes : Bool := true
  /-- A home may be named after each colon. -/
  inAssignment : Bool := false
  /-- The word stands in the braces of a parameter, and what is not quoted in it is split. -/
  isOperand : Bool := false
  deriving Inhabited

/-! ### Parameters -/

/-- The letters of the options, in the order in which they are listed. -/
def optionLetters : List Char :=
  ['u', 'b', 'a', 'C', 'E', 'V', 'v', 'x', 's', 'n', 'm', 'i', 'I', 'f', 'e']

/-- Texts with something in between. -/
def joined (between : List Cell) (quoted : Bool) (all : List Octets) : List Cell :=
  (all.map (Fields.cells quoted)).intersperse between |>.flatten

/-- The values of all parameters as one run. -/
def allValues (m : Manner) (name : Octets) (quoted : Bool) : Act Run := do
  let s ← get
  if m.splits ∧ quoted ∧ name = ['@'] then
    let splitting := if s.parameters = [] then .fixed else .listed
    return { splitting, cells := joined [.gap] true s.parameters }
  else
    let between : List Cell := match s.lookup? ['I', 'F', 'S'] with
      | none => Fields.cells quoted [' ']
      | some separators =>
        if m.splits ∧ !quoted then [.gap] else Fields.cells quoted (separators.take 1)
    let splitting := if quoted then .fixed else .loose
    return { splitting, cells := joined between quoted s.parameters }

/-- The text of a parameter other than all of them. -/
def single? (s : State) (name : Octets) : Option Octets :=
  match name with
  | ['$'] => some (Octets.ofNat s.number)
  | ['?'] => some (Octets.ofNat s.status)
  | ['#'] => some (Octets.ofNat s.parameters.length)
  | ['!'] => s.lastJob?.map Octets.ofNat
  | ['-'] => some (optionLetters.filter s.has)
  | c :: _ =>
    if c.isDigit then
      match Decimal.readDigits? (1 <<< 31) name with
      | some 0 => some s.name
      | some n => s.parameters[n - 1]?
      | none => none
    else if name = "LINENO".toList then some (Octets.ofNat s.shownLine)
    else s.lookup? name
  | [] => none

/-- The value of a parameter, if it has one. -/
def value (m : Manner) (name : Octets) (quoted : Bool) : Act (Option Run) := do
  if name = ['@'] ∨ name = ['*'] then return some (← allValues m name quoted)
  let splitting := if quoted then .fixed else .loose
  return (single? (← get) name).map fun o => { splitting, cells := Fields.cells quoted o }

/-- The value of a parameter that has to have one if the script asks for that. -/
def required (m : Manner) (name : Octets) (quoted : Bool) : Act (Option Run) := do
  let run? ← value m name quoted
  if run?.isNone ∧ (← get).has 'u' then Act.refuse (name ++ ": parameter not set".toList)
  return run?

/-! ### Homes -/

/-- The homes of users. -/
def homes : List (String × String) := [("root", "/root")]

/-- The home that is named after a tilde, and the length of its name; there is none where the name
    is quoted. -/
def home? (s : State) (inAssignment : Bool) (w : Word) : Option (Octets × Nat) :=
  let isName (p : Piece) : Bool := match p with
    | .plain c => c ≠ '/' && !(inAssignment && c = ':')
    | _ => false
  let name := w.takeWhile isName
  match w.drop name.length with
  | [] | .plain _ :: _ =>
    let name := (Word.plain? name).getD []
    let home? := if name = [] then s.lookup? "HOME".toList
      else (homes.find? fun h => h.1.toList = name).map (·.2.toList)
    home?.map (·, name.length)
  | _ => none

/-! ### Words -/

/-- The complaint about a parameter without a value. -/
def complaint (name message : Octets) (w : Word) (orEmpty : Bool) : Octets :=
  name ++ ": ".toList ++
    if w.isEmpty then (if orEmpty then "parameter not set or null" else "parameter not set").toList
    else message

/-- A number as a run. -/
def numberRun (inQuotes : Bool) (o : Octets) : Run :=
  { splitting := if inQuotes then .fixed else .loose, cells := Fields.cells inQuotes o }

/-- The text of the cells of runs, the last run of which comes first. -/
def plainText (runs : List Run) : Octets := Fields.text (Fields.allCells runs)

/-- The value of a parameter without what a pattern matches at one of its ends. -/
def trimmed (r : Run) (pattern : List Run) (atEnd longest quoted : Bool) : Run :=
  let parts := Glob.compile (Fields.glyphs (Fields.allCells pattern))
  let o := Fields.text (r.cells.takeWhile (· ≠ .gap))
  let rest := if atEnd then Glob.cutBack longest parts o else Glob.cutFront longest parts o
  { r with cells := Fields.cells quoted rest }

mutual

/-- The runs of a piece after others; the last run comes first. -/
def piece (outputOf : Command → Act Octets) (m : Manner) (done : List Run) :
    Piece → Act (List Run)
  | .plain c =>
    return Fields.push done ⟨if m.isOperand then .loose else .fixed, [.glyph ⟨c, false⟩]⟩ true
  | .quoted c => return Fields.push done ⟨.fixed, [.glyph ⟨c, true⟩]⟩ true
  | .mark => return Fields.push done ⟨.fixed, [.mark]⟩ true
  | .output command inQuotes => do
    let o ← outputOf command
    return Fields.push done (numberRun inQuotes o) false
  | .arithmetic expression inQuotes => do
    let written ← runs outputOf { tildes := false } [] false 0 expression
    let n ← Arithmetic.evaluate (plainText written)
    return Fields.push done (numberRun inQuotes (Arithmetic.render n)) false
  | .parameter name operation word inQuotes => do
    let after (run? : Option Run) : List Run := match run? with
      | some r => Fields.push done r false
      | none => done
    match operation with
    | .unknown => Act.refuse "Bad substitution".toList
    | .value => return after (← required m name inQuotes)
    | .length =>
      let n := ((← required m name inQuotes).map (·.cells.length)).getD 0
      return Fields.push done (numberRun inQuotes (Octets.ofNat n)) false
    | .trim atEnd longest =>
      match ← required m name inQuotes with
      | none => return done
      | some r =>
        let pattern ← runs outputOf {} [] true 0 word
        return Fields.push done (trimmed r pattern atEnd longest inQuotes) false
    | .substitute how orEmpty =>
      let run? ← value m name inQuotes
      let isThere := run?.any fun r => !orEmpty || !r.cells.isEmpty
      match how, isThere with
      | .fallback, true | .assign, true | .complain, true => return after run?
      | .fallback, false | .replace, true =>
        runs outputOf { m with isOperand := true } done true 0 word
      | .replace, false => return done
      | .assign, false =>
        let o := plainText (← runs outputOf {} [] true 0 word)
        if !Octets.isName name then Act.refuse (name ++ ": bad variable name".toList)
        Act.assign name o
        return after (← value m name inQuotes)
      | .complain, false =>
        let o := plainText (← runs outputOf {} [] true 0 word)
        Act.refuse (complaint name o word orEmpty)

/-- The runs of a word after others; the last run comes first.  A home may be named here if
    `atStart` says so, and so many pieces are passed over first. -/
def runs (outputOf : Command → Act Octets) (m : Manner) (done : List Run) (atStart : Bool)
    (skipped : Nat) : Word → Act (List Run)
  | [] => return done
  | p :: rest => do
    match skipped with
    | skipped + 1 => runs outputOf m done false skipped rest
    | 0 =>
      let s ← get
      let home? := match p with
        | .plain '~' => if atStart && m.tildes then home? s m.inAssignment rest else none
        | _ => none
      match home? with
      | some (o, length) =>
        runs outputOf m (Fields.push done ⟨.fixed, Fields.cells true o⟩ true) false length rest
      | none =>
        match p, rest with
        | .mark, .parameter ['@'] .value [] true :: .mark :: _ =>
          -- all parameters in quotes of their own: without any of them there is no field
          let r ← allValues m ['@'] true
          runs outputOf m (Fields.push done r false) false 2 rest
        | _, _ =>
          let done ← piece outputOf m done p
          let afterColon : Bool := match p with
            | .plain ':' => m.inAssignment
            | _ => false
          runs outputOf m done afterColon 0 rest

end

/-- The text of a word that is one argument. -/
def text (outputOf : Command → Act Octets) (w : Word) : Act Octets := do
  return plainText (← runs outputOf {} [] true 0 w)

/-- The value of a word that is assigned. -/
def assigned (outputOf : Command → Act Octets) (w : Word) : Act Octets := do
  return plainText (← runs outputOf { inAssignment := true } [] true 0 w)

/-- The text of a document. -/
def document (outputOf : Command → Act Octets) (w : Word) : Act Octets := do
  return plainText (← runs outputOf { tildes := false } [] false 0 w)

/-- The pattern that a word is. -/
def pattern (outputOf : Command → Act Octets) (w : Word) : Act (List Glob.Part) := do
  let all ← runs outputOf {} [] true 0 w
  return Glob.compile (Fields.glyphs (Fields.allCells all))

/-- The fields that a word comes to. -/
def fields (outputOf : Command → Act Octets) (w : Word) : Act (List Octets) := do
  let all ← runs outputOf { splits := true } [] true 0 w
  let s ← get
  return (Fields.split s.separators none (Fields.inOrder all)).flatMap fun field =>
    let g := Fields.glyphs field
    if s.has 'f' ∨ !Glob.hasMarks g then [Glob.plain g]
    else match Glob.paths s.system.files g with
      | [] => [Glob.plain g]
      | paths => paths

end Expansion

end FlowDump.Rehearsal.Shell
