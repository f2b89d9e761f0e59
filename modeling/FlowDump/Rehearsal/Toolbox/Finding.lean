import FlowDump.Rehearsal.Regex
import FlowDump.Rehearsal.Toolbox.Contents

/-!
# Programs that find lines

* `Finding.Rules` — which lines are looked for, and what is written about them.
* `Toolbox.grep` — the lines in which one of several expressions is found.
-/

namespace FlowDump.Rehearsal.Toolbox

namespace Finding

/-! ### Lines that are looked for -/

/-- Where an expression has to be found. -/
inductive Extent where
  | anywhere
  /-- As whole words. -/
  | words
  /-- As the whole line. -/
  | line
  deriving DecidableEq, Repr, Inhabited

/-- Which lines are looked for. -/
structure Rules where
  expressions : List Regex
  fold : Bool := false
  inverted : Bool := false
  extent : Extent := .anywhere
  deriving Inhabited

/-- Whether a part of a line stands apart from letters on both sides. -/
def isWord (text : Array Char) (first last : Nat) : Bool :=
  let before := first ≠ 0 && text[first - 1]?.any Regex.isInWord
  let after := text[last]?.any Regex.isInWord
  !before && !after

/-- The end of the longest part of a line that is meant and starts at a place. -/
def Rules.endAt? (r : Rules) (line : Array Char) (first : Nat) : Option Nat :=
  let ends := r.expressions.flatMap fun e =>
    (e.ends r.fold line line.size { index := first }).map (·.index)
  let meant := ends.filter fun last => match r.extent with
    | .anywhere => true
    | .words => isWord line first last
    | .line => first = 0 && last = line.size
  meant.foldl (fun best? last => some (max (best?.getD 0) last)) none

/-- The first part of a line that is meant, from a place on. -/
def Rules.first? (r : Rules) (line : Array Char) (start : Nat) : Option (Nat × Nat) :=
  (List.range (line.size + 1 - start)).findSome? fun i =>
    (r.endAt? line (start + i)).map (start + i, ·)

/-- All parts of a line that are meant and not empty; at most `fuel` of them. -/
def Rules.parts (r : Rules) (line : Array Char) : (fuel start : Nat) → List Octets
  | 0, _ => []
  | fuel + 1, start =>
    match r.first? line start with
    | none => []
    | some (first, last) =>
      if last = first then r.parts line fuel (first + 1)
      else (line.extract first last).toList :: r.parts line fuel last

/-- Whether a line is looked for. -/
def Rules.selects (r : Rules) (line : Octets) : Bool :=
  (r.first? line.toArray 0).isSome != r.inverted

/-! ### What is written -/

/-- What is written about the lines of a text. -/
structure Style where
  numbers : Bool := false
  onlyParts : Bool := false
  before : Nat := 0
  after : Nat := 0
  most? : Option Nat := none
  /-- Bytes that are no text are shown as they are. -/
  asText : Bool := false
  deriving Inhabited

/-- The lines that are looked for, with their numbers; at most so many of them. -/
def selected (r : Rules) (most? : Option Nat) (lines : List Octets) : List (Nat × Octets) :=
  let found := (lines.zipIdx.map fun l => (l.2, l.1)).filter fun l => r.selects l.2
  match most? with
  | some n => found.take n
  | none => found

/-- The numbers of the lines around some others. -/
def around (style : Style) (count : Nat) (found : List Nat) : List Nat :=
  (List.range count).filter fun i =>
    found.any fun j => i ≤ j + style.after && j ≤ i + style.before

/-- What is written about the lines of a text. -/
def shown (r : Rules) (style : Style) (title : Octets) (lines : List Octets)
    (found : List (Nat × Octets)) : Octets :=
  let front (mark : Char) (i : Nat) : Octets :=
    (if title = [] then [] else title ++ [mark]) ++
      if style.numbers then Octets.ofNat (i + 1) ++ [mark] else []
  if style.onlyParts then
    if r.inverted then []
    else found.flatMap fun (i, line) =>
      (r.parts line.toArray (line.length + 1) 0).flatMap fun part => front ':' i ++ part ++ ['\n']
  else
    let numbers := found.map (·.1)
    let all := around style lines.length numbers
    let hasContext := style.before ≠ 0 || style.after ≠ 0
    (all.zipIdx.flatMap fun (i, k) =>
      let gap := hasContext && k ≠ 0 && all[k - 1]?.any (· + 1 ≠ i)
      (if gap then "--\n".toList else []) ++
        front (if i ∈ numbers then ':' else '-') i ++ (lines[i]?.getD []) ++ ['\n'])

/-! ### Options -/

/-- The options of `grep`. -/
def switches : List Switch :=
  [ { letters := "E", names := ["extended-regexp"] },
    { letters := "F", names := ["fixed-strings", "fixed-regexp"] },
    { letters := "G", names := ["basic-regexp"] }, { letters := "P", names := ["perl-regexp"] },
    { letters := "e", names := ["regexp"], arity := .one },
    { letters := "f", names := ["file"], arity := .one },
    { letters := "iy", names := ["ignore-case"] }, { names := ["no-ignore-case"] },
    { letters := "v", names := ["invert-match"] }, { letters := "w", names := ["word-regexp"] },
    { letters := "x", names := ["line-regexp"] }, { letters := "c", names := ["count"] },
    { letters := "l", names := ["files-with-matches"] },
    { letters := "L", names := ["files-without-match"] },
    { letters := "q", names := ["quiet", "silent"] }, { letters := "s", names := ["no-messages"] },
    { letters := "h", names := ["no-filename"] }, { letters := "H", names := ["with-filename"] },
    { letters := "n", names := ["line-number"] }, { letters := "o", names := ["only-matching"] },
    { letters := "m", names := ["max-count"], arity := .one },
    { letters := "A", names := ["after-context"], arity := .one },
    { letters := "B", names := ["before-context"], arity := .one },
    { letters := "C", names := ["context"], arity := .one },
    { letters := "r", names := ["recursive"] },
    { letters := "R", names := ["dereference-recursive"] }, { letters := "a", names := ["text"] },
    { letters := "z", names := ["null-data"] }, { letters := "Z", names := ["null"] },
    { letters := "b", names := ["byte-offset"] }, { letters := "T", names := ["initial-tab"] },
    { letters := "U", names := ["binary"] }, { letters := "u" }, { letters := "I" },
    { letters := "d", names := ["directories"], arity := .one },
    { letters := "D", names := ["devices"], arity := .one }, { names := ["line-buffered"] },
    { names := ["label", "include", "exclude", "exclude-dir", "binary-files"], arity := .one },
    { names := ["color", "colour"], arity := .maybe } ]

/-- How the program is called. -/
def usage : Work Unit := do
  let name := (← read).name
  Work.warn ("Usage: ".toList ++ name ++ " [OPTION]... PATTERNS [FILE]...\n".toList)
  Work.hint

/-- A number after an option. -/
def number (o : Options) (key what : String) : Work (Option Nat) := do
  match o.value? key with
  | none => return none
  | some word =>
    match Decimal.readDigits? (1 <<< 62) word with
    | some n => return some n
    | none =>
      if key = "m" then Work.refuse ("invalid ".toList ++ what.toList) 2
      else Work.refuse (word ++ ": invalid ".toList ++ what.toList) 2

/-- The expressions that some texts are. -/
def parseAll (o : Options) (texts : List Octets) : Work (List Regex) := do
  let kind := (o.last? ["E", "F", "G", "P"]).getD "G"
  let mut all : List Regex := []
  for text in texts do
    if kind = "F" then all := all ++ [Regex.literal text]
    else match Regex.parse (kind ≠ "G") text with
      | .ok r => all := all ++ [r]
      | .error e => Work.refuse e.toList 2
  return all

/-- The files below a directory; at most `fuel` levels of them. -/
def filesBelow (s : System) : (fuel : Nat) → Octets → Location → List Octets
  | 0, _, _ => []
  | fuel + 1, path, l =>
    (s.children l).flatMap fun name =>
      let below := if path = [] then Octets.ofText name else inDirectory path (Octets.ofText name)
      match s.files.node? (l ++ [name]) with
      | some .directory => filesBelow s fuel below (l ++ [name])
      | _ => [below]

/-- The files that operands stand for. -/
def filesOf (o : Options) (operands : List Octets) : Work (List Octets) := do
  let deep := o.has "r" || o.has "R"
  let s := (← get).system
  let levels := s.files.nodes.length + 1
  if operands = [] then
    return if deep then filesBelow s levels [] s.files.here else [['-']]
  let mut all : List Octets := []
  for path in operands do
    match ← Work.look path, ← Work.place path with
    | .ok .directory, .ok l =>
      all := all ++ if deep then filesBelow s levels path l else [path]
    | _, _ => all := all ++ [path]
  return all

end Finding

/-- Write the lines in which one of several expressions is found. -/
def grep : Work UInt8 := do
  let o ← Options.read { switches := Finding.switches, code := 2, after := Finding.usage }
  let fromFiles ← (o.values "f").mapM fun path => do
    match ← Work.contents path with
    | .ok text => return (Octets.lines text).map Octets.chomp
    | .error (_, e) => Work.refuse (about path e) 2
  let given := (o.values "e").flatMap fun text => text.splitOn '\n'
  let (texts, operands) ← match (o.has "e" || o.has "f" : Bool), o.operands with
    | true, operands => pure (given ++ fromFiles.flatten, operands)
    | false, text :: operands => pure (text.splitOn '\n', operands)
    | false, [] => do
      Finding.usage
      Work.leave 2
  let rules : Finding.Rules :=
    { expressions := ← Finding.parseAll o texts, fold := o.has "i", inverted := o.has "v"
      extent := if o.has "x" then .line else if o.has "w" then .words else .anywhere }
  let context? ← Finding.number o "C" "context length argument"
  let style : Finding.Style :=
    { numbers := o.has "n", onlyParts := o.has "o", asText := o.has "a"
      before := ((← Finding.number o "B" "context length argument").or context?).getD 0
      after := ((← Finding.number o "A" "context length argument").or context?).getD 0
      most? := ← Finding.number o "m" "max count" }
  let files ← Finding.filesOf o operands
  let call ← read
  let titled := match o.last? ["h", "H"] with
    | some key => key == "H"
    | none => decide (1 < operands.length) || o.has "r" || o.has "R"
  let mut any := false
  let mut failed := false
  for path in files do
    let name := if path = ['-'] then "(standard input)".toList else path
    -- nothing more is looked at once the answer is known
    if any && o.has "q" then return 0
    match ← Work.contents path with
    | .error (_, e) =>
      failed := true
      if !o.has "s" then Work.complain (about name e)
    | .ok text =>
      let lines := (Octets.lines text).map Octets.chomp
      let found := Finding.selected rules style.most? lines
      let isFound : Bool := found != []
      any := any || isFound
      let title := if titled then name else []
      if o.has "q" then pure ()
      else if o.has "l" || o.has "L" then
        Work.say (if isFound != o.has "L" then name ++ ['\n'] else [])
      else if o.has "c" then
        Work.say ((if titled then name ++ [':'] else []) ++ Octets.ofNat found.length ++ ['\n'])
      else if '\x00' ∈ text && !style.asText then
        let complaint := call.name ++ ": ".toList ++ name ++ ": binary file matches\n".toList
        Work.warn (if isFound then complaint else [])
      else Work.say (Finding.shown rules style title lines found)
  if any && o.has "q" then return 0
  return if failed then 2 else if any then 0 else 1

end FlowDump.Rehearsal.Toolbox
