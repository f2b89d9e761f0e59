import FlowDump.Rehearsal.Toolbox.Contents

/-!
# Programs that compare files

* `Comparison.steps` — what has to be done to the lines of one text to get those of another.
* `Toolbox.diff` — the lines in which files differ.
* `Toolbox.cmp` — the first byte in which files differ.
-/

namespace FlowDump.Rehearsal.Toolbox

namespace Comparison

/-! ### Lines -/

/-- A line of either of two texts, or of both. -/
inductive Step where
  | both
  | gone (line : Octets)
  | new (line : Octets)
  deriving DecidableEq, Repr, Inhabited

/-- How many lines the rest of one text has in common with the rests of another one, longest rest
    first, given the same for the rest without its first line. -/
def commonRow (same : Octets → Octets → Bool) (line : Octets) :
    List Octets → List Nat → List Nat
  | [], _ => [0]
  | other :: rest, below =>
    let row := commonRow same line rest below.tail
    let here :=
      if same line other then below.tail.headD 0 + 1 else max (below.headD 0) (row.headD 0)
    here :: row

/-- The rows for all rests of a text, longest rest first. -/
def commonRows (same : Octets → Octets → Bool) (b : List Octets) : List Octets → List (List Nat)
  | [] => [List.replicate (b.length + 1) 0]
  | line :: rest =>
    let rows := commonRows same b rest
    commonRow same line b (rows.headD []) :: rows

/-- What has to be done to the lines of a text to get those of another; as many lines as possible
    are kept. -/
def stepsWithin (same : Octets → Octets → Bool) : (fuel : Nat) → List Octets → List Octets →
    List (List Nat) → List Step
  | 0, _, _, _ => []
  | _ + 1, [], b, _ => b.map .new
  | _ + 1, a, [], _ => a.map .gone
  | fuel + 1, x :: a, y :: b, rows =>
    let row := rows.headD []
    let below := rows.tail.headD []
    if same x y ∧ row.headD 0 = below.tail.headD 0 + 1 then
      .both :: stepsWithin same fuel a b (rows.tail.map List.tail)
    else if row.headD 0 = below.headD 0 then .gone x :: stepsWithin same fuel a (y :: b) rows.tail
    else .new y :: stepsWithin same fuel (x :: a) b (rows.map List.tail)

/-- What has to be done to the lines of a text to get those of another. -/
def steps (same : Octets → Octets → Bool) (a b : List Octets) : List Step :=
  stepsWithin same (a.length + b.length + 1) a b (commonRows same b a)

/-- Lines that are gone and lines that are new at a place: how many lines stand before them in each
    text. -/
structure Hunk where
  before : Nat
  after : Nat
  gone : List Octets := []
  new : List Octets := []
  deriving Inhabited

/-- The places at which two texts differ, after some lines of each. -/
def hunks : List Step → (before after : Nat) → (open? : Option Hunk) → List Hunk
  | [], _, _, open? => open?.toList
  | .both :: rest, before, after, open? =>
    open?.toList ++ hunks rest (before + 1) (after + 1) none
  | .gone line :: rest, before, after, open? =>
    let h := open?.getD { before, after }
    hunks rest (before + 1) after (some { h with gone := h.gone ++ [line] })
  | .new line :: rest, before, after, open? =>
    let h := open?.getD { before, after }
    hunks rest before (after + 1) (some { h with new := h.new ++ [line] })

/-- Numbers of lines: a range, one line, or the line before where there are none. -/
def range (before count : Nat) : Octets :=
  if count ≤ 1 then Octets.ofNat (before + count)
  else Octets.ofNat (before + 1) ++ ',' :: Octets.ofNat (before + count)

/-- A line with a mark in front. -/
def marked (mark : String) (line : Octets) : Octets :=
  mark.toList ++ line ++
    if line.getLast? = some '\n' then [] else "\n\\ No newline at end of file\n".toList

/-- What is written about a place. -/
def Hunk.text (h : Hunk) : Octets :=
  let kind := if h.gone = [] then 'a' else if h.new = [] then 'd' else 'c'
  range h.before h.gone.length ++ kind :: range h.after h.new.length ++ '\n' ::
    h.gone.flatMap (marked "< ") ++
    (if kind = 'c' then "---\n".toList else []) ++
    h.new.flatMap (marked "> ")

/-! ### Files -/

/-- The form of a line that counts. -/
def form (o : Options) (line : Octets) : Octets :=
  let line := if o.has "i" then line.map Char.toLower else line
  if o.has "w" then line.filter (!Octets.isBlank ·)
  else if o.has "b" then
    let words := Octets.words line
    let front : Octets := if line.head?.any Octets.isBlank then [' '] else []
    front ++ (words.intersperse [' ']).flatten
  else line

/-- Write how two texts differ; the answer tells whether they do. -/
def compareTexts (o : Options) (nameA nameB : Octets) (a b : Octets) (title : Octets) :
    Work Bool := do
  let (linesA, linesB) := (Octets.lines a, Octets.lines b)
  let isSame := linesA.map (form o) = linesB.map (form o)
  if isSame then
    if o.has "s" then
      Work.say ("Files ".toList ++ nameA ++ " and ".toList ++ nameB ++ " are identical\n".toList)
    return false
  if o.has "q" then
    Work.say ("Files ".toList ++ nameA ++ " and ".toList ++ nameB ++ " differ\n".toList)
  else if '\x00' ∈ a ∨ '\x00' ∈ b then
    if a ≠ b then
      Work.say
        ("Binary files ".toList ++ nameA ++ " and ".toList ++ nameB ++ " differ\n".toList)
  else
    let same (x y : Octets) : Bool := form o x = form o y
    let front := ((linesA.zip linesB).takeWhile fun p => same p.1 p.2).length
    let restA := linesA.drop front
    let restB := linesB.drop front
    Work.say (title ++ (hunks (steps same restA restB) front front none).flatMap Hunk.text)
  return true

/-- The options of `diff`. -/
def switches : List Switch :=
  [ { letters := "q", names := ["brief"] },
    { letters := "s", names := ["report-identical-files"] },
    { letters := "i", names := ["ignore-case"] }, { letters := "w", names := ["ignore-all-space"] },
    { letters := "b", names := ["ignore-space-change"] },
    { letters := "r", names := ["recursive"] }, { letters := "N", names := ["new-file"] },
    { letters := "U", arity := .one }, { letters := "C", arity := .one },
    { names := ["unified", "context"], arity := .maybe },
    { names := ["color", "label", "exclude"], arity := .maybe },
    { names := ["strip-trailing-cr"] } ] ++ flags "aBcdEenptTuyZ"

/-- What is said about a place that cannot be read. -/
def trouble (path : Octets) (e : SystemError) : Work UInt8 := do
  failing (about (quotedIfNeeded path) e) 2

/-- Compare what stands at two paths; at most `fuel` levels of directories. -/
def comparePaths (o : Options) : (fuel : Nat) → (top : Bool) → (a b : Octets) → Work UInt8
  | 0, _, _, _ => return 2
  | fuel + 1, top, a, b => do
    let look (path : Octets) : Work (Except SystemError Node) := do
      if path = ['-'] then return .ok (.file []) else Work.look path
    let nodeA ← look a
    let nodeB ← look b
    let inside (directory name : Octets) : Octets := inDirectory directory (lastPart name)
    match nodeA, nodeB with
    | .error e, .error f =>
      let _ ← trouble a e
      trouble b f
    | .error e, _ => trouble a e
    | _, .error e => trouble b e
    | .ok .directory, .ok .directory =>
      if !top && !o.has "r" then
        Work.say
          ("Common subdirectories: ".toList ++ a ++ " and ".toList ++ b ++ ['\n'])
        return 0
      let s := (← get).system
      match ← Work.place a, ← Work.place b with
      | .ok l, .ok m =>
        let (namesA, namesB) := (s.children l, s.children m)
        let all := (namesA ++ namesB.filter (· ∉ namesA)).mergeSort fun x y => decide (x ≤ y)
        Work.forEach all fun name => do
          let file := Octets.ofText name
          let only (directory : Octets) : Work UInt8 := do
            Work.say ("Only in ".toList ++ directory ++ ": ".toList ++ file ++ ['\n'])
            return 1
          if name ∉ namesB then only a
          else if name ∉ namesA then only b
          else comparePaths o fuel false (inDirectory a file) (inDirectory b file)
      | _, _ => return 2
    | .ok .directory, .ok (.file _) =>
      if top then comparePaths o fuel false (inside a b) b
      else
        Work.say ("File ".toList ++ a ++ " is a directory while file ".toList ++ b ++
          " is a regular file\n".toList)
        return 1
    | .ok (.file _), .ok .directory =>
      if top then comparePaths o fuel false a (inside b a)
      else
        Work.say ("File ".toList ++ a ++ " is a regular file while file ".toList ++ b ++
          " is a directory\n".toList)
        return 1
    | .ok (.file _), .ok (.file _) =>
      match ← Work.contents a with
      | .error (_, e) => trouble a e
      | .ok textA =>
        match ← Work.contents b with
        | .error (_, e) => trouble b e
        | .ok textB =>
          let words := (← MonadReader.read).arguments.takeWhile fun w => w.head? = some '-'
          let title := if top then [] else
            spaced ("diff".toList :: words ++ [a, b]) ++ ['\n']
          return if ← compareTexts o a b textA textB title then 1 else 0

/-- Complain about operands. -/
def misused (name message : Octets) : Work UInt8 := do
  Work.complain message
  Work.warn (name ++ ": Try '".toList ++ name ++ " --help' for more information.\n".toList)
  return 2

/-- The word after which an operand is missing. -/
def lastWord (call : Call) : Octets := call.arguments.getLast?.getD call.name

end Comparison

/-- What is said after a complaint by programs that compare. -/
def comparisonHint : Work Unit := do
  let name := (← read).name
  Work.warn (name ++ ": Try '".toList ++ name ++ " --help' for more information.\n".toList)

/-- Write the lines in which files differ. -/
def diff : Work UInt8 := do
  let o ← Options.read { switches := Comparison.switches, code := 2, after := comparisonHint }
  let call ← MonadReader.read
  match o.operands with
  | [a, b] =>
    Comparison.comparePaths o 100 true a b
  | _ :: _ :: more :: _ =>
    Comparison.misused call.name ("extra operand ".toList ++ quoted more)
  | _ =>
    Comparison.misused call.name
      ("missing operand after ".toList ++ quoted (Comparison.lastWord call))

/-- How many bytes two texts have in common at their start. -/
def commonFront : Octets → Octets → Nat
  | a :: rest, b :: others => if a = b then commonFront rest others + 1 else 0
  | _, _ => 0

/-- Write the first byte in which files differ. -/
def cmp : Work UInt8 := do
  let o ← Options.read
    { switches :=
        [ { letters := "s", names := ["quiet", "silent"] },
          { letters := "l", names := ["verbose"] }, { letters := "b", names := ["print-bytes"] },
          { letters := "n", names := ["bytes"], arity := .one },
          { letters := "i", names := ["ignore-initial"], arity := .one } ]
      code := 2, after := comparisonHint }
  let call ← MonadReader.read
  match o.operands with
  | [] =>
    Comparison.misused call.name
      ("missing operand after ".toList ++ quoted (Comparison.lastWord call))
  | a :: more =>
    let b := more.headD ['-']
    let limit := ((o.value? "n").bind size?).getD (1 <<< 63)
    let text? (path : Octets) : Work (Option Octets) := do
      match ← Work.contents path with
      | .ok text => return some (text.take limit)
      | .error (_, e) =>
        if !o.has "s" then Work.complain (about path e)
        return none
    match ← text? a with
    | none => return 2
    | some textA =>
      match ← text? b with
      | none => return 2
      | some textB =>
        let n := commonFront textA textB
        let line := (textA.take n).count '\n'
        if n = textA.length ∧ n = textB.length then return 0
        else if o.has "s" then return 1
        else if n = textA.length ∨ n = textB.length then
          let short := if n = textA.length then a else b
          let place := if n = 0 then " which is empty".toList
            else " after byte ".toList ++ Octets.ofNat n ++
              (if (textA.take n).getLast? = some '\n' then
                ", line ".toList ++ Octets.ofNat line
              else ", in line ".toList ++ Octets.ofNat (line + 1))
          failing ("EOF on ".toList ++ short ++ place)
        else
          Work.say (a ++ ' ' :: b ++ " differ: char ".toList ++ Octets.ofNat (n + 1) ++
            ", line ".toList ++ Octets.ofNat (line + 1) ++ ['\n'])
          return 1

end FlowDump.Rehearsal.Toolbox
