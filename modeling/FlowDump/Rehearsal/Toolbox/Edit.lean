import FlowDump.Rehearsal.Toolbox.Edit.Script

/-!
# The editor of lines

* `Edit.Editor` — what the editor knows while it works.
* `Edit.replaced` — a text with something in place of matches.
* `Edit.cycles` — the commands of a script for one line.
* `Toolbox.sed` — files with the commands of a script done to their lines.
-/

namespace FlowDump.Rehearsal.Toolbox

namespace Edit

/-! ### Texts -/

/-- Letters of a case: how all of them are written, and how the next one is. -/
structure Case where
  all? : Option Char := none
  next? : Option Char := none
  deriving Inhabited

/-- A text in letters of a case. -/
def Case.write (k : Case) (o : Octets) : Octets × Case :=
  let change (letter? : Option Char) (c : Char) : Char := match letter? with
    | some 'U' | some 'u' => c.toUpper
    | some 'L' | some 'l' => c.toLower
    | _ => c
  match o with
  | [] => ([], k)
  | c :: rest =>
    (change (k.next?.or k.all?) c :: rest.map (change k.all?), { k with next? := none })

/-- What is put in place of a match. -/
def filled (pieces : List Piece) (text : Array Char) (first : Nat) (p : Regex.Place) : Octets :=
  let part (n : Nat) : Octets :=
    if n = 0 then (text.extract first p.index).toList
    else match p.group? n with
      | some (a, b) => (text.extract a b).toList
      | none => []
  (pieces.foldl
    (fun (done, k) piece =>
      match piece with
      | .text o =>
        let (o, k) := Case.write k o
        (done ++ o, k)
      | .group n =>
        let (o, k) := Case.write k (part n)
        (done ++ o, k)
      | .case 'E' => (done, {})
      | .case c =>
        (done, if c.isUpper then { k with all? := some c } else { k with next? := some c }))
    (([] : Octets), ({} : Case))).1

/-- A text with something in place of matches, from a place on, and whether anything was replaced;
    at most `fuel` matches are looked at. -/
def replacedFrom (s : Substitution) (r : Regex) (text : Array Char) : (fuel : Nat) →
    (start count : Nat) → (last? : Option Nat) → Octets × Bool
  | 0, start, _, _ => ((text.extract start text.size).toList, false)
  | fuel + 1, start, count, last? =>
    let rest (first : Nat) : Octets := (text.extract first text.size).toList
    let step (first : Nat) : Octets := (text.extract first (first + 1)).toList
    match r.find? s.pattern.fold text start with
    | none => (rest start, false)
    | some (first, p) =>
      let front := (text.extract start first).toList
      let isEmpty := p.index = first
      if isEmpty ∧ last? = some first then
        -- no empty match follows another match at once
        if text.size ≤ first then (front, false)
        else
          let (o, any) := replacedFrom s r text fuel (first + 1) count none
          (front ++ step first ++ o, any)
      else
        let count := count + 1
        let value := if count < s.first then (text.extract first p.index).toList
          else filled s.pieces text first p
        let isDone := s.first ≤ count && !s.all
        if isDone then (front ++ value ++ rest p.index, true)
        else
          let next := if isEmpty then first + 1 else p.index
          let between := if isEmpty then step first else []
          if text.size < next then (front ++ value ++ between, s.first ≤ count)
          else
            let (o, any) := replacedFrom s r text fuel next count (some p.index)
            (front ++ value ++ between ++ o, any || s.first ≤ count)

/-- A text with something in place of matches, and whether anything was replaced. -/
def replaced (s : Substitution) (r : Regex) (text : Octets) : Octets × Bool :=
  replacedFrom s r text.toArray (text.length + 2) 0 0 none

/-- A text in a form that shows all of its characters, in lines of at most 69 of them. -/
def listed (text : Octets) : Octets :=
  let shown (c : Char) : Octets :=
    match c with
    | '\\' => "\\\\".toList
    | '\x07' => "\\a".toList
    | '\x08' => "\\b".toList
    | '\x0c' => "\\f".toList
    | '\n' => "\\n".toList
    | '\r' => "\\r".toList
    | '\t' => "\\t".toList
    | '\x0b' => "\\v".toList
    | c =>
      if isShown c then [c]
      else
        let digits := Nat.toDigits 8 c.toNat
        '\\' :: List.replicate (3 - digits.length) '0' ++ digits
  let step (s : Octets × Nat) (c : Char) : Octets × Nat :=
    let o := shown c
    if 69 < s.2 + o.length then (s.1 ++ "\\\n".toList ++ o, o.length)
    else (s.1 ++ o, s.2 + o.length)
  (text.foldl step ([], 0)).1 ++ ['$']

/-! ### The editor -/

/-- A line of the input. -/
structure Line where
  text : Octets
  /-- It has an end. -/
  complete : Bool := true
  file : Octets := ['-']
  /-- It is the last one that counts as such. -/
  isLast : Bool := false
  number : Nat := 0
  deriving Inhabited

/-- What is written after the present line. -/
inductive Later where
  | text (o : Octets)
  | file (path : Octets)
  deriving Inhabited

/-- What the editor knows while it works. -/
structure Editor where
  commands : Array Command
  silent : Bool := false
  /-- What is written goes to a text of its own, and that. -/
  kept? : Option Octets := none
  lines : List Line := []
  current : Line := { text := [] }
  held : Octets := []
  later : List Later := []
  /-- The ranges that have begun, by their commands, with the number of the last line if that is
      known. -/
  ranges : List (Nat × Option Nat) := []
  /-- Something was replaced since the line was read. -/
  changed : Bool := false
  last? : Option Pattern := none
  /-- The output lacks the end of a line. -/
  open' : Bool := false
  files : List (Octets × Nat × Bool) := []
  ended? : Option Nat := none
  deriving Inhabited

/-- What the editor does. -/
abbrev Act := StateT Editor Work

/-- Write a text to the output. -/
def emit (o : Octets) (complete : Bool) : Act Unit := do
  let e ← get
  let o := (if e.open' then ['\n'] else []) ++ o ++ (if complete then ['\n'] else [])
  set { e with open' := !complete }
  match e.kept? with
  | some kept => modify fun e => { e with kept? := some (kept ++ o) }
  | none => Work.say o

/-- Write a text without looking at its end. -/
def emitRaw (o : Octets) : Act Unit := do
  let e ← get
  let o := (if e.open' ∧ o ≠ [] then ['\n'] else []) ++ o
  if o ≠ [] then
    set { e with open' := false }
    match e.kept? with
    | some kept => modify fun e => { e with kept? := some (kept ++ o) }
    | none => Work.say o

/-- Write the present line. -/
def print : Act Unit := do
  let e ← get
  emit e.current.text e.current.complete

/-- Write a text into one of the files of the script. -/
def writeTo (path : Octets) (o : Octets) (complete : Bool) : Act Unit := do
  if path = "/dev/stdout".toList then emit o complete
  else if path = "/dev/stderr".toList then Work.warn (o ++ ['\n'])
  else
    let e ← get
    match e.files.find? fun f => f.1 = path with
    | none => return
    | some (_, n, isOpen) =>
      let o := (if isOpen then ['\n'] else []) ++ o ++ (if complete then ['\n'] else [])
      let files := (path, n, !complete) :: e.files.filter fun f => f.1 ≠ path
      set { e with files }
      let bench ← getThe Bench
      match bench.system.write n (Octets.bytes o) with
      | .ok system => set { bench with system }
      | .error _ => pure ()

/-- Write what was put off. -/
def flush : Act Unit := do
  let later := (← get).later
  modify fun e => { e with later := [] }
  for part in later do
    let e ← get
    if e.open' then
      -- the line before is ended even if nothing follows
      set { e with open' := false }
      emitRaw ['\n']
    match part with
    | .text o => emitRaw o
    | .file path =>
      match ← (Work.contents path : Work _) with
      | .ok o => emitRaw o
      | .error _ => pure ()

/-- Take the next line; the answer tells whether there is one. -/
def take : Act Bool := do
  let e ← get
  match e.lines with
  | [] => return false
  | line :: lines =>
    set { e with lines, current := line }
    return true

/-! ### Lines of a command -/

/-- The expression of a pattern, or the last one that was used. -/
def regexOf (p : Pattern) : Act (Regex × Bool) := do
  match p.regex? with
  | some r =>
    modify fun e => { e with last? := some p }
    return (r, p.fold)
  | none =>
    match (← get).last? with
    | some { regex? := some r, fold } => return (r, fold)
    | _ => Work.refuse ("-e expression #1, char 0: no previous regular expression".toList)

/-- Whether the present line is at an address. -/
def isAt (a : Address) : Act Bool := do
  let e ← get
  match a with
  | .line n => return e.current.number = n
  | .last => return e.current.isLast
  | .every first step =>
    let n := e.current.number
    return if step = 0 then n = first else decide (first ≤ n) && (n - first) % step = 0
  | .holds p =>
    let (r, fold) ← regexOf p
    return (r.find? fold e.current.text.toArray 0).isSome

/-- A range of a command begins, with a number for its last line if that is known. -/
def begin' (i : Nat) (last? : Option Nat) : Act Unit :=
  modify fun e => { e with ranges := (i, last?) :: e.ranges.filter fun r => r.1 ≠ i }

/-- A range of a command is over. -/
def endRange (i : Nat) : Act Unit :=
  modify fun e => { e with ranges := e.ranges.filter fun r => r.1 ≠ i }

/-- Whether the command with a number is for the present line. -/
def isMeant (i : Nat) (c : Command) : Act Bool := do
  match c.first?, c.finish? with
  | none, _ => return true
  | some a, none => isAt a
  | some a, some finish =>
    let e ← get
    let n := e.current.number
    match e.ranges.find? fun r => r.1 = i with
    | some (_, some last) =>
      if last ≤ n then endRange i
      if n ≤ last then return true else isAt a
    | some (_, none) =>
      match finish with
      | .address b => if ← isAt b then endRange i
      | _ => endRange i
      return true
    | none =>
      if !(← isAt a) then return false
      match finish with
      | .address (.line m) => if n < m then begin' i (some m)
      | .address _ => begin' i none
      | .later m => if m ≠ 0 then begin' i (some (n + m))
      | .multiple m => if m ≠ 0 then begin' i (some ((n / m + 1) * m))
      return true

/-! ### Commands -/

/-- What comes after a command. -/
inductive Next where
  | go (i : Nat)
  /-- The commands are done. -/
  | done
  /-- The line is gone. -/
  | gone
  /-- The commands start again with what is left of the line. -/
  | again
  | quit (silent : Bool) (code : Nat)

/-- The place of a label. -/
def placeOf (commands : Array Command) (name : Octets) : Nat :=
  if name = [] then commands.size
  else
    (commands.findIdx? fun c => match c.action with
      | .label other => other = name
      | _ => false).getD commands.size

/-- Do a command of one letter. -/
def plain (letter : Char) (i : Nat) : Act Next := do
  let e ← get
  let line := e.current
  let setText (o : Octets) : Act Unit :=
    modify fun e => { e with current := { e.current with text := o } }
  let first := line.text.takeWhile (· ≠ '\n')
  let next : Next := .go (i + 1)
  match letter with
  | '=' =>
    emit (Octets.ofNat line.number) true
    return next
  | 'd' => return .gone
  | 'D' =>
    if first.length = line.text.length then return .gone
    setText (line.text.drop (first.length + 1))
    return .again
  | 'F' =>
    emit line.file true
    return next
  | 'g' =>
    setText e.held
    return next
  | 'G' =>
    setText (line.text ++ '\n' :: e.held)
    return next
  | 'h' =>
    set { e with held := line.text }
    return next
  | 'H' =>
    set { e with held := e.held ++ '\n' :: line.text }
    return next
  | 'l' =>
    emit (listed line.text) true
    return next
  | 'n' =>
    if e.lines = [] then return .quit false 0
    if !e.silent then print
    flush
    let _ ← take
    return next
  | 'N' =>
    if e.lines = [] then return .quit false 0
    flush
    let _ ← take
    let o := (← get).current.text
    setText (line.text ++ '\n' :: o)
    return next
  | 'p' =>
    print
    return next
  | 'P' =>
    emit first true
    return next
  | 'x' =>
    set { e with held := line.text, current := { line with text := e.held } }
    return next
  | 'z' =>
    setText []
    return next
  | _ => return next

/-- Do the command with a number for a line that it is for. -/
def perform (i : Nat) (c : Command) : Act Next := do
  let e ← get
  let next : Next := .go (i + 1)
  match c.action with
  | .block _ | .finish | .label _ => return next
  | .plain letter => plain letter i
  | .substitute s =>
    let (r, fold) ← regexOf s.pattern
    let (o, any) := replaced { s with pattern := { s.pattern with fold } } r e.current.text
    if any then
      modify fun e => { e with current := { e.current with text := o }, changed := true }
      if s.prints then print
      match s.file? with
      | some path => writeTo path o e.current.complete
      | none => pure ()
    return next
  | .exchange source target =>
    let change (c : Char) : Char := ((source.zip target).find? fun p => p.1 = c).elim c (·.2)
    set { e with current := { e.current with text := e.current.text.map change } }
    return next
  | .append o =>
    set { e with later := e.later ++ [Later.text o] }
    return next
  | .insert o =>
    emitRaw o
    return next
  | .change o =>
    if c.negated || !e.ranges.any fun r => r.1 = i then emitRaw o
    return .gone
  | .jump when? name =>
    if when?.isSome then modify fun e => { e with changed := false }
    let jumps : Bool := match when? with
      | none => true
      | some wanted => e.changed == wanted
    return if jumps then .go (placeOf e.commands name) else next
  | .readFile path =>
    set { e with later := e.later ++ [Later.file path] }
    return next
  | .writeFile path =>
    writeTo path e.current.text e.current.complete
    return next
  | .quit silent code => return .quit silent code

/-- Do the commands of a script from one on; at most `fuel` of them. -/
def runFrom : (fuel : Nat) → (i : Nat) → Act Next
  | 0, _ => return .quit true 1
  | fuel + 1, i => do
    match (← get).commands[i]? with
    | none => return .done
    | some c =>
      let meant ← isMeant i c
      if meant != c.negated then
        match ← perform i c with
        | .go j => runFrom fuel j
        | n => return n
      else match c.action with
        | .block after => runFrom fuel after
        | _ => runFrom fuel (i + 1)

/-- How many commands may be done to a line. -/
def commandLimit : Nat := 100000

/-- Do the commands of a script to the lines that are left, the first of which may be `given`; at
    most `fuel` times. -/
def cycles : (fuel : Nat) → (given : Bool) → Act Unit
  | 0, _ => return
  | fuel + 1, given => do
    let there ← if given then pure true else take
    if !there then return
    modify fun e => { e with changed := e.changed && given }
    let silent := (← get).silent
    match ← runFrom commandLimit 0 with
    | .go _ | .done =>
      if !silent then print
      flush
      cycles fuel false
    | .gone =>
      flush
      cycles fuel false
    | .again =>
      flush
      cycles fuel true
    | .quit quiet code =>
      if !quiet && !silent then print
      flush
      modify fun e => { e with ended? := some code }

/-! ### Files -/

/-- The lines of a file, which have no numbers yet. -/
def linesOf (path text : Octets) : List Line :=
  (Octets.lines text).map fun line =>
    { text := Octets.chomp line, complete := line.getLast? = some '\n', file := path }

/-- Lines with their numbers; the last line counts as such. -/
def withNumbers (first : Nat) (lines : List Line) : List Line :=
  lines.zipIdx.map fun l =>
    { l.1 with number := first + l.2, isLast := l.2 + 1 = lines.length }

/-- The files that a script writes. -/
def filesOf (commands : Array Command) : List Octets :=
  (commands.toList.filterMap fun c => match c.action with
    | .writeFile path => some path
    | .substitute s => s.file?
    | _ => none).eraseDups

/-- The first label that is jumped to and not there. -/
def missingLabel? (commands : Array Command) : Option Octets :=
  commands.toList.findSome? fun c => match c.action with
    | .jump _ name =>
      if name ≠ [] ∧ placeOf commands name = commands.size then some name else none
    | _ => none

end Edit

/-- Write files with the commands of a script done to their lines, or change the files. -/
def sed : Work UInt8 := do
  let o ← Options.read
    { switches :=
        [ { letters := "n", names := ["quiet", "silent"] },
          { letters := "e", names := ["expression"], arity := .one },
          { letters := "f", names := ["file"], arity := .one },
          { letters := "Er", names := ["regexp-extended"] },
          { letters := "i", names := ["in-place"], arity := .maybe },
          { letters := "l", names := ["line-length"], arity := .one },
          { letters := "s", names := ["separate"] }, { letters := "u", names := ["unbuffered"] },
          { letters := "z", names := ["null-data"] }, { names := ["posix"] },
          { names := ["debug"] }, { names := ["sandbox"] }, { names := ["follow-symlinks"] } ] }
  let mut scripts : List (Octets × Bool × Octets) := []
  let mut number := 0
  for (key, value) in o.given do
    if key = "e" then
      number := number + 1
      match scripts.getLast? with
      | some (name, false, text) =>
        -- a line may go on in the next text
        let goesOn := (text.reverse.takeWhile (· = '\\')).length % 2 = 1
        if goesOn then
          scripts := scripts.dropLast ++ [(name, false, text ++ '\n' :: value)]
        else
          scripts := scripts ++ [("-e expression #".toList ++ Octets.ofNat number, false, value)]
      | _ => scripts := scripts ++ [("-e expression #".toList ++ Octets.ofNat number, false, value)]
    else if key = "f" then
      match ← Work.contents value with
      | .ok text => scripts := scripts ++ [(value, true, text)]
      | .error (_, e) => Work.refuse (about ("couldn't open file ".toList ++ value) e) 4
  let (texts, operands) ← match scripts, o.operands with
    | [], [] => do
      Work.warn ("Usage: ".toList ++ (← MonadReader.read).name ++
        " [OPTION]... \x7bscript-only-if-no-other-script\x7d [input-file]...\n".toList)
      Work.leave 1
    | [], text :: operands => pure ([("-e expression #1".toList, false, text)], operands)
    | all, operands => pure (all, operands)
  let isQuiet : Bool := match texts with
    | (_, _, ['#', 'n']) :: _ => true
    | (_, _, '#' :: 'n' :: '\n' :: _) :: _ => true
    | _ => false
  let commands ← match Edit.Script.read (o.has "E") texts with
    | .ok commands => pure commands
    | .error message => Work.refuse message
  match Edit.missingLabel? commands with
  | some name => Work.refuse ("can't find label for jump to `".toList ++ name ++ ['\'']) 4
  | none => pure ()
  let mut written : List (Octets × Nat × Bool) := []
  for path in Edit.filesOf commands do
    match (← get).system.openToWrite (Octets.text path) false false with
    | .error e => Work.refuse (about ("couldn't open file ".toList ++ path) (cause e)) 4
    | .ok (opened, s) =>
      let (n, s) := s.add opened
      alter fun _ => s
      written := written ++ [(path, n, false)]
  let inPlace := o.has "i"
  let mut code : UInt8 := 0
  let mut found : List (Octets × Octets) := []
  for path in orInput operands do
    let isDirectory := (← Work.look path).toOption = some .directory
    if inPlace && isDirectory then
      Work.complain ("couldn't edit ".toList ++ path ++ ": not a regular file".toList)
      code := 4
    else match ← Work.contents path with
      | .ok text => found := found ++ [(path, text)]
      | .error (isOpen, e) =>
        let what := if isOpen then "read error on " else "can't read "
        Work.complain (about (what.toList ++ path) e)
        code := if isOpen then 4 else 2
  let editor : Edit.Editor :=
    { commands, silent := o.has "n" || isQuiet, files := written
      -- a range may be open before the first line
      ranges := (commands.toList.zipIdx.filter fun c => match c.1.first? with
        | some (.line 0) => true
        | _ => false).map fun c => (c.2, none) }
  let separate := inPlace || o.has "s"
  if !separate then
    let lines := Edit.withNumbers 1 (found.flatMap fun t => Edit.linesOf t.1 t.2)
    let fuel := 2 * (found.flatMap fun t => t.2).length + 2
    let ((), e) ← (Edit.cycles fuel false).run { editor with lines }
    return match e.ended? with
      | some n => if n = 0 then code else UInt8.ofNat n
      | none => code
  else
    let mut e := editor
    let mut first := 1
    for (path, text) in found do
      if e.ended?.isNone then
        let lines := Edit.withNumbers (if inPlace then 1 else first) (Edit.linesOf path text)
        first := first + lines.length
        let kept? := if inPlace then some [] else none
        let ((), after) ← (Edit.cycles (2 * text.length + 2) false).run
          { e with lines, kept?, open' := e.open' && !inPlace }
        e := after
        match inPlace, e.kept? with
        | true, some kept =>
          -- what was not looked at stays as it is
          let left := e.lines.flatMap fun l => l.text ++ (if l.complete then ['\n'] else [])
          let write (path o : Octets) : Work Unit :=
            alter fun s => { s with files := (s.files.write (Octets.text path) (Octets.bytes o)).2 }
          match o.value? "i" with
          | some [] | none => pure ()
          | some ending => write (path ++ ending) text
          write path (kept ++ left)
        | _, _ => pure ()
    return match e.ended? with
      | some n => if n = 0 then code else UInt8.ofNat n
      | none => code

end FlowDump.Rehearsal.Toolbox
