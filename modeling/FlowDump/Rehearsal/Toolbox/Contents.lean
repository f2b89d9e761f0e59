import FlowDump.Rehearsal.Toolbox.Files

/-!
# Programs that write what is in files

* `Toolbox.cat`, `Toolbox.tac`, `Toolbox.rev`, `Toolbox.nl`, `Toolbox.paste` — all of it, in some
  form.
* `Toolbox.head`, `Toolbox.tail` — a part of it.
* `Toolbox.wc` — how much it is.
* `Toolbox.tee` — the input, also into files.
-/

namespace FlowDump.Rehearsal.Toolbox

/-- The operands, or the input where there are none. -/
def orInput (operands : List Octets) : List Octets :=
  if operands = [] then [['-']] else operands

/-- The contents of a file, or of the input for a dash.  Without them there is a complaint, which
    has no words for a place that cannot be opened but not read. -/
def contentsOr (path : Octets) (complaint : (isOpen : Bool) → SystemError → Octets) :
    Work (Option Octets) := do
  match ← Work.contents path with
  | .ok o => return some o
  | .error (isOpen, e) =>
    Work.complain (complaint isOpen e)
    return none

/-- What is said about a file that cannot be read. -/
def unreadable (path : Octets) (_ : Bool) (e : SystemError) : Octets :=
  about (quotedIfNeeded path) e

/-! ### All of it -/

/-- A byte that cannot be shown in a form that can. -/
def visible (tabs : Bool) (c : Char) : Octets :=
  let n := c.toNat
  let low (n : Nat) : Octets :=
    if n < 32 then ['^', Char.ofNat (n + 64)]
    else if n = 127 then ['^', '?']
    else [Char.ofNat n]
  if c = '\n' then [c]
  else if c = '\t' then (if tabs then ['^', 'I'] else [c])
  else if n < 128 then low n
  else 'M' :: '-' :: low (n - 128)

/-- A number on the left of a line. -/
def numbered (width n : Nat) : Octets :=
  let digits := Octets.ofNat n
  List.replicate (width - digits.length) ' ' ++ digits

/-- Lines as `cat` writes them: the lines left, whether the last one was blank, the next number. -/
def catLines (o : Options) : List Octets → (blank : Bool) → (n : Nat) → Octets × Bool × Nat
  | [], blank, n => ([], blank, n)
  | line :: rest, blank, n =>
    let isBlank := line = ['\n']
    if isBlank ∧ blank ∧ o.has "s" then catLines o rest blank n
    else
      let counts := o.has "b" && !isBlank || o.has "n" && !o.has "b"
      let number : Octets := if counts then numbered 6 n ++ ['\t'] else []
      let shows := o.has "v" || o.has "A" || o.has "e" || o.has "t"
      let tabs := o.has "T" || o.has "A" || o.has "t"
      let text := if shows then line.flatMap (visible tabs)
        else if tabs then line.flatMap fun c => if c = '\t' then ['^', 'I'] else [c]
        else line
      let ends := (o.has "E" || o.has "A" || o.has "e") && text.getLast? = some '\n'
      let text := if ends then text.dropLast ++ ['$', '\n'] else text
      let (others, blank, n) := catLines o rest isBlank (if counts then n + 1 else n)
      (number ++ text ++ others, blank, n)

/-- Whether the output goes to the end of a file that is to be read. -/
def isOutput (path : Octets) : Work Bool := do
  let s := (← get).system
  let output? ← Work.channel? 1
  let location? (channel : Channel) : Option Location := match channel with
    | .file l => some l
    | _ => none
  let input? ← if path = ['-'] then do pure ((← Work.channel? 0).bind fun n =>
        location? (s.get n).channel)
    else do pure (← Work.place path).toOption
  match output?.map s.get, input? with
  | some o, some l =>
    return location? o.channel = some l && (s.contentsAt l).length ≠ 0
  | _, _ => return false

/-- Write files one after the other. -/
def cat : Work UInt8 := do
  let o ← Options.read
    { switches :=
        [ { letters := "A", names := ["show-all"] },
          { letters := "b", names := ["number-nonblank"] },
          { letters := "E", names := ["show-ends"] }, { letters := "n", names := ["number"] },
          { letters := "s", names := ["squeeze-blank"] },
          { letters := "T", names := ["show-tabs"] },
          { letters := "v", names := ["show-nonprinting"] } ] ++ flags "etu" }
  let mut code : UInt8 := 0
  let mut blank := false
  let mut n := 1
  for path in orInput o.operands do
    if ← isOutput path then
      Work.complain (quotedIfNeeded path ++ ": input file is output file".toList)
      code := 1
    else match ← contentsOr path (unreadable path) with
      | none => code := 1
      | some text =>
        if o.given = [] then Work.say text
        else
          let (shown, last, next) := catLines o (Octets.lines text) blank n
          Work.say shown
          blank := last
          n := next
  return code

/-- Write the lines of files, last line first. -/
def tac : Work UInt8 := do
  let o ← Options.read
    { switches := flags "br" ++ [{ letters := "s", names := ["separator"], arity := .one }] }
  Work.forEach (orInput o.operands) fun path => do
    let complaint (isOpen : Bool) (e : SystemError) : Octets :=
      if isOpen then about (quotedIfNeeded path ++ ": read error".toList)
        (if e = .isADirectory then ⟨22⟩ else e)
      else about ("failed to open ".toList ++ quoted path ++ " for reading".toList) e
    match ← contentsOr path complaint with
    | none => return 1
    | some text =>
      Work.say (Octets.lines text).reverse.flatten
      return 0

/-- Write lines, each from its end to its start. -/
def rev : Work UInt8 := do
  let o ← Options.read { switches := flags "0" }
  Work.forEach (orInput o.operands) fun path => do
    match ← contentsOr path fun _ e => "cannot open ".toList ++ about path e with
    | none => return 1
    | some text =>
      let turned := (Octets.lines text).flatMap fun line =>
        (Octets.chomp line).reverse ++ line.drop (Octets.chomp line).length
      Work.say turned
      return 0

/-- Write lines with their numbers. -/
def nl : Work UInt8 := do
  let o ← Options.read
    { switches := ["b", "d", "f", "h", "i", "l", "n", "s", "v", "w"].map (fun letter =>
        ({ letters := letter, arity := .one } : Switch)) ++ flags "p" }
  let width := match (o.value? "w").map (Decimal.readDigits? 1000) with
    | some (some n) => n
    | _ => 6
  let separator := (o.value? "s").getD ['\t']
  let all := o.value? "b" = some ['a']
  let mut code : UInt8 := 0
  let mut n := 1
  for path in orInput o.operands do
    match ← contentsOr path (unreadable path) with
    | none => code := 1
    | some text =>
      for line in Octets.lines text do
        let bare := Octets.chomp line
        if all || bare ≠ [] then
          Work.say (numbered width n ++ separator ++ bare ++ ['\n'])
          n := n + 1
        else Work.say (List.replicate (width + separator.length) ' ' ++ ['\n'])
  return code

/-- The lines at the same places of several files, with separators between them. -/
def joined (separators : Octets) (files : List (List Octets)) : Octets :=
  let count := (files.map List.length).foldl max 0
  (List.range count).flatMap fun i =>
    let parts := files.map fun lines => lines[i]?.getD []
    let between (k : Nat) : Octets :=
      if k + 1 = parts.length then ['\n']
      else match separators[k % max 1 separators.length]? with
        | some c => [c]
        | none => []
    (parts.zipIdx.flatMap fun p => p.1 ++ between p.2)

/-- Write the lines of several files side by side. -/
def paste : Work UInt8 := do
  let o ← Options.read
    { switches := flags "z" ++
        [ { letters := "s", names := ["serial"] },
          { letters := "d", names := ["delimiters"], arity := .one } ] }
  let separators :=
    ((o.value? "d").map fun d => (Format.unescape false (d.length + 1) d).1).getD ['\t']
  let mut files : List (List Octets) := []
  for path in orInput o.operands do
    match ← contentsOr path (unreadable path) with
    | none => return 1
    | some text => files := files ++ [(Octets.lines text).map Octets.chomp]
  if o.has "s" then
    for lines in files do Work.say (joined separators (lines.map fun line => [line]))
  else Work.say (joined separators files)
  return 0

/-! ### A part of it -/

/-- The name of a file above what is in it. -/
def titleOf (path : Octets) (isFirst : Bool) : Octets :=
  let name := if path = ['-'] then "standard input".toList else path
  (if isFirst then [] else ['\n']) ++ "==> ".toList ++ name ++ " <==\n".toList

/-- A count of lines or bytes with its sign. -/
structure Amount where
  sign : Char := ' '
  bytes : Bool := false
  count : Nat := 10
  deriving Inhabited

/-- The amount that an option asks for. -/
def Amount.read (bytes : Bool) (o : Octets) : Work Amount := do
  let (sign, digits) := match o with
    | '-' :: digits => ('-', digits)
    | '+' :: digits => ('+', digits)
    | digits => (' ', digits)
  let refused {α : Type} (after : String) : Work α :=
    Work.refuse ("invalid number of ".toList ++ (if bytes then "bytes" else "lines").toList ++
      ": ".toList ++ quoted digits ++ after.toList)
  match size? digits with
  | none => refused ""
  | some count =>
    if 1 <<< 64 ≤ count then refused ": Value too large for defined data type"
    return { sign, bytes, count }

/-- The options of programs that write a part of files. -/
def partSwitches : List Switch :=
  [ { letters := "n", names := ["lines"], arity := .one },
    { letters := "c", names := ["bytes"], arity := .one },
    { letters := "q", names := ["quiet", "silent"] }, { letters := "v", names := ["verbose"] } ]

/-- A count may stand behind a sign alone, as the first word. -/
def withCount (signs : List Char) (words : List Octets) : List Octets :=
  match words with
  | (sign :: c :: cs) :: rest =>
    let digits := (c :: cs).takeWhile Char.isDigit
    let last := (c :: cs).drop digits.length
    let amount := if sign = '+' then '+' :: digits else digits
    if sign ∈ signs ∧ digits ≠ [] ∧ last.all (· ∈ "clqv".toList) then
      let kind : Octets := if 'c' ∈ last then "-c".toList else "-n".toList
      let others := (last.filter (· ∈ ['q', 'v'])).map fun c => ['-', c]
      (kind ++ amount) :: others ++ rest
    else words
  | _ => words

/-- Write parts of files, with their names if there are several. -/
def partsOf (signs : List Char) (part : Amount → Octets → Octets) (isHead : Bool) : Work UInt8 := do
  let call ← read
  let words := withCount signs call.arguments
  let o ← withReader (fun call => { call with arguments := words })
    (Options.read { switches := partSwitches ++ (if isHead then flags "z" else
      [ { letters := "f", names := ["follow"], arity := .none }, { letters := "F" },
        { letters := "s", arity := .one }, { names := ["pid"], arity := .one },
        { names := ["retry"] }, { letters := "z" } ]) })
  let amount ← match o.last? ["n", "c"] with
    | none => pure {}
    | some key => Amount.read (key = "c") ((o.value? key).getD [])
  let operands := orInput o.operands
  let titled : Bool := match o.last? ["q", "v"] with
    | some key => key == "v"
    | none => decide (1 < operands.length)
  let mut isFirst := true
  let mut code : UInt8 := 0
  for path in operands do
    let shown := if path = ['-'] then "standard input".toList else path
    let complaint (isOpen : Bool) (e : SystemError) : Octets :=
      if isOpen then about ("error reading ".toList ++ quoted shown) e
      else about ("cannot open ".toList ++ quoted shown ++ " for reading".toList) e
    match ← contentsOr path complaint with
    | none => code := 1
    | some text =>
      if titled then Work.say (titleOf path isFirst)
      isFirst := false
      let written := part amount text
      Work.say written
      -- what is behind the part is left in a file that is the input
      if isHead ∧ path = ['-'] then
        match ← Work.channel? 0 with
        | some n =>
          alter fun s => match (s.get n).channel with
            | .file _ =>
              let o := s.get n
              s.set n { o with position := o.position - (text.length - written.length) }
            | _ => s
        | none => pure ()
  return code

/-- The first lines or bytes of a text, or all but the last ones. -/
def headPart (a : Amount) (text : Octets) : Octets :=
  if a.bytes then
    if a.sign = '-' then text.take (text.length - a.count) else text.take a.count
  else
    let lines := Octets.lines text
    let lines := if a.sign = '-' then lines.take (lines.length - a.count) else lines.take a.count
    lines.flatten

/-- The last lines or bytes of a text, or all from one on. -/
def tailPart (a : Amount) (text : Octets) : Octets :=
  if a.bytes then
    if a.sign = '+' then text.drop (a.count - 1) else text.drop (text.length - a.count)
  else
    let lines := Octets.lines text
    let lines := if a.sign = '+' then lines.drop (a.count - 1)
      else lines.drop (lines.length - a.count)
    lines.flatten

/-- Write the first lines of files. -/
def head : Work UInt8 := do
  -- letters behind a count that are none of its options are named
  let badLetter? : Option Char := match (← read).arguments with
    | ('-' :: c :: cs) :: _ =>
      if c.isDigit then (cs.dropWhile Char.isDigit).find? fun d => d ∉ "bckmlqvz".toList
      else if c ∈ "qvz".toList then cs.find? fun d => d ∉ "qvz".toList && d.isDigit
      else none
    | _ => none
  match badLetter? with
  | some c => Work.misused ("invalid trailing option -- ".toList ++ [c])
  | none => partsOf ['-'] headPart true

/-- Write the last lines of files. -/
def tail : Work UInt8 := do
  match (← read).arguments with
  | ('-' :: c :: _) :: more =>
    if c.isDigit ∧ 1 < more.length then
      Work.refuse ("option used in invalid context -- ".toList ++ [c])
  | _ => pure ()
  partsOf ['-', '+'] tailPart false

/-! ### How much it is -/

/-- The counts of a text: lines, words, characters, bytes, and the longest line. -/
structure Counts where
  lines : Nat := 0
  words : Nat := 0
  bytes : Nat := 0
  longest : Nat := 0
  deriving Inhabited

/-- The width of a line: tabs go on to the next multiple of eight. -/
def widthOf (line : Octets) : Nat :=
  (line.foldl
    (fun (at', best) c =>
      let next := if c = '\t' then (at' / 8 + 1) * 8
        else if c = '\r' ∨ c = '\x0c' then 0
        else if isShown c then at' + 1 else at'
      (next, max best next))
    (0, 0)).2

/-- The counts of a text. -/
def countsOf (text : Octets) : Counts :=
  { lines := text.count '\n'
    words := (Octets.words text).length
    bytes := text.length
    longest := ((Octets.lines text).map fun line => widthOf (Octets.chomp line)).foldl max 0 }

/-- The counts of two texts together. -/
def Counts.add (a b : Counts) : Counts :=
  { lines := a.lines + b.lines, words := a.words + b.words, bytes := a.bytes + b.bytes
    longest := max a.longest b.longest }

/-- Write how many lines, words and bytes there are in files. -/
def wc : Work UInt8 := do
  let o ← Options.read
    { switches :=
        [ { letters := "l", names := ["lines"] }, { letters := "w", names := ["words"] },
          { letters := "m", names := ["chars"] }, { letters := "c", names := ["bytes"] },
          { letters := "L", names := ["max-line-length"] },
          { names := ["files0-from"], arity := .one }, { names := ["total"], arity := .one } ] }
  let given := ["l", "w", "m", "c", "L"].filter o.has
  let kinds := if given = [] then ["l", "w", "c"] else given
  let operands := orInput o.operands
  -- the width that the sizes of the files ask for
  let s := (← get).system
  let mut total := 0
  let mut least := 1
  for path in operands do
    if path = ['-'] then
      match (← Work.channel? 0).map s.get with
      | some { channel := .file l, .. } => total := total + (s.contentsAt l).length
      | _ => least := 7
    else match s.openToRead (Octets.text path) with
      | .ok { channel := .file l, .. } => total := total + (s.contentsAt l).length
      | .ok _ => least := 7
      | .error _ => pure ()
  let width := if operands.length = 1 ∧ kinds.length = 1 then 1
    else max least (Octets.ofNat total).length
  let line (c : Counts) (name : Octets) : Octets :=
    let numbers := kinds.map fun kind => numbered width (match kind with
      | "l" => c.lines
      | "w" => c.words
      | "L" => c.longest
      | _ => c.bytes)
    spaced (if name = [] then numbers else numbers ++ [name]) ++ ['\n']
  let mut sum : Counts := {}
  let mut code : UInt8 := 0
  for path in operands do
    let given := o.operands ≠ []
    let name := if given then path else []
    let shown := if path = ['-'] ∧ !given then "'standard input'".toList else quotedIfNeeded path
    match ← Work.contents path with
    | .ok text =>
      let counts := countsOf text
      sum := sum.add counts
      Work.say (line counts name)
    | .error (isOpen, e) =>
      Work.complain (about shown e)
      if isOpen then Work.say (line {} name)
      code := 1
  if 1 < operands.length then Work.say (line sum "total".toList)
  return code

/-! ### Into files -/

/-- Write the input to the output and into files. -/
def tee : Work UInt8 := do
  let o ← Options.read
    { switches :=
        [ { letters := "a", names := ["append"] }, { letters := "i" }, { letters := "p" },
          { names := ["ignore-interrupts"] }, { names := ["output-error"], arity := .maybe } ] }
  let mut code : UInt8 := 0
  let mut channels : List (Octets × Nat) := []
  for path in o.operands do
    let s := (← get).system
    match s.openToWrite (Octets.text path) (o.has "a") (o.has "a") with
    | .error e =>
      Work.complain (about (quotedIfNeeded path) (cause e))
      code := 1
    | .ok (o, s) =>
      let (n, s) := s.add o
      alter fun _ => s
      channels := channels ++ [(path, n)]
  match ← Work.input with
  | .error e => failing (about "read error".toList e)
  | .ok text =>
    Work.say text
    for (path, n) in channels do
      match (← get).system.write n (Octets.bytes text) with
      | .ok s => alter fun _ => s
      | .error e =>
        if text ≠ [] then
          Work.complain (about (quotedIfNeeded path) e)
          code := 1
    return code

end FlowDump.Rehearsal.Toolbox
