import FlowDump.Rehearsal.Toolbox.Contents

/-!
# Programs for sorted lines

* `Sorting.Key` — the part of a line that it is sorted by, and how such parts are compared.
* `Toolbox.sort` — lines in order.
* `Toolbox.uniq` — lines without those that are like the line before.
-/

namespace FlowDump.Rehearsal.Toolbox

namespace Sorting

/-! ### Keys -/

/-- The part of a line that it is sorted by: fields and characters are counted from zero. -/
structure Key where
  firstField : Nat := 0
  firstChar : Nat := 0
  /-- The field that the part ends in, and how many characters of it are in the part; without
      characters the part ends where the field does. -/
  last? : Option (Nat × Nat) := none
  /-- Blanks at the start of the first and the last field count for nothing. -/
  skipsFirst : Bool := false
  skipsLast : Bool := false
  /-- How the parts are compared. -/
  order : Octets := []
  deriving Inhabited

/-- Whether a character stands between fields. -/
def isGap (c : Char) : Bool := c = ' ' || c = '\t' || c = '\n'

/-- What is behind so many fields; a field is blanks and what follows them, or ends before a mark.
    -/
def afterFields (mark? : Option Char) : (n : Nat) → Octets → Octets
  | 0, o => o
  | n + 1, o =>
    match mark? with
    | some mark => afterFields mark? n ((o.dropWhile (· ≠ mark)).drop 1)
    | none => afterFields mark? n ((o.dropWhile isGap).dropWhile (!isGap ·))

/-- The part of a line. -/
def Key.part (k : Key) (mark? : Option Char) (line : Octets) : Octets :=
  let front := afterFields mark? k.firstField line
  let front := if k.skipsFirst then front.dropWhile isGap else front
  let from' := line.length - (front.drop k.firstChar).length
  let end' := match k.last? with
    | none => line.length
    | some (field, 0) =>
      match mark? with
      | some mark => line.length - ((afterFields mark? field line).dropWhile (· ≠ mark)).length
      | none => line.length - (afterFields mark? (field + 1) line).length
    | some (field, chars) =>
      let rest := afterFields mark? field line
      let rest := if k.skipsLast then rest.dropWhile isGap else rest
      line.length - (rest.drop chars).length
  (line.take end').drop from'

/-- The number at the front of a text, with its places after the point. -/
def number (o : Octets) : Written × Octets :=
  let o := o.dropWhile isGap
  let (negative, o) := match o with
    | '-' :: rest => (true, rest)
    | o => (false, o)
  let whole := o.takeWhile Char.isDigit
  let o := o.drop whole.length
  let part := match o with
    | '.' :: rest => rest.takeWhile Char.isDigit
    | _ => []
  let all := whole ++ part
  let n : Int := ((Format.digits 10 all.length 0 0 all).2.1 : Nat)
  (⟨if negative then -n else n, part.length⟩, if part = [] then o else o.drop (part.length + 1))

/-- The order of two numbers. -/
def compareWritten (a b : Written) : Ordering :=
  compare (a.scaled (max a.places b.places)) (b.scaled (max a.places b.places))

/-- The place of the letter behind a number among the letters for powers. -/
def power (o : Octets) : Nat :=
  match o with
  | c :: _ => if c ∈ "kKMGTPEZYRQ".toList then ("KMGTPEZYRQ".toList.idxOf c.toUpper) + 1 else 0
  | [] => 0

/-- The place of a month in the year, and zero for what is none. -/
def month (o : Octets) : Nat :=
  let name := ((o.dropWhile isGap).take 3).map Char.toUpper
  let names := ["JAN", "FEB", "MAR", "APR", "MAY", "JUN", "JUL", "AUG", "SEP", "OCT", "NOV", "DEC"]
  let i := (names.map String.toList).idxOf name
  if i < 12 then i + 1 else 0

/-- The number that a text is in any form. -/
def general? (o : Octets) : Option (Int × Nat) :=
  (Format.Fraction.read? o).map fun f =>
    (if f.1.negative then -(f.1.numerator : Int) else f.1.numerator, f.1.denominator)

/-- The order of two numbers in any form; what is none comes first. -/
def compareGeneral (a b : Octets) : Ordering :=
  match general? a, general? b with
  | none, none => .eq
  | none, some _ => .lt
  | some _, none => .gt
  | some (m, k), some (n, l) => compare (m * l) (n * k)

/-- The order of two texts, byte by byte. -/
def compareBytes (a b : Octets) : Ordering := compare (a.map Char.toNat) (b.map Char.toNat)

/-- The order of two parts. -/
def compareParts (order : Octets) (a b : Octets) : Ordering :=
  let has (c : Char) : Bool := c ∈ order
  if has 'n' then compareWritten (number a).1 (number b).1
  else if has 'g' then compareGeneral a b
  else if has 'h' then
    let (m, restA) := number a
    let (n, restB) := number b
    let signed (w : Written) (o : Octets) : Int := if w.digits < 0 then -power o else power o
    (compare (signed m restA) (signed n restB)).then (compareWritten m n)
  else if has 'M' then compare (month a) (month b)
  else
    let kept (o : Octets) : Octets :=
      let o := if has 'd' then o.filter fun c => isGap c || c.isAlphanum else o
      let o := if has 'i' then o.filter isShown else o
      if has 'f' then o.map Char.toUpper else o
    compareBytes (kept a) (kept b)

/-! ### Reading keys -/

/-- The count at the front of a text. -/
def count? (o : Octets) : Option (Nat × Octets) :=
  let digits := o.takeWhile Char.isDigit
  if digits = [] then none
  else some ((Format.digits 10 digits.length 0 0 digits).2.1, o.drop digits.length)

/-- A position in a line: a field, a character in it, and letters. -/
def position (o : Octets) (place : String) (whole : Octets) :
    Work (Nat × Nat × Octets × Octets) := do
  match count? o with
  | none =>
    Work.refuse ("invalid number ".toList ++ place.toList ++
      ": invalid count at start of ".toList ++ quoted o) 2
  | some (field, rest) =>
    if field = 0 then
      Work.refuse ("field number is zero: invalid field specification ".toList ++ quoted whole) 2
    let (char, rest) ← match rest with
      | '.' :: rest => match count? rest with
        | some (n, rest) => pure (n, rest)
        | none => Work.refuse ("invalid number after '.': invalid count at start of ".toList ++
            quoted rest) 2
      | rest => pure (0, rest)
    let letters := rest.takeWhile (· ∈ "bdfgiMhnRrV".toList)
    return (field, char, letters, rest.drop letters.length)

/-- The key that a text describes. -/
def Key.read (o : Octets) : Work Key := do
  let (field, char, letters, rest) ← position o "at field start" o
  let key : Key :=
    { firstField := field - 1, firstChar := char - 1, skipsFirst := 'b' ∈ letters
      order := letters.filter (· ≠ 'b') }
  match rest with
  | [] => return key
  | ',' :: rest =>
    let (field, char, letters, rest) ← position rest "after ','" o
    if rest ≠ [] then
      Work.refuse ("stray character in field spec: invalid field specification ".toList ++
        quoted o) 2
    return { key with
      last? := some (field - 1, char), skipsLast := 'b' ∈ letters
      order := key.order ++ letters.filter (· ≠ 'b') }
  | _ =>
    Work.refuse ("stray character in field spec: invalid field specification ".toList ++ quoted o) 2

/-! ### Lines -/

/-- How lines are sorted. -/
structure Rules where
  keys : List Key
  mark? : Option Char := none
  /-- The order of lines is turned round where nothing else is said. -/
  turned : Bool := false
  /-- Lines whose keys are equal keep their order. -/
  stable : Bool := false
  deriving Inhabited

/-- The order of the keys of two lines. -/
def Rules.compareKeys (r : Rules) (a b : Octets) : Ordering :=
  r.keys.foldl
    (fun found k =>
      let ordering := compareParts k.order (k.part r.mark? a) (k.part r.mark? b)
      found.then (if 'r' ∈ k.order then ordering.swap else ordering))
    .eq

/-- The order of two lines. -/
def Rules.compare (r : Rules) (a b : Octets) : Ordering :=
  let keys := r.compareKeys a b
  if r.stable then keys
  else keys.then (if r.turned then (compareBytes a b).swap else compareBytes a b)

/-- The first of several lines with equal keys. -/
def Rules.firsts (r : Rules) : List Octets → List Octets
  | [] => []
  | line :: rest =>
    line :: (r.firsts rest).dropWhile fun other => r.compareKeys line other = .eq

end Sorting

/-! ### Sorted lines -/

/-- The lines of some files without their ends. -/
def allLines (paths : List Octets) : Work (List Octets) := do
  let mut lines : List Octets := []
  for path in paths do
    match ← Work.contents path with
    | .ok text => lines := lines ++ (Octets.lines text).map Octets.chomp
    | .error (isOpen, e) =>
      let what := if isOpen then "read failed: " else "cannot read: "
      Work.refuse (about (what.toList ++ quotedIfNeeded path) e) 2
  return lines

/-- Write lines in order. -/
def sort : Work UInt8 := do
  let letters := "bdfgiMhnRrV".toList
  let o ← Options.read
    { switches :=
        [ { letters := "b", names := ["ignore-leading-blanks"] },
          { letters := "d", names := ["dictionary-order"] },
          { letters := "f", names := ["ignore-case"] },
          { letters := "g", names := ["general-numeric-sort"] },
          { letters := "i", names := ["ignore-nonprinting"] },
          { letters := "M", names := ["month-sort"] },
          { letters := "h", names := ["human-numeric-sort"] },
          { letters := "n", names := ["numeric-sort"] },
          { letters := "R", names := ["random-sort"] },
          { letters := "r", names := ["reverse"] }, { letters := "V", names := ["version-sort"] },
          { letters := "k", names := ["key"], arity := .one },
          { letters := "t", names := ["field-separator"], arity := .one },
          { letters := "o", names := ["output"], arity := .one },
          { letters := "u", names := ["unique"] }, { letters := "s", names := ["stable"] },
          { letters := "m", names := ["merge"] }, { letters := "c" }, { letters := "C" },
          { names := ["check"], arity := .maybe }, { letters := "z", names := ["zero-terminated"] },
          { letters := "S", names := ["buffer-size"], arity := .one },
          { letters := "T", names := ["temporary-directory"], arity := .one },
          { names := ["parallel"], arity := .one }, { names := ["debug"] } ]
      code := 2 }
  let mark? ← match o.value? "t" with
    | none => pure none
    | some [] => Work.refuse "empty tab".toList 2
    | some ['\\', '0'] => pure (some '\x00')
    | some [c] => pure (some c)
    | some word => Work.refuse ("multi-character tab ".toList ++ quoted word) 2
  let usual := letters.filter fun c => o.has (String.singleton c)
  let inherit (k : Sorting.Key) : Sorting.Key :=
    if k.order = [] ∧ !k.skipsFirst ∧ !k.skipsLast then
      { k with
        order := usual.filter (· ≠ 'b')
        skipsFirst := 'b' ∈ usual
        skipsLast := 'b' ∈ usual }
    else k
  let mut keys : List Sorting.Key := []
  for word in o.values "k" do keys := keys ++ [inherit (← Sorting.Key.read word)]
  let isPlain := usual.all (· = 'r')
  let rules : Sorting.Rules :=
    { keys := if keys = [] && !isPlain then [inherit {}] else keys
      mark?, turned := o.has "r", stable := o.has "s" || o.has "u" }
  -- without keys the whole lines are compared
  let rules := if keys = [] && isPlain && rules.stable then { rules with keys := [inherit {}] }
    else rules
  let operands := orInput o.operands
  let lines ← allLines operands
  if o.has "c" || o.has "C" || o.has "check" then
    let isAfter (a b : Octets) : Bool :=
      rules.compare a b = .gt || (o.has "u" && rules.compareKeys a b = .eq)
    let pairs := (lines.zip lines.tail).zipIdx
    match pairs.find? fun p => isAfter p.1.1 p.1.2 with
    | none => return 0
    | some ((_, line), i) =>
      if !o.has "C" then
        Work.complain (quotedIfNeeded (operands.headD []) ++ ':' :: Octets.ofNat (i + 2) ++
          ": disorder: ".toList ++ line)
      return 1
  else
    let sorted := lines.mergeSort fun a b => rules.compare a b != .gt
    let sorted := if o.has "u" then rules.firsts sorted else sorted
    let text := sorted.flatMap (· ++ ['\n'])
    match o.value? "o" with
    | none =>
      Work.say text
      return 0
    | some path =>
      match (← get).system.openToWrite (Octets.text path) false false with
      | .error e => Work.refuse (about ("open failed: ".toList ++ quotedIfNeeded path) (cause e)) 2
      | .ok (o, s) =>
        let (n, s) := s.add o
        match s.write n (Octets.bytes text) with
        | .ok s =>
          alter fun _ => s
          return 0
        | .error e => Work.refuse (about ("write failed: ".toList ++ quotedIfNeeded path) e) 2

/-! ### Lines that are alike -/

/-- Runs of lines that are alike, each as its lines. -/
def runsOf (alike : Octets → Octets → Bool) : List Octets → List (List Octets)
  | [] => []
  | line :: rest =>
    match runsOf alike rest with
    | (other :: more) :: runs =>
      if alike line other then (line :: other :: more) :: runs
      else [line] :: (other :: more) :: runs
    | _ => [[line]]

/-- Write lines without those that are like the line before. -/
def uniq : Work UInt8 := do
  let o ← Options.read
    { switches :=
        [ { letters := "c", names := ["count"] }, { letters := "d", names := ["repeated"] },
          { letters := "D" }, { names := ["all-repeated", "group"], arity := .maybe },
          { letters := "u", names := ["unique"] }, { letters := "i", names := ["ignore-case"] },
          { letters := "f", names := ["skip-fields"], arity := .one },
          { letters := "s", names := ["skip-chars"], arity := .one },
          { letters := "w", names := ["check-chars"], arity := .one }, { letters := "z" } ] }
  let amount (key what : String) : Work (Option Nat) := do
    match o.value? key with
    | none => return none
    | some word =>
      match size? word with
      | some n => return some n
      | none => Work.refuse (word ++ ": invalid number of ".toList ++ what.toList)
  let fields := (← amount "f" "fields to skip").getD 0
  let chars := (← amount "s" "bytes to skip").getD 0
  let width? ← amount "w" "bytes to compare"
  let compared (line : Octets) : Octets :=
    let part := (Sorting.afterFields none fields line).drop chars
    let part := match width? with
      | some n => part.take n
      | none => part
    if o.has "i" then part.map Char.toUpper else part
  let input := o.operands.headD ['-']
  match o.operands with
  | _ :: _ :: more :: _ => extra more
  | _ => pure ()
  let complaint (isOpen : Bool) (e : SystemError) : Octets :=
    if isOpen then about ("error reading ".toList ++ quoted input) e
    else about (quotedIfNeeded input) e
  match ← contentsOr input complaint with
  | none => return 1
  | some text =>
    let runs := runsOf (fun a b => compared a = compared b)
      ((Octets.lines text).map Octets.chomp)
    let runs := if o.has "d" || o.has "D" then runs.filter fun run => 1 < run.length else runs
    let runs := if o.has "u" then runs.filter fun run => run.length = 1 else runs
    let shown := runs.flatMap fun run =>
      let lines := if o.has "D" then run else run.take 1
      let count := if o.has "c" then numbered 7 run.length ++ [' '] else []
      lines.flatMap fun line => count ++ line ++ ['\n']
    match o.operands with
    | _ :: path :: _ =>
      match (← get).system.openToWrite (Octets.text path) false false with
      | .error e => failing (about (quotedIfNeeded path) (cause e))
      | .ok (o, s) =>
        let (n, s) := s.add o
        alter fun _ => ((s.write n (Octets.bytes shown)).toOption).getD s
        return 0
    | _ =>
      Work.say shown
      return 0

end FlowDump.Rehearsal.Toolbox
