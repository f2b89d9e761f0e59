import FlowDump.Rehearsal.Shell.Glob
import FlowDump.Rehearsal.Toolbox.Contents

/-!
# Programs for parts of lines and single characters

* `Toolbox.cut` — some bytes or fields of each line.
* `Toolbox.tr` — other characters in place of some.
-/

namespace FlowDump.Rehearsal.Toolbox

/-! ### Ranges -/

/-- Numbers from one to another, or without an end. -/
structure Range where
  first : Nat
  last? : Option Nat
  deriving Inhabited

/-- Whether a number is in a range. -/
def Range.holds (r : Range) (n : Nat) : Bool := r.first ≤ n && r.last?.all (n ≤ ·)

/-- What is said about ranges of fields, and about other ranges. -/
def rangeTexts (fields : Bool) : String × String × String :=
  if fields then ("invalid field range", "fields are numbered from 1", "invalid field value ")
  else ("invalid byte or character range", "byte/character positions are numbered from 1",
    "invalid byte/character position ")

/-- The range that a part of a list describes. -/
def readRange (fields : Bool) (o : Octets) : Work Range := do
  let (twice, zero, bad) := rangeTexts fields
  let number (digits : Octets) : Nat := (Format.digits 10 digits.length 0 0 digits).2.1
  let rest := o.dropWhile fun c => c.isDigit || c = '-'
  if rest ≠ [] then Work.misused (bad.toList ++ quoted rest)
  match o.splitOn '-' with
  | [digits] =>
    let n := number digits
    if n = 0 then Work.misused zero.toList
    return ⟨n, some n⟩
  | [first, last] =>
    if first = [] ∧ last = [] then Work.misused "invalid range with no endpoint: -".toList
    if first ≠ [] ∧ number first = 0 then Work.misused zero.toList
    let a := if first = [] then 1 else number first
    if last = [] then return ⟨a, none⟩
    if number last < a then Work.misused "invalid decreasing range".toList
    return ⟨a, some (number last)⟩
  | _ => Work.misused twice.toList

/-! ### Parts of lines -/

/-- The parts of a line that some ranges ask for, each with its number; a separator stands between
    parts where `between` says so. -/
def chosen (isChosen : Nat → Bool) (parts : List Octets) : List (Nat × Octets) :=
  (parts.zipIdx.map fun p => (p.2 + 1, p.1)).filter fun p => isChosen p.1

/-- Bytes with a separator between those that do not belong together. -/
def bytesBetween (together : Nat → Nat → Bool) (separator : Octets) : List (Nat × Octets) → Octets
  | [] => []
  | [(_, o)] => o
  | (n, o) :: (m, p) :: rest =>
    o ++ (if together n m then [] else separator) ++
      bytesBetween together separator ((m, p) :: rest)

/-- Write some bytes or fields of each line. -/
def cut : Work UInt8 := do
  let o ← Options.read
    { switches :=
        [ { letters := "b", names := ["bytes"], arity := .one },
          { letters := "c", names := ["characters"], arity := .one },
          { letters := "f", names := ["fields"], arity := .one },
          { letters := "d", names := ["delimiter"], arity := .one },
          { letters := "s", names := ["only-delimited"] }, { letters := "n" }, { letters := "z" },
          { names := ["output-delimiter"], arity := .one }, { names := ["complement"] } ] }
  let lists := o.values "b" ++ o.values "c" ++ o.values "f"
  let delimiter ← match o.value? "d" with
    | none => pure '\t'
    | some [] => pure '\x00'
    | some [c] => pure c
    | some _ => Work.misused "the delimiter must be a single character".toList
  let list ← match lists with
    | [] => Work.misused "you must specify a list of bytes, characters, or fields".toList
    | [list] => pure list
    | _ => Work.misused "only one list may be specified".toList
  let fields := o.has "f"
  if !fields && o.has "d" then
    Work.misused "an input delimiter may be specified only when operating on fields".toList
  if !fields && o.has "s" then
    Work.misused
      "suppressing non-delimited lines makes sense\n\tonly when operating on fields".toList
  let mut ranges : List Range := []
  for part in list.splitOnP (fun c => c = ',' || c = ' ' || c = '\t') do
    ranges := ranges ++ [← readRange fields part]
  let all := ranges
  let isChosen (n : Nat) : Bool := all.any (·.holds n) != o.has "complement"
  -- bytes belong together if they are side by side in the same range
  let together (n m : Nat) : Bool :=
    m = n + 1 && (o.has "complement" || all.any fun r => r.holds n && r.holds m)
  let separator? := o.value? "output-delimiter"
  let shown (line : Octets) : Octets :=
    if fields then
      let parts := line.splitOn delimiter
      if parts.length < 2 then (if o.has "s" then [] else line ++ ['\n'])
      else
        let separator := separator?.getD [delimiter]
        (((chosen isChosen parts).map (·.2)).intersperse separator).flatten ++ ['\n']
    else
      bytesBetween together (separator?.getD []) (chosen isChosen (line.map fun c => [c])) ++ ['\n']
  Work.forEach (orInput o.operands) fun path => do
    match ← contentsOr path (unreadable path) with
    | none => return 1
    | some text =>
      Work.say ((Octets.lines text).flatMap fun line => shown (Octets.chomp line))
      return 0

/-! ### Sets of characters -/

/-- An element of a set: a character, a class, or a character so many times; without a number as
    often as it takes. -/
inductive Element where
  | one (c : Char)
  | named (name : Octets)
  | times (c : Char) (count : Nat)
  deriving DecidableEq, Repr, Inhabited

/-- All characters. -/
def allChars : Octets := (List.range 256).map Char.ofNat

/-- The characters of a class. -/
def classChars (name : Octets) : Octets := allChars.filter (Shell.Glob.isInClass name)

/-- A character, which may be written with a backslash, and whether it was not, with what
    follows. -/
def setChar : Octets → Option (Char × Bool × Octets)
  | [] => none
  | ['\\'] => some ('\\', true, [])
  | '\\' :: c :: rest =>
    match Format.escape? (c :: rest) with
    | some (d, rest) => some (d, false, rest)
    | none => some (c, false, rest)
  | c :: rest => some (c, true, rest)

/-- The elements of a set; at most `fuel` of them. -/
def elements : (fuel : Nat) → Octets → Work (List Element)
  | 0, _ => return []
  | fuel + 1, o => do
    let plain : Work (List Element) := do
      match setChar o with
      | none => return []
      | some (c, _, rest) =>
        match rest with
        | '-' :: after@(_ :: _) =>
          match setChar after with
          | some (d, _, after) =>
            if d < c then
              Work.refuse ("range-endpoints of '".toList ++ [c, '-', d] ++
                "' are in reverse collating sequence order".toList)
            let range := (List.range (d.toNat - c.toNat + 1)).map fun i =>
              Element.one (Char.ofNat (c.toNat + i))
            return range ++ (← elements fuel after)
          | none => return .one c :: (← elements fuel rest)
        | _ => return .one c :: (← elements fuel rest)
    match o with
    | '[' :: ':' :: rest =>
      let name := rest.takeWhile (· ≠ ':')
      match rest.drop name.length with
      | ':' :: ']' :: after =>
        if classChars name = [] then
          Work.refuse ("invalid character class ".toList ++ quoted name)
        return .named name :: (← elements fuel after)
      | _ => plain
    | '[' :: '=' :: c :: '=' :: ']' :: after => return .one c :: (← elements fuel after)
    | '[' :: rest =>
      match setChar rest with
      | some (c, _, '*' :: after) =>
        let digits := after.takeWhile Char.isDigit
        match after.drop digits.length with
        | ']' :: after =>
          let base := if digits.head? = some '0' then 8 else 10
          let times := (Format.digits base digits.length 0 0 digits).2.1
          return .times c times :: (← elements fuel after)
        | _ => plain
      | _ => plain
    | _ => plain

/-- The characters of a set; what has no number is there `fill` times. -/
def charsOf (fill : Nat) (set : List Element) : Octets :=
  set.flatMap fun
    | .one c => [c]
    | .named name => classChars name
    | .times c 0 => List.replicate fill c
    | .times c n => List.replicate n c

/-- A text without repetitions of some characters. -/
def squeezed (isMeant : Char → Bool) : Octets → Octets
  | [] => []
  | c :: rest =>
    match squeezed isMeant rest with
    | d :: more => if c = d ∧ isMeant c then d :: more else c :: d :: more
    | [] => [c]

/-- Write the input with other characters in place of some. -/
def tr : Work UInt8 := do
  let o ← Options.read
    { switches :=
        [ { letters := "cC", names := ["complement"] }, { letters := "d", names := ["delete"] },
          { letters := "s", names := ["squeeze-repeats"] },
          { letters := "t", names := ["truncate-set1"] } ]
      mixed := false }
  let (deletes, squeezes) := (o.has "d", o.has "s")
  let missing (word : Octets) (why : String) : Work UInt8 := do
    Work.complain ("missing operand after ".toList ++ quoted word)
    Work.warn (why.toList ++ ['\n'])
    Work.hint
    Work.leave 1
  let (set, other?) ← match o.operands with
    | [] => Work.misused "missing operand".toList
    | [a] =>
      if deletes && squeezes then
        let _ ← missing a
          "Two strings must be given when both deleting and squeezing repeats."
      else if !deletes && !squeezes then
        let _ ← missing a "Two strings must be given when translating."
      pure (a, none)
    | [a, b] =>
      if deletes && !squeezes then
        Work.complain ("extra operand ".toList ++ quoted b)
        Work.warn "Only one string may be given when deleting without squeezing repeats.\n".toList
        Work.hint
        Work.leave 1
      pure (a, some b)
    | _ :: _ :: more :: _ => extra more
  let first ← elements (set.length + 1) set
  let second? ← match other? with
    | some b => do
      let second ← elements (b.length + 1) b
      pure (some second)
    | none => pure none
  let named := charsOf 0 first
  let meant := if o.has "c" then allChars.filter (· ∉ named) else named
  let translation? : Option (Octets × Octets) := if deletes then none else second?.map fun second =>
    let fixed := (charsOf 0 second).length
    let target := charsOf (meant.length - fixed) second
    -- classes of letters stand for each other letter by letter
    let source := meant
    if o.has "t" then (source.take target.length, target)
    else
      let last := target.getLast?.getD ' '
      (source, target ++ List.replicate (source.length - target.length) last)
  match translation?, second? with
  | some _, some [] =>
    if !o.has "t" then
      Work.refuse "when not truncating set1, string2 must be non-empty".toList
  | _, _ => pure ()
  match ← Work.input with
  | .error e => failing (about "read error".toList e)
  | .ok text =>
    let kept := if deletes then text.filter (· ∉ meant) else text
    let changed := match translation? with
      | some (source, target) =>
        -- of several places of a character the last one counts
        let pairs := (source.zip target).reverse
        kept.map fun c => ((pairs.find? fun p => p.1 = c).map (·.2)).getD c
      | none => kept
    let marks := match second? with
      | some second => charsOf (meant.length - (charsOf 0 second).length) second
      | none => meant
    Work.say (if squeezes then squeezed (· ∈ marks) changed else changed)
    return 0

end FlowDump.Rehearsal.Toolbox
