import FlowDump.Files.Filesystem
import FlowDump.Rehearsal.Octets

/-!
# Patterns of file names

* `Shell.Glyph` — a character that may be quoted.
* `Glob.Part`, `Glob.compile` — a pattern part by part.
* `Glob.fits` — whether a text is of the form of a pattern.
* `Glob.cutFront`, `Glob.cutBack` — a text without what a pattern matches at one of its ends.
* `Glob.paths` — the paths that a pattern stands for.
-/

namespace FlowDump.Rehearsal.Shell

/-- A character; a quoted one stands for itself. -/
structure Glyph where
  char : Char
  quoted : Bool
  deriving DecidableEq, Repr, Inhabited

namespace Glob

/-! ### Patterns -/

/-- What a set of characters is made of. -/
inductive Member where
  | range (first last : Char)
  | named (name : Octets)
  deriving DecidableEq, Repr, Inhabited

/-- A part of a pattern. -/
inductive Part where
  | one (c : Char)
  | any
  | many
  | set (negated : Bool) (members : List Member)
  deriving DecidableEq, Repr, Inhabited

/-- Whether an ASCII character is in a class by its name. -/
def isInClass (name : Octets) (c : Char) : Bool :=
  let isPrinted := 0x20 < c.toNat && c.toNat < 0x7F
  match String.ofList name with
  | "alnum" => c.isAlphanum
  | "alpha" => c.isAlpha
  | "blank" => c = ' ' || c = '\t'
  | "cntrl" => c.toNat < 0x20 || c.toNat = 0x7F
  | "digit" => c.isDigit
  | "graph" => isPrinted
  | "lower" => c.isLower
  | "print" => isPrinted || c = ' '
  | "punct" => isPrinted && !c.isAlphanum
  | "space" => Octets.isBlank c
  | "upper" => c.isUpper
  | "xdigit" => c.isDigit || ('a' ≤ c && c ≤ 'f') || ('A' ≤ c && c ≤ 'F')
  | _ => false

/-- Whether a character is what a member stands for. -/
def Member.holds (m : Member) (c : Char) : Bool :=
  match m with
  | range first last => first ≤ c && c ≤ last
  | named name => isInClass name c

/-- Whether an unquoted character is a certain one. -/
def isMark (c : Char) (g : Glyph) : Bool := !g.quoted && g.char = c

/-- The name of a class at the front of a text, from after its bracket and colon. -/
def className? (s : List Glyph) : Option (Octets × List Glyph) :=
  let name := s.takeWhile fun g => g.char.isAlpha
  match s.drop name.length with
  | colon :: bracket :: rest =>
    if isMark ':' colon ∧ isMark ']' bracket then some (name.map (·.char), rest) else none
  | _ => none

/-- The members of a set up to its closing bracket, and what follows; there are none where it is not
    closed. -/
def members? : (fuel : Nat) → (isFirst : Bool) → List Glyph → Option (List Member × List Glyph)
  | 0, _, _ => none
  | _ + 1, _, [] => none
  | fuel + 1, isFirst, g :: rest =>
    if isMark ']' g ∧ !isFirst then some ([], rest)
    else
      let named? := match rest with
        | colon :: rest => if isMark '[' g ∧ isMark ':' colon then className? rest else none
        | [] => none
      match named? with
      | some (name, rest) => (members? fuel false rest).map fun m => (.named name :: m.1, m.2)
      | none =>
        let (g, rest) := match rest with
          | next :: others => if isMark '\\' g then (next, others) else (g, rest)
          | [] => (g, rest)
        match rest with
        | dash :: last :: others =>
          if isMark '-' dash ∧ !isMark ']' last then
            (members? fuel false others).map fun m => (.range g.char last.char :: m.1, m.2)
          else (members? fuel false rest).map fun m => (.range g.char g.char :: m.1, m.2)
        | _ => (members? fuel false rest).map fun m => (.range g.char g.char :: m.1, m.2)

/-- The parts of a pattern; at most `fuel` of them. -/
def compileWithin : (fuel : Nat) → List Glyph → List Part
  | 0, _ => []
  | _ + 1, [] => []
  | fuel + 1, g :: rest =>
    if g.quoted then .one g.char :: compileWithin fuel rest
    else match g.char with
      | '*' => .many :: compileWithin fuel rest
      | '?' => .any :: compileWithin fuel rest
      | '\\' =>
        match rest with
        | next :: rest => .one next.char :: compileWithin fuel rest
        | [] => [.one '\\']
      | '[' =>
        let (negated, inside) := match rest with
          | mark :: inside =>
            if isMark '!' mark ∨ isMark '^' mark then (true, inside) else (false, rest)
          | [] => (false, rest)
        match members? (inside.length + 1) true inside with
        | some (members, rest) => .set negated members :: compileWithin fuel rest
        | none => .one '[' :: compileWithin fuel rest
      | c => .one c :: compileWithin fuel rest

/-- The parts of a pattern. -/
def compile (s : List Glyph) : List Part := compileWithin (s.length + 1) s

/-- The ends of a text, the whole text first. -/
def ends : Octets → List Octets
  | [] => [[]]
  | c :: rest => (c :: rest) :: ends rest

/-- Whether a text is of the form of a pattern. -/
def fits : List Part → Octets → Bool
  | [], s => s = []
  | .many :: parts, s => (ends s).any fun rest => fits parts rest
  | .one c :: parts, d :: rest => c = d && fits parts rest
  | .any :: parts, _ :: rest => fits parts rest
  | .set negated members :: parts, d :: rest =>
    (members.any (·.holds d)) != negated && fits parts rest
  | _ :: _, [] => false

/-- The text without the shortest or the longest front that fits a pattern. -/
def cutFront (longest : Bool) (parts : List Part) (s : Octets) : Octets :=
  let lengths := List.range (s.length + 1)
  match (if longest then lengths.reverse else lengths).find? fun n => fits parts (s.take n) with
  | some n => s.drop n
  | none => s

/-- The text without the shortest or the longest back that fits a pattern. -/
def cutBack (longest : Bool) (parts : List Part) (s : Octets) : Octets :=
  let lengths := List.range (s.length + 1)
  match (if longest then lengths else lengths.reverse).find? fun n => fits parts (s.drop n) with
  | some n => s.take n
  | none => s

/-! ### Paths -/

/-- Whether a text holds a mark of a pattern. -/
def hasMarks (s : List Glyph) : Bool :=
  s.any fun g => isMark '*' g || isMark '?' g || isMark '[' g

/-- The characters of a text. -/
def plain (s : List Glyph) : Octets := s.map (·.char)

/-- A text in front of the first slash, the slashes there, and what follows. -/
def cutSlashes (s : List Glyph) : List Glyph × List Glyph × List Glyph :=
  let isSlash (g : Glyph) : Bool := g.char = '/'
  let part := s.takeWhile (!isSlash ·)
  let rest := s.drop part.length
  (part, rest.takeWhile isSlash, rest.dropWhile isSlash)

/-- Whether something stands at a path. -/
def exists? (files : Filesystem) (path : Octets) : Bool :=
  (files.find (Octets.text path)).toOption.isSome

/-- The names in a directory that fit a pattern; those that start with a dot are found only by a dot
    in the pattern. -/
def names (files : Filesystem) (directory : Octets) (part : List Glyph) : List Octets :=
  let path := if directory = [] then "." else Octets.text directory
  let pattern := compile part
  let startsWithDot : Bool := (plain part).head? = some '.'
  match files.names path with
  | .error _ => []
  | .ok all =>
    (([['.'], ['.', '.']] ++ all.map Octets.ofText).filter fun name =>
      fits pattern name && (name.head? = some '.') == startsWithDot)

/-- The paths that a pattern stands for, from behind a path. -/
def pathsFrom (files : Filesystem) : (fuel : Nat) → (before : Octets) → List Glyph → List Octets
  | 0, _, _ => []
  | fuel + 1, before, s =>
    match cutSlashes s with
    | (part, slashes, rest) =>
      let found := if hasMarks part then names files before part else [plain part]
      found.flatMap fun name =>
        let path := before ++ name ++ plain slashes
        if rest = [] then (if exists? files path then [path] else [])
        else pathsFrom files fuel path rest

/-- The paths that a pattern stands for, in order. -/
def paths (files : Filesystem) (s : List Glyph) : List Octets :=
  (pathsFrom files (s.length + 1) [] s).mergeSort Octets.isAtMost

end Glob

end FlowDump.Rehearsal.Shell
