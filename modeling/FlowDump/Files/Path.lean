import FlowDump.Text.Split

/-!
# Paths

A path is a text; its parts are separated by slashes.  Empty parts and single dots between slashes
are passed over, but a single dot at the very front of a path counts as a part.

* `Path.parts` — the names that a path leads through.
* `Path.isSame` — whether two texts are the same path.
* `Path.parent?` — the path without its last part.
* `Path.fileName?` — the last part, if it is a name.
* `Path.withExtension` — the path with another extension on its last name.
-/

namespace FlowDump.Path

/-! ### The end of a path -/

/-- The text before the last slash, slash included, and the text after it.  The path is given back
    to front, and so are both results. -/
def splitLast (reversed : List Char) : List Char × List Char :=
  (reversed.dropWhile (· ≠ '/'), reversed.takeWhile (· ≠ '/'))

/-- Drop empty parts and single dots from the end of a path that is given back to front. -/
def trimEnd : (fuel : Nat) → List Char → List Char
  | 0, r => r
  | fuel + 1, r =>
    match splitLast r with
    | (rest, []) => if r = [] then [] else trimEnd fuel rest.tail
    | (rest, ['.']) => trimEnd fuel rest.tail
    | _ => r

/-- Where a path starts: a slash, a single dot that counts as a part, or nothing. -/
def start (path : List Char) : List Char :=
  match path with
  | '/' :: _ => ['/']
  | ['.'] => ['.']
  | '.' :: '/' :: _ => ['.']
  | _ => []

/-- The last part of a path: the text in front of it, back to front, and the part itself.  `none`
    where nothing but the start is left. -/
def lastPart? (path : List Char) : Option (List Char × List Char) :=
  let body := (path.drop (start path).length).reverse
  match splitLast (trimEnd body.length body) with
  | (_, []) => none
  | (rest, part) => some (rest, part.reverse)

/-! ### Parents and names -/

/-- The path without its last part.  The empty path and the root have no parent. -/
def parent? (path : String) : Option String :=
  let cs := path.toList
  match lastPart? cs with
  | some (rest, _) => some (String.ofList (start cs ++ (trimEnd rest.length rest).reverse))
  | none =>
    match start cs with
    | ['.'] => some ""
    | _ => none

/-- The last part of a path and the text in front of it, if the part is a name. -/
def splitName? (path : List Char) : Option (List Char × List Char) :=
  match lastPart? path with
  | some (rest, part) =>
    if part = ['.', '.'] then none else some (start path ++ rest.reverse, part)
  | none => none

/-- The last part of a path, if it is a name. -/
def fileName? (path : String) : Option String :=
  (splitName? path.toList).map fun (_, name) => String.ofList name

/-! ### Extensions -/

/-- A name without its extension, and its extension: what follows the last dot, unless that dot is
    the first character. -/
def splitExtension (name : List Char) : List Char × Option (List Char) :=
  match splitDot name.reverse with
  | some (stem, ext) => if stem = [] then (name, none) else (stem.reverse, some ext.reverse)
  | none => (name, none)
where
  /-- What stands before and after the first dot of a name given back to front. -/
  splitDot (reversed : List Char) : Option (List Char × List Char) :=
    match reversed.dropWhile (· ≠ '.') with
    | [] => none
    | _ :: stem => some (stem, reversed.takeWhile (· ≠ '.'))

/-- Cut a path off after the stem of its last name, by `splitName?` and `splitExtension`, and append
    an extension.  A path whose last part is no name stays as it is. -/
def replaceExtension (path ext : List Char) : List Char :=
  match splitName? path with
  | none => path
  | some (front, name) => front ++ (splitExtension name).1 ++ '.' :: ext

/-- The path with another extension on its last name.  The old extension is taken off the end of
    the text by its length before the new one is put on, so that what is left of `..x` is the
    directory above, which has no name. -/
def withExtension (path ext : String) : String :=
  let cs := path.toList
  match (splitName? cs).bind fun (_, name) => (splitExtension name).2 with
  | none => String.ofList (replaceExtension cs ext.toList)
  | some old =>
    -- the dot stays behind and is taken off with what is now an empty extension
    String.ofList (replaceExtension (cs.take (cs.length - old.length)) ext.toList)

/-! ### The way down -/

/-- The names that a path leads through, dots among them. -/
def parts (path : String) : List String :=
  ((Text.split '/' path.toList).filter (· ≠ [])).map String.ofList

/-- Whether a path starts at the root. -/
def isAbsolute (path : String) : Bool :=
  path.toList.head? = some '/'

/-- Whether a path ends in a slash. -/
def endsInSlash (path : String) : Bool :=
  path.toList.getLast? = some '/'

/-- What counts of a path: its `start`, and the parts that lead on from there. -/
def steps (path : String) : List Char × List String :=
  (start path.toList, (parts path).filter (· ≠ "."))

/-- Whether two texts are the same path, by their `steps`: slashes that follow another one or stand
    at the end, and single dots after the start, count for nothing. -/
def isSame (a b : String) : Bool := steps a = steps b

end FlowDump.Path
