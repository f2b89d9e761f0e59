import FlowDump.Toml.Scalar

/-!
# Reading TOML

* `Toml.value` — the value at the front of a text.
* `Toml.statements` — the statements of a text, line by line.
* `Toml.parse` — the table that a whole text defines.
-/

namespace FlowDump.Toml

/-! ### Between the words -/

/-- A text without the blanks at its front. -/
def skipBlank (s : List Char) : List Char :=
  s.dropWhile fun c => c = ' ' || c = '\t'

/-- A text without blanks, comments and line ends at its front; `comment` tells that a comment has
    begun. -/
def skipTrivia : (comment : Bool) → List Char → Option (List Char)
  | _, [] => some []
  | _, '\n' :: rest => skipTrivia false rest
  | _, '\r' :: '\n' :: rest => skipTrivia false rest
  | true, c :: rest => if isPlain c then skipTrivia true rest else none
  | false, c :: rest =>
    if c = ' ' ∨ c = '\t' then skipTrivia false rest
    else if c = '#' then skipTrivia true rest
    else some (c :: rest)

/-- What follows the end of a line, before which only blanks and a comment may stand. -/
def endLine (s : List Char) : Option (List Char) :=
  let s := skipBlank s
  let s := match s with
    | '#' :: rest => rest.dropWhile isPlain
    | s => s
  match s with
  | [] => some []
  | '\n' :: rest => some rest
  | '\r' :: '\n' :: rest => some rest
  | _ => none

/-! ### Names -/

/-- The characters of a name without quotes. -/
def isBare (c : Char) : Bool :=
  c.isAlphanum || c = '_' || c = '-'

/-- A name. -/
def name? (s : List Char) : Option (String × List Char) :=
  match s with
  | '"' :: _ => quotedName? s
  | '\'' :: _ => quotedName? s
  | s =>
    let bare := s.takeWhile isBare
    if bare = [] then none else some (String.ofList bare, s.drop bare.length)

/-- A name that may lead through tables, with dots between its parts, and what follows it without
    blanks; at most `fuel` parts. -/
def path? : (fuel : Nat) → List Char → Option (List String × List Char)
  | 0, _ => none
  | fuel + 1, s => do
    let (k, s) ← name? (skipBlank s)
    match skipBlank s with
    | '.' :: s =>
      let (rest, s) ← path? fuel s
      return (k :: rest, s)
    | s => return ([k], s)

/-! ### Values -/

/-- The characters of a word without quotes. -/
def isWord (c : Char) : Bool :=
  c.isAlphanum || c = '_' || c = '-' || c = '+' || c = '.' || c = ':'

/-- The word at the front of a text.  A date and a time may have one space between them. -/
def word (s : List Char) : List Char × List Char :=
  let first := s.takeWhile isWord
  match s.dropWhile isWord with
  | ' ' :: d :: rest =>
    -- after a date, a blank and a digit begin the time of the day
    if d.isDigit && afterDate? first = some [] then
      (first ++ ' ' :: (d :: rest).takeWhile isWord, (d :: rest).dropWhile isWord)
    else (first, ' ' :: d :: rest)
  | rest => (first, rest)

/-- The values of an array up to its end, with commas between them and perhaps after the last one;
    at most `fuel` of them. -/
def arrayItems (value : List Char → Option (Value × List Char)) :
    (fuel : Nat) → List Char → Option (List Value × List Char)
  | 0, _ => none
  | fuel + 1, s => do
    match ← skipTrivia false s with
    | ']' :: rest => return ([], rest)
    | s =>
      let (v, s) ← value s
      match ← skipTrivia false s with
      | ']' :: rest => return ([v], rest)
      | ',' :: rest =>
        let (vs, rest) ← arrayItems value fuel rest
        return (v :: vs, rest)
      | _ => none

/-- A pair of a name, by `path?`, and a value, with an equals sign between them. -/
def pair (value : List Char → Option (Value × List Char)) (s : List Char) :
    Option ((List String × Value) × List Char) := do
  let (path, s) ← path? (s.length + 1) s
  match s with
  | '=' :: s =>
    let (v, s) ← value (skipBlank s)
    return ((path, v), s)
  | _ => none

/-- The pairs of an inline table up to its end, with commas between them; at most `fuel` of
    them. -/
def inlinePairs (value : List Char → Option (Value × List Char)) :
    (fuel : Nat) → List Char → Option (List (List String × Value) × List Char)
  | 0, _ => none
  | fuel + 1, s => do
    let (p, s) ← pair value s
    match skipBlank s with
    | '\x7d' :: rest => return ([p], rest)
    | ',' :: rest =>
      let (ps, rest) ← inlinePairs value fuel rest
      return (p :: ps, rest)
    | _ => none

/-- An inline table, from after its opening brace. -/
def inlineTable (value : List Char → Option (Value × List Char)) (s : List Char) :
    Option (Value × List Char) :=
  match skipBlank s with
  | '\x7d' :: rest => some (.table [], rest)
  | s => do
    let (pairs, rest) ← inlinePairs value (s.length + 1) s
    let table ← build? (pairs.map fun p => .pair p.1 p.2)
    return (.table table, rest)

/-- The value at the front of a text; values may be nested `limit` deep. -/
def value : (limit : Nat) → List Char → Option (Value × List Char)
  | 0, _ => none
  | limit + 1, s =>
    match s with
    | '"' :: _ => (string? s).map fun (t, rest) => (.string t, rest)
    | '\'' :: _ => (string? s).map fun (t, rest) => (.string t, rest)
    | '[' :: rest =>
      (arrayItems (value limit) (rest.length + 1) rest).map fun (vs, rest) => (.array vs, rest)
    | '\x7b' :: rest => inlineTable (value limit) rest
    | s => (classify? (word s).1).map fun v => (v, (word s).2)

/-! ### Documents -/

/-- The statement at the front of a text, which starts with no blank, and what follows it on its
    line. -/
def statement (s : List Char) : Option (Statement × List Char) := do
  match s with
  | '[' :: '[' :: rest =>
    match ← path? (rest.length + 1) rest with
    | (path, ']' :: ']' :: rest) => return (.arrayHeader path, rest)
    | _ => none
  | '[' :: rest =>
    match ← path? (rest.length + 1) rest with
    | (path, ']' :: rest) => return (.header path, rest)
    | _ => none
  | s =>
    let ((path, v), rest) ← pair (value (s.length + 1)) s
    return (.pair path v, rest)

/-- The statements of a text, one a line; at most `fuel` of them. -/
def statements : (fuel : Nat) → List Char → Option (List Statement)
  | 0, _ => none
  | fuel + 1, s => do
    match ← skipTrivia false s with
    | [] => return []
    | s =>
      let (x, s) ← statement s
      let s ← endLine s
      return x :: (← statements fuel s)

/-- A text without the mark of its byte order. -/
def skipByteOrderMark : List Char → List Char
  | '\uFEFF' :: rest => rest
  | s => s

/-- The table that a text defines: `build?` of its statements, behind the mark of its byte order. -/
def parse (text : String) : Option Table :=
  let s := skipByteOrderMark text.toList
  (statements (s.length + 1) s).bind build?

end FlowDump.Toml
