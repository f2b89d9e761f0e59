import FlowDump.Rehearsal.Shell.Grammar

/-!
# Marks and reserved words

* `Shell.Token` — what a script is read as: words, marks and reserved words.
* `Shell.Token.description` — the token in a complaint.
* `Shell.Reader` — how far a script has been read.
-/

namespace FlowDump.Rehearsal.Shell

/-! ### Tokens -/

/-- The words that mean something where a command may start. -/
inductive Reserved where
  | bang | case | do | done | elif | else | esac | fi | for | if | in | then | until | while
  | open | close
  deriving DecidableEq, Repr, Inhabited

/-- The reserved words as they are written. -/
def reservedWords : List (String × Reserved) :=
  [ ("!", .bang), ("case", .case), ("do", .do), ("done", .done), ("elif", .elif),
    ("else", .else), ("esac", .esac), ("fi", .fi), ("for", .for), ("if", .if), ("in", .in),
    ("then", .then), ("until", .until), ("while", .while), ("\x7b", .open), ("\x7d", .close) ]

/-- What a script is read as. -/
inductive Token where
  | finish
  | newline
  | semicolon
  | ampersand
  | and
  | or
  | bar
  | left
  | right
  | endCase
  | redirection
  | word
  | reserved (r : Reserved)
  deriving DecidableEq, Repr, Inhabited

namespace Token

/-- The token in a complaint. -/
def description : Token → String
  | finish => "end of file"
  | newline => "newline"
  | semicolon => "\";\""
  | ampersand => "\"&\""
  | and => "\"&&\""
  | or => "\"||\""
  | bar => "\"|\""
  | left => "\"(\""
  | right => "\")\""
  | endCase => "\";;\""
  | redirection => "redirection"
  | word => "word"
  | reserved r => "\"" ++ ((reservedWords.find? fun w => w.2 = r).map (·.1)).getD "" ++ "\""

/-- Whether a list of commands within another command ends before this token. -/
def endsList : Token → Bool
  | finish | newline | right | endCase => true
  | reserved r =>
    r ∈ [Reserved.do, .done, .elif, .else, .esac, .fi, .then, .close]
  | _ => false

end Token

/-- The reserved word that a text is. -/
def reserved? (o : Octets) : Option Reserved :=
  (reservedWords.find? fun w => w.1.toList = o).map (·.2)

/-! ### Readers -/

/-- What is looked for in the next token. -/
structure Expected where
  /-- Ends of lines are passed over. -/
  newlines : Bool := false
  reserved : Bool := false
  aliases : Bool := false
  /-- The word ends a document, and nothing is looked up in it. -/
  delimiter : Bool := false
  deriving Inhabited

/-- What ends a document: a line with this text, before which tabs may count for nothing. -/
structure Delimiter where
  text : Octets
  stripsTabs : Bool
  deriving Inhabited

/-- A document whose text is still to come. -/
structure Awaited where
  number : Nat
  delimiter : Delimiter
  /-- Whether nothing is looked up in the text. -/
  isRaw : Bool
  deriving Inhabited

/-- What a redirection asks for. -/
inductive Arrow where
  | file (mode : OpenMode)
  | same
  | document (stripsTabs : Bool)
  deriving Inhabited

/-- How far a script has been read. -/
structure Reader where
  rest : Octets
  line : Nat := 1
  /-- The last token, and whether it is to be read again. -/
  last : Token := .newline
  again : Bool := false
  expected : Expected := {}
  /-- The last word. -/
  word : Word := []
  /-- The descriptor and the kind of the last redirection. -/
  descriptor : Nat := 0
  arrow : Arrow := .same
  /-- The documents that start at the next end of a line. -/
  awaited : List Awaited := []
  /-- The documents so far, by number, and the next number. -/
  documents : List (Nat × Word) := []
  nextDocument : Nat := 0
  aliases : List (Octets × Octets) := []
  /-- The aliases whose text is being read, with the length of what follows it. -/
  inUse : List (Octets × Nat) := []
  deriving Inhabited

/-- Why a script cannot be read, and on which line. -/
structure Fault where
  line : Nat
  message : String
  deriving Inhabited

/-- Reading a part of a script. -/
abbrev Read := StateT Reader (Except Fault)

namespace Read

/-- Give up. -/
def fail {α : Type} (message : String) : Read α := do
  throw { line := (← get).line, message }

/-- Give up at a token, in place of which there should be another one. -/
def unexpected {α : Type} (t : Token) (wanted? : Option Token := none) : Read α :=
  fail (t.description ++ " unexpected" ++ match wanted? with
    | some wanted => " (expecting " ++ wanted.description ++ ")"
    | none => "")

/-- Say what is looked for in the next token. -/
def expect (expected : Expected) : Read Unit :=
  modify fun r => { r with expected }

/-- Let the last token be read again. -/
def putBack : Read Unit :=
  modify fun r => { r with again := true }

/-- A text from behind the lines that are joined to one at its front, with the number of its
    line. -/
def unjoin (line : Nat) : Octets → Nat × Octets
  | '\\' :: '\n' :: rest => unjoin (line + 1) rest
  | s => (line, s)

/-- The next character. -/
def peek : Read (Option Char) := do
  let r ← get
  let (line, rest) := unjoin r.line r.rest
  set { r with line, rest }
  return rest.head?

/-- Pass over the next character. -/
def drop : Read Unit :=
  modify fun r =>
    { r with rest := r.rest.tail, line := if r.rest.head? = some '\n' then r.line + 1 else r.line }

/-- The next character, if it is a certain one. -/
def dropIf (c : Char) : Read Bool := do
  if (← peek) = some c then
    drop
    return true
  else return false

/-- The characters up to the first one that is not of some kind. -/
def takeWhile (isKind : Char → Bool) : (fuel : Nat) → Read Octets
  | 0 => return []
  | fuel + 1 => do
    match ← peek with
    | some c =>
      if isKind c then
        drop
        return c :: (← takeWhile isKind fuel)
      else return []
    | none => return []

/-- The text up to a closing single quote, which is passed over. -/
def quotedText : Read Octets := do
  let r ← get
  match r.rest.dropWhile (· ≠ '\'') with
  | [] =>
    set { r with line := r.line + r.rest.count '\n', rest := [] }
    fail "Unterminated quoted string"
  | _ :: rest =>
    let text := r.rest.takeWhile (· ≠ '\'')
    set { r with line := r.line + text.count '\n', rest }
    return text

/-- The text of a command in back quotes, from after the first one. -/
def backquoted (inQuotes : Bool) : (fuel : Nat) → Read Octets
  | 0 => fail "EOF in backquote substitution"
  | fuel + 1 => do
    match ← peek with
    | none => fail "EOF in backquote substitution"
    | some '`' =>
      drop
      return []
    | some '\\' =>
      drop
      match (← get).rest.head? with
      | none => fail "EOF in backquote substitution"
      | some c =>
        drop
        let kept : Octets :=
          if c ∈ ['\\', '`', '$'] ∨ (inQuotes ∧ c = '"') then [c] else ['\\', c]
        return kept ++ (← backquoted inQuotes fuel)
    | some c =>
      drop
      return c :: (← backquoted inQuotes fuel)

/-- Whether a document ends here, at the start of a line; the line that ends it is passed over. -/
def closes (d : Delimiter) : Read Bool := do
  let r ← get
  let rest := if d.stripsTabs then r.rest.dropWhile (· = '\t') else r.rest
  match d.text.isPrefixOf? rest with
  | some ('\n' :: rest) =>
    set { r with rest, line := r.line + 1 }
    return true
  | some [] =>
    set { r with rest := [] }
    return true
  | _ =>
    set { r with rest }
    return false

/-- The text of a document in which nothing is looked up. -/
def rawDocument (d : Delimiter) : (fuel : Nat) → Read Octets
  | 0 => return []
  | fuel + 1 => do
    if ← closes d then return []
    let r ← get
    if r.rest = [] then return []
    let line := r.rest.takeWhile (· ≠ '\n')
    let ending := (r.rest.drop line.length).take 1
    set { r with rest := r.rest.drop (line.length + 1), line := r.line + ending.length }
    return line ++ ending ++ (← rawDocument d fuel)

end Read

end FlowDump.Rehearsal.Shell
