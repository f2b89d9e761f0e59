import FlowDump.Rehearsal.Octets

/-!
# Commands of the shell

* `Shell.Piece`, `Shell.Word` — a word piece by piece, with what is quoted in it and what has to be
  looked up or computed.
* `Shell.Redirection` — where a descriptor of a command leads.
* `Shell.Command` — commands, from simple ones to loops and functions.
-/

namespace FlowDump.Rehearsal.Shell

/-! ### Parameters -/

/-- What is done where a parameter has no value, or has one. -/
inductive Substitute where
  /-- The word stands in for a missing value. -/
  | fallback
  /-- The word becomes the value if there is none. -/
  | assign
  /-- The word is the complaint about a missing value. -/
  | complain
  /-- The word takes the place of a value that is there. -/
  | replace
  deriving DecidableEq, Repr, Inhabited

/-- What is done with the value of a parameter. -/
inductive Operation where
  | value
  | length
  /-- An empty value counts as missing if `orEmpty` says so. -/
  | substitute (how : Substitute) (orEmpty : Bool)
  /-- What matches the word is cut off at an end. -/
  | trim (atEnd longest : Bool)
  /-- Something that is no operation. -/
  | unknown
  deriving DecidableEq, Repr, Inhabited

/-! ### Words and commands -/

/-- How a file is opened for a command. -/
inductive OpenMode where
  | read
  | write
  /-- Write even where files are not to be overwritten. -/
  | overwrite
  | append
  | both
  deriving DecidableEq, Repr, Inhabited

mutual

/-- A piece of a word. -/
inductive Piece where
  | plain (c : Char)
  | quoted (c : Char)
  /-- A quote mark: it stands for nothing, but shows that the word is there. -/
  | mark
  | parameter (name : Octets) (operation : Operation) (word : List Piece) (inQuotes : Bool)
  /-- The output of a command. -/
  | output (command : Command) (inQuotes : Bool)
  /-- The value of an arithmetic expression. -/
  | arithmetic (expression : List Piece) (inQuotes : Bool)

/-- Where a descriptor leads. -/
inductive Redirection where
  | file (descriptor : Nat) (mode : OpenMode) (name : List Piece)
  /-- Where another descriptor leads, or nowhere. -/
  | same (descriptor : Nat) (other : List Piece)
  /-- To the text of a document, which is known by its number. -/
  | document (descriptor number : Nat)

/-- A command.  Where a command notes its line, complaints about it name that line. -/
inductive Command where
  | nothing
  | simple (line : Nat) (assignments : List (Octets × List Piece)) (words : List (List Piece))
      (redirections : List Redirection)
  | redirected (line : Nat) (body : Command) (redirections : List Redirection)
  | subshell (line : Nat) (body : Command) (redirections : List Redirection)
  | background (line : Nat) (body : Command) (redirections : List Redirection)
  | pipeline (parts : List Command)
  | negated (body : Command)
  | sequence (first second : Command)
  | both (first second : Command)
  | either (first second : Command)
  | choice (condition body otherwise : Command)
  | loop (untilTrue : Bool) (condition body : Command)
  | each (line : Nat) (name : Octets) (words : List (List Piece)) (body : Command)
  | select (line : Nat) (word : List Piece) (cases : List (List (List Piece) × Command))
  | define (line : Nat) (name : Octets) (body : Command)

end

instance : Inhabited Piece := ⟨.mark⟩
instance : Inhabited Command := ⟨.nothing⟩

/-- A word of a command. -/
abbrev Word := List Piece

namespace Word

/-- A word that is written without quotes and holds nothing to be looked up. -/
def plain? : Word → Option Octets
  | [] => some []
  | .plain c :: rest => (plain? rest).map (c :: ·)
  | _ => none

/-- The name and the value of a word that is an assignment. -/
def assignment? (w : Word) : Option (Octets × Word) :=
  let isNamePiece (p : Piece) : Bool := match p with
    | .plain c => c.isAlphanum || c = '_'
    | _ => false
  match plain? (w.takeWhile isNamePiece), w.dropWhile isNamePiece with
  | some name, .plain '=' :: value => if Octets.isName name then some (name, value) else none
  | _, _ => none

/-- A text in quotes as a word. -/
def quotedText (o : Octets) : Word := o.map .quoted

end Word

/-- The redirections of a command that has some. -/
def Command.redirect (line : Nat) (redirections : List Redirection) : Command → Command
  | .subshell l body _ => .subshell l body redirections
  | c => .redirected line c redirections

end FlowDump.Rehearsal.Shell
