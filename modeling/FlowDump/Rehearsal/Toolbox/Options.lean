import FlowDump.Rehearsal.Toolbox.Basic

/-!
# Options of programs

* `Toolbox.Options` — the options that a program was called with, and its operands.
* `Options.read` — options by letter and by name, wherever they stand among the operands.
* `Options.has`, `Options.value?` — one of the options.
-/

namespace FlowDump.Rehearsal.Toolbox

/-- Whether an option takes an argument; one that may have it only takes it from the same word. -/
inductive Arity where
  | none
  | one
  | maybe
  deriving DecidableEq, Repr, Inhabited

/-- An option, known by its first letter or, without one, by its first name. -/
structure Switch where
  letters : String := ""
  names : List String := []
  arity : Arity := .none
  deriving Inhabited

/-- The key of an option. -/
def Switch.key (s : Switch) : String :=
  match s.letters.toList with
  | c :: _ => String.singleton c
  | [] => s.names.headD ""

/-- A switch of one letter that takes no argument. -/
def flags (letters : String) : List Switch :=
  letters.toList.map fun c => { letters := String.singleton c }

/-- The options that a program was called with, by their keys, and its operands. -/
structure Options where
  given : List (String × Octets) := []
  operands : List Octets := []
  deriving Inhabited

namespace Options

/-- What an option is read by. -/
structure Reader where
  switches : List Switch
  /-- Options may stand after operands. -/
  mixed : Bool := true
  /-- A dash before a digit starts an operand. -/
  numbers : Bool := false
  /-- The code for a call that is not right. -/
  code : UInt8 := 1
  /-- What is said after a complaint. -/
  after : Work Unit := Work.hint

/-- Complain about an option, and end. -/
def Reader.refuse {α : Type} (r : Reader) (message : Octets) : Work α := do
  Work.complain message
  r.after
  Work.leave r.code

/-- The options in a word of letters, and the words that follow it. -/
def letters (r : Reader) : Octets → List Octets → Work (List (String × Octets) × List Octets)
  | [], rest => return ([], rest)
  | c :: cs, rest => do
    match r.switches.find? fun s => c ∈ s.letters.toList with
    | none => r.refuse ("invalid option -- '".toList ++ [c, '\''])
    | some s =>
      match s.arity, cs, rest with
      | .none, _, _ =>
        let (given, rest) ← letters r cs rest
        return ((s.key, []) :: given, rest)
      | .one, [], [] => r.refuse ("option requires an argument -- '".toList ++ [c, '\''])
      | .one, [], value :: rest => return ([(s.key, value)], rest)
      | _, cs, rest => return ([(s.key, cs)], rest)

/-- The option that a word names, with the value after an equals sign, and the words that
    follow. -/
def named (r : Reader) (o : Octets) (rest : List Octets) :
    Work ((String × Octets) × List Octets) := do
  let name := o.takeWhile (· ≠ '=')
  let value? := if name.length < o.length then some (o.drop (name.length + 1)) else none
  let all := r.switches.flatMap fun s => s.names.map fun n => (n, s)
  let exact := all.filter fun n => n.1.toList = name
  let found := if exact ≠ [] then exact else all.filter fun n => name.isPrefixOf n.1.toList
  match found with
  | [(full, s)] =>
    match s.arity, value?, rest with
    | .none, some _, _ =>
      r.refuse ("option '--".toList ++ full.toList ++ "' doesn't allow an argument".toList)
    | .one, none, [] =>
      r.refuse ("option '--".toList ++ full.toList ++ "' requires an argument".toList)
    | .one, none, value :: rest => return ((s.key, value), rest)
    | _, value?, rest => return ((s.key, value?.getD []), rest)
  | [] => r.refuse ("unrecognized option '--".toList ++ o ++ ['\''])
  | _ =>
    let choices := found.flatMap fun n => " '--".toList ++ n.1.toList ++ ['\'']
    r.refuse ("option '--".toList ++ o ++ "' is ambiguous; possibilities:".toList ++ choices)

/-- The options and operands among some words; at most `fuel` words are taken. -/
def readWithin (r : Reader) : (fuel : Nat) → List Octets → Work Options
  | 0, words => return { operands := words }
  | _ + 1, [] => return {}
  | fuel + 1, word :: rest => do
    match word with
    | ['-', '-'] => return { operands := rest }
    | '-' :: '-' :: name =>
      let (option, rest) ← named r name rest
      let others ← readWithin r fuel rest
      return { others with given := option :: others.given }
    | '-' :: c :: cs =>
      if r.numbers ∧ (c.isDigit ∨ c = '.') then return { operands := word :: rest }
      let (given, rest) ← letters r (c :: cs) rest
      let others ← readWithin r fuel rest
      return { others with given := given ++ others.given }
    | operand =>
      if r.mixed then
        let others ← readWithin r fuel rest
        return { others with operands := operand :: others.operands }
      else return { operands := word :: rest }

/-- The options and operands that the program was called with.  Asked what it can do, it only tells
    that. -/
def read (r : Reader) : Work Options := do
  let call ← MonadReader.read
  let about : List Switch := [{ names := ["help"] }, { names := ["version"] }]
  let o ← readWithin { r with switches := r.switches ++ about } (call.arguments.length + 1)
    call.arguments
  if o.given.any fun g => g.1 = "help" ∨ g.1 = "version" then Work.leave 0
  return o

/-- Whether an option was given. -/
def has (o : Options) (key : String) : Bool := o.given.any fun g => g.1 = key

/-- The value of an option, the last one if it was given more often. -/
def value? (o : Options) (key : String) : Option Octets :=
  (o.given.reverse.find? fun g => g.1 = key).map (·.2)

/-- All values of an option. -/
def values (o : Options) (key : String) : List Octets :=
  (o.given.filter fun g => g.1 = key).map (·.2)

/-- The last one of some options that was given. -/
def last? (o : Options) (keys : List String) : Option String :=
  (o.given.reverse.find? fun g => g.1 ∈ keys).map (·.1)

end Options

end FlowDump.Rehearsal.Toolbox
