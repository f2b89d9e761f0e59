import FlowDump.Rehearsal.Shell.State

/-!
# Commands of the shell

* `Builtin.Kind`, `Builtin.table` — the commands that are part of the shell.
* `Builtin.options` — the options of a command.
* `Builtin.signal?` — the signal that a word names.
* `Builtin.quoted` — a text as it has to be written in a script.
-/

namespace FlowDump.Rehearsal.Shell.Builtin

/-! ### The commands -/

/-- What is special about a command of the shell. -/
structure Kind where
  /-- An error in it ends the script, and assignments before it last. -/
  isSpecial : Bool := false
  /-- Arguments that are assignments are not split. -/
  assigns : Bool := false
  deriving Inhabited

/-- The commands that are part of the shell. -/
def table : List (String × Kind) :=
  let special : Kind := { isSpecial := true }
  let assigning : Kind := { isSpecial := true, assigns := true }
  [ (".", special), (":", special), ("break", special), ("continue", special), ("eval", special),
    ("exec", special), ("exit", special), ("export", assigning), ("local", assigning),
    ("readonly", assigning), ("return", special), ("set", special), ("shift", special),
    ("times", special), ("trap", special), ("unset", special), ("alias", { assigns := true }),
    ("[", {}), ("bg", {}), ("cd", {}), ("chdir", {}), ("command", {}), ("echo", {}), ("false", {}),
    ("fg", {}), ("getopts", {}), ("hash", {}), ("jobs", {}), ("kill", {}), ("printf", {}),
    ("pwd", {}), ("read", {}), ("test", {}), ("true", {}), ("type", {}), ("ulimit", {}),
    ("umask", {}), ("unalias", {}), ("wait", {}) ]

/-- The kind of a command, if it is part of the shell. -/
def kind? (name : Octets) : Option Kind :=
  (table.find? fun b => b.1.toList = name).map (·.2)

/-! ### Options -/

/-- The options at the front of some words, each with its argument, and the words that follow.  A
    letter with a colon after it takes an argument; at most `fuel` options are read. -/
def optionsWithin (letters : Octets) : (fuel : Nat) → (word : Octets) → (rest : List Octets) →
    Act (List (Char × Octets) × List Octets)
  | 0, _, rest => return ([], rest)
  | fuel + 1, [], rest =>
    match rest with
    | ('-' :: c :: word) :: others =>
      if c = '-' ∧ word = [] then return ([], others)
      else optionsWithin letters fuel (c :: word) others
    | _ => return ([], rest)
  | fuel + 1, c :: word, rest => do
    let found := letters.dropWhile (· ≠ c)
    match found with
    | [] => Act.refuse ("Illegal option -".toList ++ [c])
    | _ :: ':' :: _ =>
      match word, rest with
      | [], [] => Act.refuse ("No arg for -".toList ++ c :: " option".toList)
      | [], argument :: rest =>
        let (options, rest) ← optionsWithin letters fuel [] rest
        return ((c, argument) :: options, rest)
      | word, rest =>
        let (options, rest) ← optionsWithin letters fuel [] rest
        return ((c, word) :: options, rest)
    | _ =>
      let (options, rest) ← optionsWithin letters fuel word rest
      return ((c, []) :: options, rest)

/-- The options at the front of some words, and the words that follow. -/
def options (letters : String) (words : List Octets) :
    Act (List (Char × Octets) × List Octets) :=
  optionsWithin letters.toList (words.flatten.length + words.length + 1) [] words

/-! ### Signals -/

/-- The signals that programs may use for what they like. -/
def firstFree : Nat := 34

/-- The greatest number of a signal. -/
def maxSignal : Nat := 64

/-- A name and a distance from what it names. -/
def distant (name mark : String) (distance : Nat) : String :=
  if distance = 0 then name else name ++ mark ++ String.ofList (Nat.toDigits 10 distance)

/-- The names of the free signals, by number: half of them are counted from the first one and the
    others from the last. -/
def freeNames : List (Nat × String) :=
  (List.range (maxSignal + 1 - firstFree)).map fun n =>
    (firstFree + n,
      if n < 16 then distant "RTMIN" "+" n
      else distant "RTMAX" "-" (maxSignal - (firstFree + n)))

/-- The signals that have no name in a script. -/
def unnamed : List Nat := [16]

/-- The names of the signals in a script, by number; what is done at the end of a script counts as
    one. -/
def signalNames : List (Nat × String) :=
  (0, "EXIT") :: (Signal.names.filter fun n => n.1 ∉ unnamed) ++ freeNames

/-- The name of a signal, or else its number. -/
def signalName (n : Nat) : Octets :=
  match signalNames.find? fun s => s.1 = n with
  | some (_, name) => name.toList
  | none => Octets.ofNat n

/-- The number of the signal that a word names in letters of either case; none is below the first
    one. -/
def signal? (first : Nat) (o : Octets) : Option Nat :=
  if o ≠ [] ∧ o.all Char.isDigit then Decimal.readDigits? maxSignal o
  else
    let name := String.ofList (o.map Char.toUpper)
    (signalNames.find? fun s => first ≤ s.1 ∧ s.2 = name).map (·.1)

/-! ### Texts -/

/-- A text between single quotes; quotes in it stand between double quotes.  At most `fuel` parts
    are written. -/
def quotedWithin : (fuel : Nat) → Octets → Octets
  | 0, _ => []
  | fuel + 1, o =>
    let part := o.takeWhile (· ≠ '\'')
    let rest := o.drop part.length
    let quotes := rest.takeWhile (· = '\'')
    let rest := rest.drop quotes.length
    let front := '\'' :: part ++ ['\'']
    if quotes = [] then front
    else
      let front := front ++ '"' :: quotes ++ ['"']
      if rest = [] then front else front ++ quotedWithin fuel rest

/-- A text as it has to be written in a script. -/
def quoted (o : Octets) : Octets := quotedWithin (o.length + 1) o

/-- Refuse a name that no variable may have. -/
def checkName (name : Octets) : Act Unit := do
  if !Octets.isName name then Act.refuse (name ++ ": bad variable name".toList)

/-- The name in front of an equals sign, and the value after it. -/
def splitAssignment (o : Octets) : Octets × Option Octets :=
  let name := o.takeWhile (· ≠ '=')
  match o.drop name.length with
  | [] => (name, none)
  | _ :: value => (name, some value)

end FlowDump.Rehearsal.Shell.Builtin
