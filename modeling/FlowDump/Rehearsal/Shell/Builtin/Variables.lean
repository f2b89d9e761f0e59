import FlowDump.Rehearsal.Shell.Builtin.Basic

/-!
# Commands of the shell for variables and parameters

* `Builtin.exporting`, `Builtin.constant`, `Builtin.local`, `Builtin.unset` — variables.
* `Builtin.settings`, `Builtin.shift`, `Builtin.getopts` — options and parameters.
* `Builtin.aliasing`, `Builtin.unalias` — aliases.
-/

namespace FlowDump.Rehearsal.Shell.Builtin

/-! ### Variables -/

/-- Write variables in order of their names, with a command in front. -/
def list (command : Octets) (isListed : Variable → Bool) (withoutValue : Bool) : Act Unit := do
  let shown := (← get).bindings.filter fun v =>
    isListed v.2 && (withoutValue || v.2.value?.isSome)
  let sorted := shown.mergeSort fun a b => a.1.isAtMost b.1
  let front := if command = [] then [] else command ++ [' ']
  Act.say (sorted.flatMap fun v =>
    front ++ v.1 ++
      match v.2.value? with
      | some o => '=' :: quoted o ++ ['\n']
      | none => ['\n'])

/-- Mark variables that are named, or write those that are marked. -/
def marking (command : String) (isMarked : Variable → Bool) (mark : Variable → Variable)
    (words : List Octets) : Act Nat := do
  let (options, names) ← options "p" words
  if options ≠ [] ∨ names = [] then list command.toList isMarked true
  else
    for word in names do
      let (name, value?) := splitAssignment word
      checkName name
      match value? with
      | some o => Act.assign name o
      | none => pure ()
      modify fun s => s.setVariable name (mark ((s.held? name).getD {}))
  return 0

/-- Let programs know variables. -/
def exporting : List Octets → Act Nat :=
  marking "export" (·.exported) fun v => { v with exported := true }

/-- Let variables keep their values. -/
def constant : List Octets → Act Nat :=
  marking "readonly" (·.constant) fun v => { v with constant := true }

/-- Hide variables until the function ends. -/
def «local» (words : List Octets) : Act Nat := do
  if (← get).hidden = [] then Act.refuse "not in a function".toList
  for word in words do
    if word ≠ ['-'] then
      let (name, value?) := splitAssignment word
      checkName name
      Act.hide name
      match value? with
      | some o => Act.assign name o
      | none =>
        if ((← get).held? name).isNone then modify fun s => s.setVariable name {}
  return 0

/-- Take variables or functions away. -/
def unset (words : List Octets) : Act Nat := do
  let (options, names) ← options "vf" words
  let ofFunctions := (options.getLast?.map (·.1)) = some 'f'
  for name in names do
    if ofFunctions then
      modify fun s => { s with functions := s.functions.filter fun f => f.1 ≠ name }
    else
      checkName name
      Act.unassign name
  return 0

/-! ### Options and parameters -/

/-- The options with their letters. -/
def optionNames : List (String × Option Char) :=
  [ ("errexit", some 'e'), ("noglob", some 'f'), ("ignoreeof", some 'I'),
    ("interactive", some 'i'), ("monitor", some 'm'), ("noexec", some 'n'), ("stdin", some 's'),
    ("xtrace", some 'x'), ("verbose", some 'v'), ("vi", some 'V'), ("emacs", some 'E'),
    ("noclobber", some 'C'), ("allexport", some 'a'), ("notify", some 'b'),
    ("nounset", some 'u'), ("privileged", some 'p'), ("nolog", none), ("debug", none) ]

/-- Turn an option on or off. -/
def setOption (c : Char) (on : Bool) : Act Unit :=
  modify fun s =>
    let others := s.options.filter (· ≠ c)
    { s with options := if on then c :: others else others }

/-- Turn an option on or off that is named by its letter. -/
def setLetter (c : Char) (on : Bool) : Act Unit := do
  if optionNames.any fun o => o.2 = some c then setOption c on
  else Act.refuse ("Illegal option -".toList ++ [c])

/-- Turn an option on or off by its name, or write all of them. -/
def setNamed (name? : Option Octets) (on : Bool) : Act Unit := do
  let s ← get
  let isOn (o : String × Option Char) : Bool := o.2.any s.has
  match name? with
  | none =>
    if on then
      let line (o : String × Option Char) : Octets :=
        let name := o.1.toList
        let blanks := List.replicate (16 - name.length) ' '
        name ++ blanks ++ (if isOn o then "on\n" else "off\n").toList
      Act.say ("Current option settings\n".toList ++ optionNames.flatMap line)
    else
      Act.say (optionNames.flatMap fun o =>
        (if isOn o then "set -o " else "set +o ").toList ++ o.1.toList ++ ['\n'])
  | some name =>
    match optionNames.find? fun o => o.1.toList = name with
    | some (_, some c) => setOption c on
    | some (_, none) => pure ()
    | none => Act.refuse ("Illegal option -o ".toList ++ name)

/-- What is left of some words after the options in front. -/
structure Left where
  words : List Octets
  /-- The words are the new parameters even if there are none. -/
  isWhole : Bool := false
  /-- The first word is a script. -/
  hasScript : Bool := false

/-- Take the letters of options in a word; an `o` takes the next word as well.  Where a script may
    be among the words, a `c` tells that it is. -/
def letters (on withScript : Bool) : Octets → Left → Act Left
  | [], left => return left
  | c :: rest, left => do
    if withScript ∧ c = 'c' then letters on withScript rest { left with hasScript := true }
    else if withScript ∧ c = 'l' then letters on withScript rest left
    else if c = 'o' then
      setNamed left.words.head? on
      letters on withScript rest { left with words := left.words.tail }
    else
      setLetter c on
      letters on withScript rest left

/-- Turn options on and off up to the first word that is none; at most `fuel` words are taken. -/
def setOptions (withScript : Bool) : (fuel : Nat) → Left → Act Left
  | 0, left => return left
  | fuel + 1, left => do
    match left.words with
    | ['-'] :: rest =>
      if !withScript then
        setOption 'x' false
        setOption 'v' false
      return { left with words := rest }
    | ['-', '-'] :: rest => return { left with words := rest, isWhole := true }
    | ('-' :: cs) :: rest =>
      setOptions withScript fuel (← letters true withScript cs { left with words := rest })
    | ('+' :: cs) :: rest =>
      setOptions withScript fuel (← letters false withScript cs { left with words := rest })
    | _ => return left

/-- Set options and parameters, or write all variables. -/
def settings (words : List Octets) : Act Nat := do
  if words = [] then list [] (fun _ => true) false
  else
    let left ← setOptions false (words.length + 1) { words }
    if left.isWhole ∨ left.words ≠ [] then
      modify fun s =>
        { s with parameters := left.words, optionPosition := 1, optionOffset? := none }
  return 0

/-- Drop parameters from the front. -/
def shift (words : List Octets) : Act Nat := do
  let n ← match words with
    | [] => pure 1
    | word :: _ => Act.count word
  if (← get).parameters.length < n then Act.refuse "can't shift that many".toList
  modify fun s =>
    { s with parameters := s.parameters.drop n, optionPosition := 1, optionOffset? := none }
  return 0

/-! ### Reading options -/

/-- What an option letter is for: it takes an argument, or does not, or means nothing. -/
def argumentOf? (letters : Octets) (c : Char) : Option Bool :=
  match letters with
  | [] => none
  | d :: rest =>
    let takesOne := rest.head? = some ':'
    if c = d then some takesOne else argumentOf? (if takesOne then rest.tail else rest) c
termination_by letters.length
decreasing_by all_goals (split <;> simp only [List.length_tail, List.length_cons] <;> omega)

/-- Read the next option among some words into a variable. -/
def nextOption (letters name : Octets) (words : List Octets) : Act Nat := do
  let s ← get
  let position := s.optionPosition
  let quiet : Bool := letters.head? = some ':'
  let word (n : Nat) : Option Octets := if n = 0 then none else words[n - 1]?
  let within := match s.optionOffset?, word (position - 1) with
    | some offset, some o => if position ≤ 1 then [] else o.drop offset
    | _, _ => []
  -- the letters to be read, and the place of the word after them
  let (rest?, position) : Option Octets × Nat :=
    if within ≠ [] then (some within, position)
    else match word position with
      | some ['-', '-'] => (none, position + 1)
      | some ('-' :: c :: rest) => (some (c :: rest), position + 1)
      | _ => (none, position)
  let finish (position : Nat) (offset? : Option Nat) (c : Char) : Act Unit := do
    Act.assign "OPTIND".toList (Octets.ofNat position)
    Act.assign name [c]
    modify fun s => { s with optionPosition := position, optionOffset? := offset? }
  match rest? with
  | some (c :: rest) =>
    let offset? := (word (position - 1)).map fun o => o.length - rest.length
    match argumentOf? letters c with
    | none =>
      if quiet then Act.assign "OPTARG".toList [c]
      else
        Act.warn ("Illegal option -".toList ++ [c, '\n'])
        Act.unassign "OPTARG".toList
      finish position offset? '?'
    | some false =>
      Act.assign "OPTARG".toList []
      finish position offset? c
    | some true =>
      match rest, word position with
      | [], none =>
        if quiet then
          Act.assign "OPTARG".toList [c]
          finish position offset? ':'
        else
          Act.warn ("No arg for -".toList ++ c :: " option\n".toList)
          Act.unassign "OPTARG".toList
          finish position offset? '?'
      | [], some o =>
        Act.assign "OPTARG".toList o
        finish (position + 1) none c
      | rest, _ =>
        Act.assign "OPTARG".toList rest
        finish position none c
    return 0
  | _ =>
    finish position none '?'
    return 1

/-- Read the next option of the parameters, or of the words that are given. -/
def getopts (words : List Octets) : Act Nat := do
  match words with
  | letters :: name :: rest =>
    let s ← get
    nextOption letters name (if rest = [] then s.parameters else rest)
  | _ => Act.refuse "Usage: getopts optstring var [arg...]".toList

/-! ### Aliases -/

/-- Write an alias. -/
def writeAlias (a : Octets × Octets) : Act Unit :=
  Act.say (a.1 ++ '=' :: quoted a.2 ++ ['\n'])

/-- Set aliases or write them. -/
def aliasing (words : List Octets) : Act Nat := do
  if words = [] then
    let s ← get
    for a in s.aliases.mergeSort fun a b => a.1.isAtMost b.1 do writeAlias a
    return 0
  let mut status := 0
  for word in words do
    let (name, value?) := splitAssignment word
    match value? with
    | some o =>
      if name ≠ [] then
        modify fun s => { s with aliases := (name, o) :: s.aliases.filter fun a => a.1 ≠ name }
    | none =>
      match (← get).aliases.find? fun a => a.1 = word with
      | some a => writeAlias a
      | none =>
        Act.warn ("alias: ".toList ++ word ++ " not found\n".toList)
        status := 1
  return status

/-- Take aliases away. -/
def unalias (words : List Octets) : Act Nat := do
  let (options, names) ← options "a" words
  if options ≠ [] then
    modify fun s => { s with aliases := [] }
    return 0
  let mut status := 0
  for name in names do
    if (← get).aliases.any fun a => a.1 = name then
      modify fun s => { s with aliases := s.aliases.filter fun a => a.1 ≠ name }
    else
      Act.warn ("unalias: ".toList ++ name ++ " not found\n".toList)
      status := 1
  return status

end FlowDump.Rehearsal.Shell.Builtin
