import FlowDump.Decimal.Unsigned
import FlowDump.Dump
import FlowDump.Text.Split

/-!
# Arguments

The grammar of the command line: switches for every command, then a command with switches of its
own.  Words are read one after the other, and the first one that cannot be right, or that asks for
help, decides.

* `Arguments.Invocation` — what the words ask for.
* `Arguments.Level` — where in the grammar a word stands, and which switches it may be.
* `Arguments.scan` — the words of one level.
* `Arguments.parse` — the whole command line.

A switch that takes a value is settled when the next switch or the end is reached, so that a value
that is missing or wrong is found before help is given.
-/

namespace FlowDump.Arguments

/-! ### What can be asked for -/

/-- What to do. -/
inductive Command where
  | dump (request : Dump.Request)
  | decode (path : String)
  deriving DecidableEq, Repr

/-- What the words ask for. -/
structure Invocation where
  configPath? : Option String
  verbose : Bool
  jsonLogs : Bool
  command : Command
  deriving DecidableEq, Repr

/-- Why the words ask for nothing that can be run. -/
inductive Stop where
  | help
  | refused
  deriving DecidableEq, Repr, Inhabited

/-! ### Switches -/

/-- The switches. -/
inductive Switch where
  | config
  | verbose
  | jsonLogs
  | help
  | flowState
  | timeout
  | maxFlows
  | fileOnly
  deriving DecidableEq, Repr

/-- Where in the grammar a word stands. -/
inductive Level where
  | top
  | dump
  | decode
  deriving DecidableEq, Repr

/-- The switches of every level. -/
def commonSwitches : List (String × Switch) :=
  [("config", .config), ("verbose", .verbose), ("json-logs", .jsonLogs), ("help", .help)]

/-- The switches of a level by their long names. -/
def Level.switches : Level → List (String × Switch)
  | top => commonSwitches
  | decode => commonSwitches
  | dump =>
    commonSwitches ++
      [("flow-state", .flowState), ("timeout", .timeout), ("max-flows", .maxFlows),
        ("file-only", .fileOnly)]

/-- The switch of a level with a long name. -/
def Level.switch? (l : Level) (name : List Char) : Option Switch :=
  (l.switches.find? fun s => s.1.toList = name).map (·.2)

/-- The switch with a name of one letter. -/
def shortSwitch? : Char → Option Switch
  | 'v' => some .verbose
  | 'h' => some .help
  | _ => none

/-- Whether a switch takes a value. -/
def Switch.takesValue : Switch → Bool
  | config => true
  | flowState => true
  | timeout => true
  | maxFlows => true
  | verbose => false
  | jsonLogs => false
  | help => false
  | fileOnly => false

/-! ### What was given -/

/-- What the words of a level have given so far. -/
structure Given where
  config? : Option String := none
  verbose : Bool := false
  jsonLogs : Bool := false
  flowState? : Option Bool := none
  timeout? : Option UInt64 := none
  maxFlows? : Option UInt32 := none
  fileOnly : Bool := false
  path? : Option String := none
  deriving DecidableEq, Repr, Inhabited

/-- What a value may be for. -/
inductive Slot where
  | switch (s : Switch)
  | path
  deriving DecidableEq, Repr

/-- What is not settled yet: nothing, a switch that waits for its value, or a value. -/
inductive Pending where
  | nothing
  | waiting (s : Switch)
  | value (slot : Slot) (text : String)
  deriving DecidableEq, Repr

/-- Whether a switch waits for its value. -/
def Pending.isWaiting : Pending → Bool
  | waiting _ => true
  | _ => false

/-! ### Values -/

/-- A path: any text but the empty one. -/
def nonempty? (s : String) : Option String :=
  if s = "" then none else some s

/-- A truth value. -/
def bool? (s : String) : Option Bool :=
  if s = "true" then some true else if s = "false" then some false else none

/-- A positive number at most `max`. -/
def positive? (max : Nat) (s : String) : Option Nat :=
  (Decimal.readUnsigned? max s.toList).filter (0 < ·)

/-- Fill what may be filled once. -/
def once {α : Type} (old new : Option α) : Except Stop (Option α) :=
  if old.isSome ∨ new.isNone then .error .refused else .ok new

/-- Give a value to its `Slot`, by `once` where only one may be given. -/
def Given.fill (g : Given) (slot : Slot) (text : String) : Except Stop Given :=
  match slot with
  | .path => (once g.path? (nonempty? text)).map fun p => { g with path? := p }
  | .switch .config => (once g.config? (nonempty? text)).map fun p => { g with config? := p }
  | .switch .flowState => (once g.flowState? (bool? text)).map fun b => { g with flowState? := b }
  | .switch .timeout =>
    (once g.timeout? ((positive? Decimal.max64 text).map UInt64.ofNat)).map fun n =>
      { g with timeout? := n }
  | .switch .maxFlows =>
    (once g.maxFlows? ((positive? Decimal.max32 text).map UInt32.ofNat)).map fun n =>
      { g with maxFlows? := n }
  | .switch _ => .error .refused

/-- Turn a switch without a value on. -/
def Given.turnOn (g : Given) (s : Switch) : Except Stop Given :=
  match s with
  | .help => .error .help
  | .verbose => if g.verbose then .error .refused else .ok { g with verbose := true }
  | .jsonLogs => if g.jsonLogs then .error .refused else .ok { g with jsonLogs := true }
  | .fileOnly => if g.fileOnly then .error .refused else .ok { g with fileOnly := true }
  | _ => .error .refused

/-- Settle what is `Pending`. -/
def Given.settle (g : Given) : Pending → Except Stop Given
  | .nothing => .ok g
  | .waiting _ => .error .refused
  | .value slot text => g.fill slot text

/-! ### Words -/

/-- The kinds of words in front of `--`. -/
inductive Word where
  /-- The end of all switches. -/
  | escape
  | long (name : List Char) (value? : Option String)
  | short (letters : List Char)
  | plain
  deriving DecidableEq, Repr

/-- The kind of a `Word`.  A dash alone is no switch. -/
def Word.ofText (word : String) : Word :=
  match word.toList with
  | ['-', '-'] => .escape
  | '-' :: '-' :: rest =>
    let (name, value?) := Text.cut '=' rest
    .long name (value?.map String.ofList)
  | '-' :: c :: rest => .short (c :: rest)
  | _ => .plain

/-- A switch with its long name; a value may be attached if it takes one. -/
def takeLong (l : Level) (g : Given) (p : Pending) (name : List Char) (value? : Option String) :
    Except Stop (Given × Pending) := do
  match l.switch? name, value? with
  | none, _ => .error .refused
  | some s, some text =>
    if s.takesValue then
      let g ← g.settle p
      return (← g.fill (.switch s) text, .nothing)
    else .error .refused
  | some s, none =>
    let g ← g.settle p
    if s.takesValue then return (g, .waiting s)
    else return (← g.turnOn s, .nothing)

/-- Switches with names of one letter. -/
def takeShort (g : Given) (p : Pending) : (letters : List Char) → Except Stop (Given × Pending)
  | [] => .ok (g, p)
  | c :: letters => do
    match shortSwitch? c with
    | none => .error .refused
    | some s =>
      let g ← g.settle p
      takeShort (← g.turnOn s) .nothing letters

/-- A word that is no switch and no value of one: the path to decode. -/
def takePlain (l : Level) (g : Given) (p : Pending) (word : String) :
    Except Stop (Given × Pending) := do
  let g ← g.settle p
  if l = .decode ∧ g.path? = none then return (g, .value .path word)
  else .error .refused

/-- The commands, help among them. -/
def commandNames : List String := ["dump", "decode", "help"]

/-- What the words of a level came to: what was given, what is not settled, and the command that
    was named together with the words after it. -/
structure Scanned where
  given : Given
  pending : Pending
  command? : Option (String × List String)
  deriving DecidableEq, Repr

/-- Read the words of a level up to the name of a command; after `escaped` no word is a switch or a
    command. -/
def scan (l : Level) : (escaped : Bool) → Given → Pending → List String → Except Stop Scanned
  | _, g, p, [] => .ok { given := g, pending := p, command? := none }
  | true, g, p, word :: words => do
    let (g, p) ← takePlain l g p word
    scan l true g p words
  | false, g, p, word :: words =>
    if l = .top ∧ ¬ p.isWaiting ∧ word ∈ commandNames then
      .ok { given := g, pending := p, command? := some (word, words) }
    else
      match Word.ofText word with
      -- from here on no word is the value of a switch, so that one that waits will be refused
      | .escape => scan l true g p words
      | .long name value? => do
        let (g, p) ← takeLong l g p name value?
        scan l false g p words
      | .short letters => do
        let (g, p) ← takeShort g p letters
        scan l false g p words
      | .plain =>
        match p with
        | .waiting s => scan l false g (.value (.switch s) word) words
        | _ => do
          let (g, p) ← takePlain l g p word
          scan l false g p words

/-! ### Whole command lines -/

/-- Settle a level at its end, by `Given.settle`.  The path of the configuration may come from the
    environment. -/
def Scanned.finish (s : Scanned) (environment? : Option String) : Except Stop Given := do
  let g ← s.given.settle s.pending
  match g.config?, environment? with
  | none, some "" => .error .refused
  | _, _ => return g

/-- The command that the words after its name ask for. -/
def command? (l : Level) (g : Given) : Except Stop Command :=
  match l with
  | .top => .error .refused
  | .dump =>
    .ok (.dump
      { flowState := g.flowState?.getD true
        maxFlows := g.maxFlows?.getD 1000
        timeoutSeconds := g.timeout?.getD 60
        fileOnly := g.fileOnly })
  | .decode =>
    match g.path? with
    | some path => .ok (.decode path)
    | none => .error .refused

/-- A command with its own words, by `scan`, below what the words before it have given. -/
def parseCommand (l : Level) (above : Scanned) (environment? : Option String)
    (words : List String) : Except Stop Invocation := do
  let g ← (← scan l false {} .nothing words).finish environment?
  let command ← command? l g
  -- what is pending above is settled last
  let top ← above.finish environment?
  return {
    configPath? := (g.config?.or top.config?).or environment?
    verbose := g.verbose || top.verbose
    jsonLogs := g.jsonLogs || top.jsonLogs
    command }

/-- What a command line asks for, by `scan` and `parseCommand`, with the path of a configuration
    from the environment. -/
def parse (environment? : Option String) (words : List String) : Except Stop Invocation := do
  let top ← scan .top false {} .nothing words
  match top.command? with
  | some ("dump", words) => parseCommand .dump top environment? words
  | some ("decode", words) => parseCommand .decode top environment? words
  | some (_, []) => .error .help
  | some (_, [topic]) => .error (if topic ∈ commandNames then .help else .refused)
  | _ => .error .refused

end FlowDump.Arguments
