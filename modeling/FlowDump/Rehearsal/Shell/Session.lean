import FlowDump.Rehearsal.Shell.Run

/-!
# The shell as a program

* `Session.start` — the state of a shell when it starts.
* `Session.run` — a shell with its options, its script and the parameters of the script.
-/

namespace FlowDump.Rehearsal.Shell

namespace Session

/-- How many commands may be nested and how often a loop may turn. -/
def fuel : Nat := 1000000

/-- A variable that programs do not get to know. -/
def own (name value : String) : Octets × Variable :=
  (name.toList, { value? := some value.toList })

/-- The state of a shell when it starts. -/
def start (call : Call) (system : System) : State :=
  let directory : Variable :=
    { value? := some (System.pathOf system.files.here), exported := true }
  let number := String.ofList (Octets.ofNat call.caller)
  let bindings : List (Octets × Variable) :=
    [ own "PATH" Search.usualPath, own "IFS" " \t\n", own "OPTIND" "1", own "PPID" number,
      own "PS1" "$ ", own "PS2" "> ", own "PS4" "+ " ]
  let inherited := (call.environment.filter fun v => Octets.isName v.1).map fun v =>
    (v.1, ({ value? := some v.2, exported := true } : Variable))
  let s : State :=
    { system, number := call.number, callerNumber := call.caller, process := call.number
      name := call.name, bindings, descriptors := call.descriptors, line := 0
      traps := call.ignored.map fun n => (n, []) }
  (inherited ++ [("PWD".toList, directory)]).foldl (fun s v => s.setVariable v.1 v.2) s

/-- Where a script comes from. -/
inductive Source where
  | text (o : Octets)
  | channel (n : Nat)
  | nothing

/-- Take the words that the shell was called with: options, the script or its file, and the
    parameters. -/
def setUp (words : List Octets) : Act Source := do
  let left ← Builtin.setOptions true (words.length + 1) { words }
  let s ← get
  if s.has 'i' then
    Act.complain "can't access tty; job control turned off".toList
  let s ← get
  match left.hasScript, left.words with
  | true, [] => Act.refuse "-c requires an argument".toList
  | true, script :: words =>
    set { s with name := words.headD s.name, parameters := words.tail, line := 1 }
    return .text script
  | false, words =>
    if words = [] ∨ s.has 's' then
      set { s with parameters := words, line := 1 }
      return match s.descriptor? 0 with
        | some n => .channel n
        | none => .nothing
    else
      let path := words.headD []
      match s.system.openToRead (Octets.text path) with
      | .error e =>
        Act.refuse ("cannot open ".toList ++ path ++ ": ".toList ++
          Descriptors.reason "No such file" e)
      | .ok o =>
        let (n, system) := s.system.add o
        set { s with system, name := path, parameters := words.tail, line := 1 }
        return .channel n

/-- Run the script. -/
def body (launch : Launch) (words : List Octets) : Act Nat := do
  match ← setUp words with
  | .text o => Run.text launch fuel false false { rest := o } 0
  | .nothing => return 0
  | .channel n =>
    let s ← get
    match s.system.readAll n with
    | .error _ => return 0
    | .ok (bytes, system) =>
      set { s with system }
      Run.text launch fuel false false { rest := (Octets.ofBytes bytes).filter (· ≠ '\x00') } 0

/-- Run a shell as a program. -/
def run (launch : Launch) (call : Call) : StateM System Exit := fun system =>
  let (result, s) := Run.finish launch fuel (body launch call.arguments) (start call system)
  (match result with
    | .ok exit => exit
    | .error _ => .code 0,
    { s.system with files := { s.system.files with here := system.files.here } })

end Session

end FlowDump.Rehearsal.Shell
