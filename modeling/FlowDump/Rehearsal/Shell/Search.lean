import FlowDump.Rehearsal.Shell.Builtin.Variables
import FlowDump.Rehearsal.Shell.Token

/-!
# What the name of a command stands for

* `Search.Found`, `Search.find` — a function, a command of the shell, or a program.
* `Search.describe` — what a name stands for, in words.
-/

namespace FlowDump.Rehearsal.Shell

namespace Search

/-- Where programs are looked for if nothing else is said. -/
def usualPath : String := "/usr/local/sbin:/usr/local/bin:/usr/sbin:/usr/bin:/sbin:/bin"

/-- What the name of a command stands for. -/
inductive Found where
  | function (line : Nat) (body : Command)
  | builtin (kind : Builtin.Kind)
  /-- The paths at which there may be a program, which are tried one after the other. -/
  | program (paths : List Octets)
  | missing (e : SystemError)
  deriving Inhabited

/-- The path of a name in a directory. -/
def within (directory name : Octets) : Octets :=
  if directory = [] then name else directory ++ '/' :: name

/-- The files with a name in some directories, or why there are none. -/
def files (s : State) (directories : List Octets) (name : Octets) :
    Except SystemError (List Octets) :=
  let step (found : SystemError × List Octets) (directory : Octets) :=
    let path := within directory name
    match s.system.files.find (Octets.text path) with
    | .ok (.file _) => (found.1, found.2 ++ [path])
    | .ok .directory => (.permissionDenied, found.2)
    | .error (.system e) =>
      (if e = .notFound ∨ e = .notADirectory then found.1 else e, found.2)
    | .error _ => found
  match directories.foldl step (.notFound, []) with
  | (e, []) => .error e
  | (_, paths) => .ok paths

/-- The directories of a search path. -/
def directories (path : Octets) : List Octets := path.splitOn ':'

/-- What the name of a command stands for; functions and the search path may be passed over. -/
def find (s : State) (name : Octets) (functions : Bool) (path : Octets) : Found :=
  if '/' ∈ name then .program [name]
  else match Builtin.kind? name, s.functions.find? fun f => functions && f.1 = name with
    | some kind, f? =>
      match f? with
      | some (_, line, body) => if kind.isSpecial then .builtin kind else .function line body
      | none => .builtin kind
    | none, some (_, line, body) => .function line body
    | none, none =>
      match files s (directories path) name with
      | .ok paths => .program paths
      | .error e => .missing e

/-- Why a program cannot be run, in words. -/
def reason (e : SystemError) : Octets :=
  if e = .notFound ∨ e = .notADirectory then "not found".toList else e.text.toList

/-- The status for a program that cannot be run. -/
def status (e : SystemError) : Nat :=
  if e = .notFound ∨ e = .notADirectory ∨ e = .nameTooLong then 127 else 126

/-- Write what a name stands for, in words if they are asked for; the answer is a status. -/
def describe (name : Octets) (path : Octets) (inWords : Bool) : Act Nat := do
  let s ← get
  let say (text : Octets) : Act Nat := do
    Act.say ((if inWords then name ++ text else name) ++ ['\n'])
    return 0
  if (reserved? name).isSome then say " is a shell keyword".toList
  else match s.aliases.find? fun a => a.1 = name with
    | some (_, value) =>
      if inWords then say (" is an alias for ".toList ++ value)
      else
        Act.say "alias ".toList
        Builtin.writeAlias (name, value)
        return 0
    | none =>
      let missing : Act Nat := do
        if inWords then Act.say (name ++ ": not found\n".toList)
        return 127
      match find s name true path with
      | .function .. => say " is a shell function".toList
      | .builtin kind =>
        say (if kind.isSpecial then " is a special shell builtin" else " is a shell builtin").toList
      | .program paths =>
        let path := paths.headD name
        if (s.system.files.find (Octets.text path)).toOption.isNone then missing
        else
          Act.say ((if inWords then name ++ " is ".toList ++ path else path) ++ ['\n'])
          return 0
      | .missing _ => missing

/-- Write what some names stand for. -/
def describeAll (path : Octets) : List Octets → Act Nat
  | [] => return 0
  | name :: names => do
    let status ← describe name path true
    let others ← describeAll path names
    return status ||| others

end Search

end FlowDump.Rehearsal.Shell
