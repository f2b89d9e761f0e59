import FlowDump.Rehearsal.Toolbox.Writing
import FlowDump.Rehearsal.Tree

/-!
# Programs that list files

* `Toolbox.ls` — the names in directories.
* `Toolbox.realpath`, `Toolbox.readlink` — where paths lead.
* `Toolbox.which` — where programs are found.
-/

namespace FlowDump.Rehearsal.Toolbox

/-! ### Directories -/

/-- The name of an entry with a mark for its kind if the options ask for one. -/
def shownName (o : Options) (s : System) (name : Octets) (l : Location) : Octets :=
  let mark : Octets := match s.files.node? l with
    | some .directory => if o.has "F" || o.has "p" then ['/'] else []
    | _ => if o.has "F" && s.runnable.contains l then ['*'] else []
  name ++ mark ++ ['\n']

/-- The names in a directory that are shown. -/
def shownNames (o : Options) (s : System) (l : Location) : List String :=
  let names := s.children l
  let names := if o.has "S" then
      names.mergeSort fun a b => (s.contentsAt (l ++ [b])).length ≤ (s.contentsAt (l ++ [a])).length
    else names
  let names := (if o.has "a" then [".", ".."] else []) ++ names
  let names := names.filter fun name => o.has "a" || o.has "A" || !name.startsWith "."
  if o.has "r" then names.reverse else names

/-- The lists of a directory and, if they are asked for, of those below it; at most `fuel` levels of
    them. -/
def lists (o : Options) (s : System) : (fuel : Nat) → Octets → Location → List (Octets × Octets)
  | 0, _, _ => []
  | fuel + 1, path, l =>
    let names := shownNames o s l
    let shown := names.flatMap fun name => shownName o s (Octets.ofText name) (l ++ [name])
    let below := names.filter fun name =>
      o.has "R" && name ≠ "." && name ≠ ".." && s.files.node? (l ++ [name]) = some .directory
    (path, shown) :: below.flatMap fun name =>
      let slash : Octets := if path.getLast? = some '/' then [] else ['/']
      lists o s fuel (path ++ slash ++ Octets.ofText name) (l ++ [name])

/-- Write the names of files and of what is in directories, one on a line. -/
def ls : Work UInt8 := do
  let o ← Options.read
    { switches :=
        [ { letters := "a", names := ["all"] }, { letters := "A", names := ["almost-all"] },
          { letters := "d", names := ["directory"] }, { letters := "R", names := ["recursive"] },
          { letters := "r", names := ["reverse"] }, { letters := "F" }, { letters := "p" },
          { names := ["color"], arity := .maybe }, { names := ["classify"], arity := .maybe },
          { letters := "I", names := ["ignore"], arity := .one },
          { letters := "w", names := ["width"], arity := .one },
          { letters := "T", names := ["tabsize"], arity := .one } ] ++
        flags "1bBcCDfgGhHiklLmnNoqQsStuUvxXZ"
      code := 2 }
  let s := (← get).system
  let operands := if o.operands = [] then [['.']] else o.operands
  let mut code : UInt8 := 0
  let mut found : List (Octets × Node × Location) := []
  for path in operands do
    match ← Work.look path, ← Work.place path with
    | .error e, _ | _, .error e =>
      Work.complain (about ("cannot access ".toList ++ quoted path) e)
      code := 2
    | .ok node, .ok l => found := found ++ [(path, node, l)]
  let before (a b : Octets × Node × Location) : Bool :=
    if o.has "r" then b.1.isAtMost a.1 else a.1.isAtMost b.1
  let sorted := found.mergeSort before
  let isListed (f : Octets × Node × Location) : Bool := f.2.1 = .directory && !o.has "d"
  let files := (sorted.filter (!isListed ·)).flatMap fun f => shownName o s f.1 f.2.2
  let all := (sorted.filter isListed).flatMap fun f =>
    lists o s (s.files.nodes.length + 1) f.1 f.2.2
  let titled := 1 < operands.length || o.has "R"
  let parts := all.map fun part => if titled then part.1 ++ ":\n".toList ++ part.2 else part.2
  let parts := if files = [] then parts else files :: parts
  Work.say (parts.intersperse ['\n']).flatten
  return code

/-! ### Paths -/

/-- Write where paths lead; the last part of a path need not be there unless that is asked for. -/
def resolveAll (paths : List Octets) (strict loose silent : Bool) : Work UInt8 :=
  Work.forEach paths fun path => do
    let there ← Work.look path
    let e? : Option SystemError := match there, ← Work.place path with
      | .ok _, .ok _ => none
      | .error e, .ok _ => if loose || (!strict && e = .notFound) then none else some e
      | _, .error e => some e
    match ← Work.place path, e? with
    | .ok l, none =>
      Work.say (System.pathOf l ++ ['\n'])
      return 0
    | _, e? =>
      if !silent then Work.complain (about (quotedIfNeeded path) (e?.getD .notFound))
      return 1

/-- Write where paths lead. -/
def realpath : Work UInt8 := do
  let o ← Options.read
    { switches :=
        [ { letters := "e", names := ["canonicalize-existing"] },
          { letters := "m", names := ["canonicalize-missing"] },
          { letters := "q", names := ["quiet"] },
          { letters := "s", names := ["strip", "no-symlinks"] } ] ++ flags "LPz" }
  if o.operands = [] then Work.misused "missing operand".toList
  resolveAll o.operands (o.has "e") (o.has "m") (o.has "q")

/-- Write what links stand for, or where paths lead if that is asked for; there are no links. -/
def readlink : Work UInt8 := do
  let o ← Options.read
    { switches :=
        [ { letters := "f", names := ["canonicalize"] },
          { letters := "e", names := ["canonicalize-existing"] },
          { letters := "m", names := ["canonicalize-missing"] },
          { letters := "n", names := ["no-newline"] },
          { letters := "v", names := ["verbose"] } ] ++ flags "qsz" }
  if o.operands = [] then Work.misused "missing operand".toList
  if o.has "f" || o.has "e" || o.has "m" then
    resolveAll o.operands (o.has "e") (o.has "m") (!o.has "v")
  else return 1

/-! ### Programs -/

/-- Where programs are looked for: the value of a variable of the environment. -/
def searchPath (environment : List (Octets × Octets)) : List Octets :=
  match environment.find? fun v => v.1 = "PATH".toList with
  | some (_, path) => path.splitOn ':'
  | none => ["/bin".toList, "/usr/bin".toList]

/-- The paths at which a program may be. -/
def candidates (environment : List (Octets × Octets)) (name : Octets) : List Octets :=
  if '/' ∈ name then [name]
  else (searchPath environment).map fun directory =>
    if directory = [] then name else directory ++ '/' :: name

/-- Write where programs are found. -/
def which : Work UInt8 := do
  let o ← Options.read { switches := flags "as", code := 2, after := pure () }
  if o.operands = [] then return 1
  let s := (← get).system
  let call ← MonadReader.read
  Work.forEach o.operands fun name => do
    let found := (candidates call.environment name).filter fun path =>
      s.holds 'x' (Octets.text path) && !s.holds 'd' (Octets.text path)
    if !o.has "s" then
      for path in if o.has "a" then found else found.take 1 do Work.say (path ++ ['\n'])
    return if found = [] then 1 else 0

end FlowDump.Rehearsal.Toolbox
