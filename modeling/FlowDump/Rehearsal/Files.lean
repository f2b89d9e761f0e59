import FlowDump.Files.Filesystem

/-!
# Files of a rehearsal

A rehearsal takes place in a directory of its own, which holds the files that the script names and
nothing else.  Around it are the directories of the system with its devices and programs.

* `Rehearsal.filesystem` — the filesystem at the start.
* `Rehearsal.programPlaces` — where the programs stand.
* `Rehearsal.changes` — what has changed in the directory, by path.
-/

namespace FlowDump.Rehearsal

/-! ### The system -/

/-- The names of the programs. -/
def programNames : List String :=
  [ "sh", "dash", "true", "false", "sync", "echo", "printf", "yes", "seq", "basename", "dirname",
    "pwd", "printenv", "test", "[", "expr", "sleep", "cat", "tac", "rev", "nl", "paste", "head",
    "tail", "wc", "tee", "cut", "tr", "sort", "uniq", "grep", "sed", "cmp", "diff", "ls",
    "realpath", "readlink", "which", "cp", "mv", "ln", "rm", "rmdir", "unlink", "mkdir", "touch",
    "truncate", "chmod", "env", "timeout", "nice", "nohup", "setsid", "xargs" ]

/-- The directories that hold the programs. -/
def programDirectories : List Location := [["bin"], ["usr", "bin"]]

/-- Where the programs stand. -/
def programPlaces : List Location :=
  programDirectories.flatMap fun d => programNames.map fun name => d ++ [name]

/-- What stands in the file of a program. -/
def programBytes (name : String) : List UInt8 := [0x7F, 0x45, 0x4C, 0x46, 0] ++ Utf8.encode name

/-- The program whose file has some contents. -/
def programOf? (bytes : List UInt8) : Option String :=
  programNames.find? fun name => programBytes name = bytes

/-- The directories of the system. -/
def systemDirectories : List Location :=
  [ ["bin"], ["dev"], ["dev", "fd"], ["etc"], ["home"], ["opt"], ["proc"], ["root"], ["run"],
    ["sbin"], ["srv"], ["tmp"], ["usr"], ["usr", "bin"], ["usr", "lib"], ["usr", "local"],
    ["usr", "local", "bin"], ["usr", "local", "sbin"], ["usr", "sbin"], ["usr", "share"],
    ["var"], ["var", "log"], ["var", "tmp"] ]

/-- The devices. -/
def devices : List Location := [["dev", "null"], ["dev", "zero"], ["dev", "full"]]

/-! ### The start -/

/-- The names that lead to the directory. -/
def place : Location := ["rehearsal"]

/-- The path of the directory. -/
def placePath : String := String.join (place.map ("/" ++ ·))

/-- The empty directory in the system. -/
def emptyPlace : Filesystem :=
  { nodes :=
      ((place :: systemDirectories).map fun l => (l, Node.directory)) ++
      (devices.map fun l => (l, Node.file [])) ++
      (programDirectories.flatMap fun d => programNames.map fun name =>
        (d ++ [name], Node.file (programBytes name)))
    here := place }

/-- Put an entry in, with the directories above it. -/
def putEntry (fs : Filesystem) (path : String) (node : Node) : Filesystem :=
  match node with
  | .directory => (fs.makeDirectories path).2
  | .file bytes =>
    let fs := match Path.parent? path with
      | some parent => (fs.makeDirectories parent).2
      | none => fs
    (fs.write path bytes).2

/-- The filesystem that holds some entries. -/
def filesystem (entries : List (String × Node)) : Filesystem :=
  entries.foldl (fun fs e => putEntry fs e.1 e.2) emptyPlace

/-! ### Changes -/

/-- What has become of an entry. -/
inductive Change where
  /-- It is new or has another content. -/
  | now (node : Node)
  | gone
  deriving DecidableEq, Repr, Inhabited

/-- The path of a location below the directory. -/
def pathBelow? (l : Location) : Option String :=
  match place.isPrefixOf? l with
  | some (name :: names) => some ("/".intercalate (name :: names))
  | _ => none

/-- The entries of the directory by their paths, sockets left out. -/
def entriesOf (fs : Filesystem) : List (String × Node) :=
  (fs.nodes.filterMap fun n => (pathBelow? n.1).map fun p => (p, n.2)).filter fun e =>
    !e.1.endsWith ".sock"

/-- What has changed, sorted by path. -/
def changes (before after : Filesystem) : List (String × Change) :=
  let old := entriesOf before
  let new := entriesOf after
  let written := new.filterMap fun e =>
    if Members.get? old e.1 = some e.2 then none else some (e.1, Change.now e.2)
  let removed := old.filterMap fun e =>
    if (Members.get? new e.1).isSome then none else some (e.1, Change.gone)
  (written ++ removed).mergeSort fun a b => decide (a.1 ≤ b.1)

end FlowDump.Rehearsal
