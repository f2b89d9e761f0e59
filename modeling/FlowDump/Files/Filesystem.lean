import FlowDump.Files.Path
import FlowDump.Files.SystemError
import FlowDump.Members
import FlowDump.Text.Utf8

/-!
# Filesystems

A tree of directories and regular files, without links, and a working directory.

* `Filesystem` — the entries by their location, the list of names from the root.
* `Filesystem.locate` — where a path leads.
* `Filesystem.find` — what a path stands for, and `Filesystem.readFile` its bytes.
* `Filesystem.overwrite` — the bytes of a file when others are written at a position.
* `Filesystem.makeDirectory`, `create`, `append`, `removeFile`, `rename` — the elementary changes.
  Each one either succeeds with a new filesystem or fails and changes nothing.
* `Filesystem.makeDirectories`, `Filesystem.write` — changes made of several elementary ones.
-/

namespace FlowDump

/-! ### Entries -/

/-- What stands at a location. -/
inductive Node where
  | file (bytes : List UInt8)
  | directory
  deriving DecidableEq, Repr, Inhabited

/-- A place in the tree: the names from the root down. -/
abbrev Location := List String

/-- The entries below the root, and the working directory. -/
structure Filesystem where
  nodes : Members Location Node
  here : Location
  deriving Repr, Inhabited

namespace Filesystem

/-- The longest name of an entry in bytes. -/
def maxName : Nat := 255

/-- The longest path in bytes. -/
def maxPath : Nat := 4095

/-- What stands at a location; the root is always a directory. -/
def node? (fs : Filesystem) (l : Location) : Option Node :=
  if l = [] then some .directory else Members.get? fs.nodes l

/-- The filesystem with an entry at a location. -/
def put (fs : Filesystem) (l : Location) (n : Node) : Filesystem :=
  { fs with nodes := Members.insert l n fs.nodes }

/-- The filesystem without an entry at a location. -/
def remove (fs : Filesystem) (l : Location) : Filesystem :=
  { fs with nodes := fs.nodes.filter fun p => p.1 ≠ l }

/-- Fail with an error of the system. -/
def refuse {α : Type} (e : SystemError) : Except IoFailure α :=
  .error (.system e)

/-! ### Following paths -/

/-- Where a path leads: to a name in a directory, with a slash after it or not, or to a directory
    that it does not name, as `.`, `..` and `/` do. -/
inductive Spot where
  | entry (parent : Location) (name : String) (slash : Bool)
  | directory (l : Location)
  deriving DecidableEq, Repr

/-- What stands under a name in a directory. -/
def lookup (fs : Filesystem) (parent : Location) (name : String) :
    Except IoFailure (Option Node) :=
  if maxName < name.utf8ByteSize then refuse .nameTooLong
  else .ok (fs.node? (parent ++ [name]))

/-- Go on from a directory through one part of a path, by `lookup` unless the part is made of dots.
    -/
def enter (fs : Filesystem) (l : Location) (part : String) : Except IoFailure Location :=
  if part = "." then .ok l
  else if part = ".." then .ok l.dropLast
  else do
    match ← fs.lookup l part with
    | none => refuse .notFound
    | some (.file _) => refuse .notADirectory
    | some .directory => .ok (l ++ [part])

/-- Go down through all but the last of some parts, one `enter` after the other. -/
def descend (fs : Filesystem) (slash : Bool) : Location → List String → Except IoFailure Spot
  | l, [] => .ok (.directory l)
  | l, [part] =>
    if part = "." ∨ part = ".." then (fs.enter l part).map .directory
    else .ok (.entry l part slash)
  | l, part :: next :: rest => do
    let l ← fs.enter l part
    fs.descend slash l (next :: rest)

/-- Where a path leads, by `descend` from the root or from the working directory. -/
def locate (fs : Filesystem) (path : String) : Except IoFailure Spot :=
  if '\x00' ∈ path.toList then .error .zeroInPath
  else if path = "" then refuse .notFound
  else if maxPath < path.utf8ByteSize then refuse .nameTooLong
  else fs.descend (Path.endsInSlash path) (if Path.isAbsolute path then [] else fs.here)
    (Path.parts path)

/-! ### Looking -/

/-- What a path stands for, at the `Spot` that `locate` leads to. -/
def find (fs : Filesystem) (path : String) : Except IoFailure Node := do
  match ← fs.locate path with
  | .directory _ => .ok .directory
  | .entry parent name slash =>
    match ← fs.lookup parent name with
    | none => refuse .notFound
    | some .directory => .ok .directory
    | some (.file bytes) => if slash then refuse .notADirectory else .ok (.file bytes)

/-- Whether a path stands for a directory. -/
def isDirectory (fs : Filesystem) (path : String) : Bool :=
  match fs.find path with
  | .ok .directory => true
  | _ => false

/-- The bytes of an entry that was found: a directory has none. -/
def contents : Node → Except IoFailure (List UInt8)
  | .file bytes => .ok bytes
  | .directory => refuse .isADirectory

/-- The bytes of the file at a path, by `find`. -/
def readFile (fs : Filesystem) (path : String) : Except IoFailure (List UInt8) := do
  contents (← fs.find path)

/-- The text of the file at a path. -/
def readText (fs : Filesystem) (path : String) : Except IoFailure String := do
  match Utf8.decode? (← fs.readFile path) with
  | some s => .ok s
  | none => .error .notText

/-- The names of the entries in a directory, sorted. -/
def names (fs : Filesystem) (path : String) : Except IoFailure (List String) := do
  match ← fs.find path with
  | .file _ => refuse .notADirectory
  | .directory =>
    let l := match ← fs.locate path with
      | .directory l => l
      | .entry parent name _ => parent ++ [name]
    return (fs.nodes.filterMap fun n =>
      match l.isPrefixOf? n.1 with
      | some [name] => some name
      | _ => none).mergeSort fun a b => decide (a ≤ b)

/-! ### Elementary changes -/

/-- Bytes with others written over them at a position; a gap is filled with zeros. -/
def overwrite (old : List UInt8) (position : Nat) (bytes : List UInt8) : List UInt8 :=
  old.take position ++ List.replicate (position - old.length) 0 ++ bytes ++
    old.drop (position + bytes.length)

/-- Make a directory. -/
def makeDirectory (fs : Filesystem) (path : String) : Except IoFailure Filesystem := do
  match ← fs.locate path with
  | .directory _ => refuse .alreadyExists
  | .entry parent name _ =>
    match ← fs.lookup parent name with
    | some _ => refuse .alreadyExists
    | none => .ok (fs.put (parent ++ [name]) .directory)

/-- Make an empty file, or empty the one that is there. -/
def create (fs : Filesystem) (path : String) : Except IoFailure Filesystem := do
  match ← fs.locate path with
  | .directory _ => refuse .isADirectory
  | .entry parent name slash =>
    if slash then refuse .isADirectory
    else match ← fs.lookup parent name with
      | some .directory => refuse .isADirectory
      | _ => .ok (fs.put (parent ++ [name]) (.file []))

/-- Put more bytes at the end of a file. -/
def append (fs : Filesystem) (path : String) (bytes : List UInt8) :
    Except IoFailure Filesystem := do
  match ← fs.locate path with
  | .directory _ => refuse .isADirectory
  | .entry parent name _ =>
    match ← fs.lookup parent name with
    | none => refuse .notFound
    | some .directory => refuse .isADirectory
    | some (.file old) => .ok (fs.put (parent ++ [name]) (.file (old ++ bytes)))

/-- Remove a file. -/
def removeFile (fs : Filesystem) (path : String) : Except IoFailure Filesystem := do
  match ← fs.locate path with
  | .directory _ => refuse .isADirectory
  | .entry parent name slash =>
    match ← fs.lookup parent name with
    | none => refuse .notFound
    | some .directory => refuse .isADirectory
    | some (.file _) =>
      if slash then refuse .notADirectory else .ok (fs.remove (parent ++ [name]))

/-- Give a file another name in place of what stands there; only files are renamed. -/
def rename (fs : Filesystem) (source target : String) : Except IoFailure Filesystem := do
  let source ← fs.locate source
  let target ← fs.locate target
  match source, target with
  | .entry sourceParent sourceName sourceSlash, .entry targetParent targetName targetSlash =>
    let old ← fs.lookup sourceParent sourceName
    let new ← fs.lookup targetParent targetName
    match old with
    | none => refuse .notFound
    | some .directory => refuse .isADirectory
    | some (.file bytes) =>
      -- a slash at the end asks for a directory
      if sourceSlash ∨ targetSlash then refuse .notADirectory
      else if new = some .directory then refuse .isADirectory
      else .ok ((fs.remove (sourceParent ++ [sourceName])).put (targetParent ++ [targetName])
        (.file bytes))
  | _, _ => refuse .busy

/-! ### Changes in several steps -/

/-- Write a file by `create` and `append`: make it empty, then put all bytes in. -/
def write (fs : Filesystem) (path : String) (bytes : List UInt8) :
    Except IoFailure Unit × Filesystem :=
  match fs.create path with
  | .error e => (.error e, fs)
  | .ok fs =>
    match fs.append path bytes with
    | .error e => (.error e, fs)
    | .ok fs => (.ok (), fs)

/-- Make a directory by `makeDirectory` unless it is there. -/
def ensureDirectory (fs : Filesystem) (path : String) : Except IoFailure Unit × Filesystem :=
  match fs.makeDirectory path with
  | .ok fs => (.ok (), fs)
  -- whatever the error was, a directory that is there will do
  | .error e => (if fs.isDirectory path then .ok () else .error e, fs)

/-- Make a directory and, where they are missing, the directories above it, `fuel` levels of them
    at most. -/
def makeUpTo : (fuel : Nat) → Filesystem → String → Except IoFailure Unit × Filesystem
  | 0, fs, _ => (.error .noAncestor, fs)
  | fuel + 1, fs, path =>
    if path = "" then (.ok (), fs)
    else match fs.ensureDirectory path with
      | (.error (.system e), fs) =>
        -- only a missing directory above can be mended
        if e ≠ .notFound then (.error (.system e), fs)
        else match Path.parent? path with
          | none => (.error .noAncestor, fs)
          | some parent =>
            match makeUpTo fuel fs parent with
            | (.error e, fs) => (.error e, fs)
            | (.ok (), fs) => fs.ensureDirectory path
      | r => r

/-- Make a directory and the directories above it where they are missing, by `makeUpTo`.  A path has
    no more levels than characters. -/
def makeDirectories (fs : Filesystem) (path : String) : Except IoFailure Unit × Filesystem :=
  makeUpTo (path.length + 1) fs path

end Filesystem

end FlowDump
