import FlowDump.Rehearsal.System

/-!
# Directories with all that is in them

* `System.children` — the names in a directory.
* `System.removeTree`, `System.moveTree`, `System.copyTree` — an entry with what is below it.
-/

namespace FlowDump.Rehearsal.System

/-- The names in a directory, sorted. -/
def children (s : System) (l : Location) : List String :=
  (s.files.nodes.filterMap fun n =>
    match l.isPrefixOf? n.1 with
    | some [name] => some name
    | _ => none).mergeSort fun a b => decide (a ≤ b)

/-- Take an entry away with what is below it. -/
def removeTree (s : System) (l : Location) : System :=
  { s with
    files := { s.files with nodes := s.files.nodes.filter fun n => !l.isPrefixOf n.1 }
    runnable := s.runnable.filter fun m => !l.isPrefixOf m }

/-- The place of a location below an entry once the entry has another location. -/
def moved? (source target l : Location) : Option Location :=
  (source.isPrefixOf? l).map (target ++ ·)

/-- Put an entry with what is below it in another place as well. -/
def copyTree (s : System) (source target : Location) : System :=
  let copies := s.files.nodes.filterMap fun n => (moved? source target n.1).map (·, n.2)
  { s with
    files := copies.foldl (fun fs n => fs.put n.1 n.2) s.files
    runnable := s.runnable ++ s.runnable.filterMap (moved? source target) }

/-- Give an entry with what is below it another place, where nothing else will be left. -/
def moveTree (s : System) (source target : Location) : System :=
  let s := s.removeTree target
  (s.copyTree source target).removeTree source

end FlowDump.Rehearsal.System
