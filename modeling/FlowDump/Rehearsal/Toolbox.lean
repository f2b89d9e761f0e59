import FlowDump.Rehearsal.Toolbox.Comparison
import FlowDump.Rehearsal.Toolbox.Condition
import FlowDump.Rehearsal.Toolbox.Edit
import FlowDump.Rehearsal.Toolbox.Expression
import FlowDump.Rehearsal.Toolbox.Finding
import FlowDump.Rehearsal.Toolbox.Listing
import FlowDump.Rehearsal.Toolbox.Sorting
import FlowDump.Rehearsal.Toolbox.Starting

/-!
# Small programs

The programs of a rehearsal: what each of them does to the files, writes and ends with.

* `Toolbox.tools` — the programs.
* `Toolbox.tool?` — the program with a name.
-/

namespace FlowDump.Rehearsal.Toolbox

/-- Do nothing, and end with a code. -/
def ends (code : UInt8) : Work UInt8 := return code

/-- The programs that work on their own, with their names and the codes for an output that cannot be
    written. -/
def tools : List Tool :=
  let alone (name : String) (work : Work UInt8) (trouble : UInt8 := 1) : Tool :=
    { name, trouble, work := fun _ => work }
  let starting (name : String) (work : Launch → Work UInt8) : Tool :=
    { name, trouble := 125, work }
  [ alone "true" (ends 0), alone "false" (ends 1), alone "sync" (ends 0),
    alone "echo" echo, alone "printf" printf, alone "yes" yes, alone "seq" seq,
    alone "basename" basename, alone "dirname" dirname, alone "pwd" pwd,
    alone "printenv" printenv 2, alone "test" test 2, alone "[" bracket 2, alone "expr" expr 3,
    alone "sleep" sleep, alone "cat" cat, alone "tac" tac, alone "rev" rev, alone "nl" nl,
    alone "paste" paste, alone "head" head, alone "tail" tail, alone "wc" wc, alone "tee" tee,
    alone "cut" cut, alone "tr" tr, alone "sort" sort 2, alone "uniq" uniq, alone "grep" grep 2,
    alone "sed" sed 4, alone "cmp" cmp 2, alone "diff" diff 2, alone "ls" ls 2,
    alone "realpath" realpath, alone "readlink" readlink, alone "which" which, alone "cp" cp,
    alone "mv" mv, alone "ln" ln, alone "rm" rm, alone "rmdir" rmdir, alone "unlink" unlink,
    alone "mkdir" mkdir, alone "touch" touch, alone "truncate" truncate, alone "chmod" chmod,
    starting "env" env, starting "timeout" timeout, starting "nice" nice,
    starting "nohup" nohup, starting "setsid" setsid, starting "xargs" xargs ]

/-- The program with a name. -/
def tool? (name : String) : Option Tool := tools.find? fun t => t.name = name

end FlowDump.Rehearsal.Toolbox
