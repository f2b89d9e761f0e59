import FlowDump.Rehearsal.Database
import FlowDump.Rehearsal.Feed
import FlowDump.Rehearsal.Programs
import FlowDump.Site

/-!
# Hosts of a rehearsal

The folder is used through this module: a host and a site to run the program with.  The program and
its theory know neither.

* `Rehearsal.host` — a host whose notifications and records come from the feed.
* `Rehearsal.site` — a site with the database server of the stage.
* `Rehearsal.session` — the name of the first session that is started in a rehearsal.
-/

namespace FlowDump.Rehearsal

/-- A host whose notifications and records come from the feed. -/
def host : Host Stage :=
  { platform with
    nextEvent := fun maxWait => Machine.outsideStep (Stage.nextEvent maxWait)
    readState := fun session => Machine.outsideStep (Stage.readState session) }

/-- A site with the database server of the stage, on which every signal can be had. -/
def site : Site Stage :=
  { platform with
    register := fun _ => pure (.ok ())
    server }

/-- The name of the first session. -/
def session : SessionName := .generate (Stage.identity 0)

/-- The world at the start of a rehearsal. -/
def world (files : Filesystem) (stage : Stage) : World Stage :=
  { files, outside := stage }

end FlowDump.Rehearsal
