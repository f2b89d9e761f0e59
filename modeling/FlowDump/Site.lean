import FlowDump.Host
import FlowDump.Signal
import FlowDump.Store.Subscription
import FlowDump.Store.Tables

/-!
# Sites

* `Site ε` — a platform with signals and database servers.
* `Site.heed` — have signals set the interrupt flag.
* `Site.host` — the host of a dump on a site, once the table of records is open and the
  subscription stands.
-/

namespace FlowDump

/-- A `Platform` with the signals that a program may get and the servers that can be reached. -/
structure Site (ε : Type) extends Platform ε where
  /-- Have the interrupt flag set from now on when a signal comes. -/
  register : Signal → StateM ε (Except IoFailure Unit)
  server : Store.Server ε

/-- Have the interrupt flag set by each of some signals, by `Site.register`, up to the first one
    that cannot be had. -/
def Site.heed {ε : Type} (site : Site ε) : List Signal → StateM ε (Except IoFailure Unit)
  | [] => return .ok ()
  | signal :: rest => do
    match ← site.register signal with
    | .error e => return .error e
    | .ok () => site.heed rest

/-- The host of a dump on a site: notifications come by the `Subscription`, records from the
    `StateTable`. -/
def Site.host {ε : Type} (site : Site ε) (table : Store.StateTable)
    (subscription : Store.Subscription) : Host ε :=
  { site.toPlatform with
    nextEvent := fun maxWait => Machine.outsideStep (subscription.nextEvent site.server maxWait)
    readState := fun session => Machine.outsideStep (table.read site.server session) }

end FlowDump
