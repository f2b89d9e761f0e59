import FlowDump.Proofs.Dump.Session
import FlowDump.Site

/-!
# Sites whose runs are kept

A database may change what is outside a program, but it runs no program of this one.  So whatever is
asked of the databases goes on a site that keeps the runs of programs as it goes on the site itself,
and keeps nothing.

* `Machine.passing` — a step of the machine that keeps nothing.
* `Site.watching` — the site that keeps the runs of programs with the files that they found.
* `openUrl_watching`, `read_watching` — what is asked of its databases.
* `watching_host_keeps`, `watching_host_keepsRuns` — a dump on it.
-/

namespace FlowDump

variable {ε α β κ : Type}

/-- A `Machine` beside what was kept so far. -/
def Machine.along (m : Machine ε) (kept : List κ) : Machine (ε × List κ) :=
  { files := m.files, outside := (m.outside, kept) }

/-- A step of the machine beside what is kept, which stays. -/
def Machine.passing (step : StateM (Machine ε) α) : StateM (Machine (ε × κ)) α := fun m =>
  let (a, machine) := step { files := m.files, outside := m.outside.1 }
  (a, { files := machine.files, outside := (machine.outside, m.outside.2) })

/-! ### Steps one after the other -/

/-- What `Run.aside` answers: what the step does, which keeps nothing. -/
theorem Run.aside_eq {step : StateM ε α} {outside outside' : ε} {a : α}
    (h : step outside = (a, outside')) (kept : List Run) :
    Run.aside step (outside, kept) = (a, (outside', kept)) := by
  show ((step outside).1, ((step outside).2, kept)) = _
  rw [h]

/-- `Run.aside` keeps nothing of two steps if it keeps nothing of each. -/
theorem Run.aside_bind (step : StateM ε α) (next : α → StateM ε β) :
    Run.aside (step >>= next) = Run.aside step >>= fun a => Run.aside (next a) := rfl

/-- `Machine.passing` keeps what is there through two steps, one after the other. -/
theorem Machine.passing_bind (step : StateM (Machine ε) α) (next : α → StateM (Machine ε) β) :
    (Machine.passing (step >>= next) : StateM (Machine (ε × κ)) β) =
      Machine.passing step >>= fun a => Machine.passing (next a) := rfl

/-! ### The site -/

/-- The site that keeps each `Run` of a program. -/
def Site.watching (site : Site ε) : Site (ε × List Run) where
  now := Run.aside site.now
  interrupted := Run.aside site.interrupted
  identity := Run.aside site.identity
  run program arguments :=
    Run.noting (fun files answer => [{ program, arguments, files, answer }])
      (site.run program arguments)
  register signal := Run.aside (site.register signal)
  server :=
    { misnamed := site.server.misnamed
      connect := fun endpoint => Machine.passing (site.server.connect endpoint)
      ask := fun c command => Run.aside (site.server.ask c command)
      mismatched := site.server.mismatched
      listen := fun c maxWait wanted => Run.aside (site.server.listen c maxWait wanted) }

namespace Site

open Store

variable (site : Site ε)

/-! ### What is asked of a database -/

theorem request_watching (c : Connection) (operation : String) (command : List String)
    (read : Reply → Option α) :
    site.watching.server.request c operation command read =
      Run.aside (site.server.request c operation command read) := rfl

theorem authenticate_watching (c : Connection) (credentials? : Option Credentials) :
    site.watching.server.authenticate c credentials? =
      Run.aside (site.server.authenticate c credentials?) := by
  cases credentials? <;> rfl

theorem choose_watching (c : Connection) (database : Int) :
    site.watching.server.choose c database = Run.aside (site.server.choose c database) := by
  unfold Server.choose
  split <;> rfl

theorem prepare_watching (c : Connection) (address : Address) :
    site.watching.server.prepare c address = Run.aside (site.server.prepare c address) := by
  simp only [Server.prepare, Run.aside_bind, authenticate_watching]
  congr 1
  funext answer
  cases answer with
  | error e => rfl
  | ok _ =>
    simp only [Run.aside_bind, choose_watching]
    rfl

/-- `Server.openUrl` keeps nothing. -/
theorem openUrl_watching (url : String) :
    site.watching.server.openUrl url = Machine.passing (site.server.openUrl url) := by
  unfold Server.openUrl
  cases Address.ofUrl? url with
  | none => rfl
  | some address =>
    simp only [Machine.passing_bind]
    congr 1
    funext answer
    cases answer with
    | error message => rfl
    | ok c =>
      simp only [prepare_watching]
      rfl

theorem read_watching (table : StateTable) (session : SessionName) :
    table.read site.watching.server session = Run.aside (table.read site.server session) := by
  simp only [StateTable.read, request_watching, Run.aside_bind]
  congr 1
  funext answer
  cases answer <;> rfl

variable {site}

/-- `Server.openUrl` answers the same beside what is kept. -/
theorem openUrl_along {url : String} {m m' : Machine ε} {answer : Except Failure Connection}
    (h : site.server.openUrl url m = (answer, m')) (kept : List FlowDump.Run) :
    site.watching.server.openUrl url (m.along kept) = (answer, m'.along kept) := by
  rw [site.openUrl_watching]
  show ((site.server.openUrl url m).1, (site.server.openUrl url m).2.along kept) = _
  rw [h]

variable (site)

/-! ### A dump on the site -/

/-- The host of `Site.watching` keeps nothing but the runs. -/
theorem watching_host_keeps (table : StateTable) (subscription : Subscription) :
    (site.host table subscription).Keeps (site.watching.host table subscription) fun _ => [] where
  now w kept := by rw [List.append_nil]; rfl
  interrupted w kept := by rw [List.append_nil]; rfl
  identity w kept := by rw [List.append_nil]; rfl
  nextEvent maxWait w kept := by rw [List.append_nil]; rfl
  readState session w kept := by
    rw [List.append_nil]
    show (w.along kept).machineStep
      (Machine.outsideStep (table.read site.watching.server session)) = _
    rw [read_watching]
    rfl

/-- The host of `Site.watching` keeps every run. -/
theorem watching_host_keepsRuns (table : StateTable) (subscription : Subscription) :
    (site.host table subscription).KeepsRuns (site.watching.host table subscription)
      fun r => [r] :=
  fun _ _ _ _ => rfl

end Site

end FlowDump
