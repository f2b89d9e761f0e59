import FlowDump.Proofs.CommandLine.Preparation

/-!
# Nothing is requested before everything is in order

The `dump` command writes its request and runs the apply command only on a device of the expected
role, and only after the subscription stands, so that no change of the session goes unheard.  Where
a step before that fails, the command ends with the failure of this step and has done nothing.

* `Prepares.watching`, `Prepares.files_eq` — the steps before a session run no program and leave the
  files to the databases.
* `dump_of_error`, `dump_of_ready` — the command by what these steps come to.
* `dump_watched` — the runs of programs in the command.
* `dump_guarded` — a request is made only after all steps have succeeded.
-/

namespace FlowDump.CommandLine

open Store

variable {ε κ : Type} {site : Site ε} {configPath? : Option String}

/-! ### What the steps leave alone -/

/-- `Server.openUrl` changes files only where connecting does. -/
theorem files_of_openUrl (calm : ∀ endpoint m, (site.server.connect endpoint m).2.files = m.files)
    {url : String} {m m' : Machine ε} {answer : Except Failure Connection}
    (h : site.server.openUrl url m = (answer, m')) : m'.files = m.files := by
  unfold Server.openUrl at h
  cases hurl : Address.ofUrl? url with
  | none =>
    simp only [hurl] at h
    cases h
    rfl
  | some address =>
    simp only [hurl] at h
    have kept := calm address.endpoint m
    rcases hc : site.server.connect address.endpoint m with ⟨answer, m₁⟩
    rw [hc] at kept
    simp only [bind, StateT.bind, hc] at h
    cases answer with
    | error message =>
      cases h
      exact kept
    | ok c =>
      cases h
      exact kept

/-- A device is `Cleared` without any other change of files. -/
theorem files_of_cleared (calm : ∀ endpoint m, (site.server.connect endpoint m).2.files = m.files)
    {config : Config} {m m' : Machine ε} (h : Cleared site config m m') : m'.files = m.files := by
  obtain ⟨opened, -, -⟩ := h
  have kept := files_of_openUrl calm opened
  exact kept

/-- The signals are `Heeded` without a change of files. -/
theorem files_of_heeded {m m' : Machine ε} (h : Heeded site m m') : m'.files = m.files := by
  obtain ⟨-, -⟩ := h
  rfl

/-- A signal is `Unheeded` without a change of files. -/
theorem files_of_unheeded {e : IoFailure} {m m' : Machine ε} (h : Unheeded site m e m') :
    m'.files = m.files := by
  cases h <;> rfl

/-- A `Cleared` device whose signals are `Heeded` stands on the files that connecting has left. -/
theorem files_of_ready (calm : ∀ endpoint m, (site.server.connect endpoint m).2.files = m.files)
    {config : Config} {m m₁ m₂ : Machine ε} (cleared : Cleared site config m m₁)
    (heeded : Heeded site m₁ m₂) : m₂.files = m.files :=
  (files_of_heeded heeded).trans (files_of_cleared calm cleared)

/-- Behind a `Cleared` device and `Heeded` signals, two more connections stand on the files that
    connecting has left. -/
theorem files_of_connected
    (calm : ∀ endpoint m, (site.server.connect endpoint m).2.files = m.files) {config : Config}
    {url url' : String} {answer answer' : Except Failure Connection} {m m₁ m₂ m₃ m₄ : Machine ε}
    (cleared : Cleared site config m m₁) (heeded : Heeded site m₁ m₂)
    (opened : site.server.openUrl url m₂ = (answer, m₃))
    (opened' : site.server.openUrl url' m₃ = (answer', m₄)) : m₄.files = m.files :=
  calc
    m₄.files = m₃.files := files_of_openUrl calm opened'
    _ = m₂.files := files_of_openUrl calm opened
    _ = m.files := files_of_ready calm cleared heeded

/-- The steps of `Prepares` change files only where connecting does. -/
theorem Prepares.files_eq
    (calm : ∀ endpoint m, (site.server.connect endpoint m).2.files = m.files)
    {prepared : Except Failure (Config × StateTable × Subscription)} {m m' : Machine ε}
    (h : Prepares site configPath? m prepared m') : m'.files = m.files := by
  cases h with
  | unconfigured => rfl
  | unconnected _ opened => exact files_of_openUrl calm opened
  | unanswered _ opened =>
    have kept := files_of_openUrl calm opened
    exact kept
  | misplaced _ opened =>
    have kept := files_of_openUrl calm opened
    exact kept
  | unheeded _ cleared unheeded =>
    exact (files_of_unheeded unheeded).trans (files_of_cleared calm cleared)
  | unread _ cleared heeded opened =>
    exact (files_of_openUrl calm opened).trans (files_of_ready calm cleared heeded)
  | unheard _ cleared heeded opened opened' =>
    exact files_of_connected calm cleared heeded opened opened'
  | unsubscribed _ cleared heeded opened opened' =>
    have kept := files_of_connected calm cleared heeded opened opened'
    exact kept
  | ready _ cleared heeded opened opened' =>
    have kept := files_of_connected calm cleared heeded opened opened'
    exact kept

/-- What was `Configured` is so beside what is kept. -/
theorem Configured.along {config : Config} {m : Machine ε}
    (h : Configured configPath? m.files config) (kept : List κ) :
    Configured configPath? (m.along kept).files config := h

/-- A device is `Cleared` without running a program. -/
theorem Cleared.watching {config : Config} {m m' : Machine ε} (h : Cleared site config m m')
    (kept : List FlowDump.Run) :
    Cleared site.watching config (m.along kept) (m'.along kept) := by
  obtain ⟨opened, asked, text_eq⟩ := h
  have cleared := Cleared.intro (Site.openUrl_along opened kept) (Run.aside_eq asked kept) text_eq
  exact cleared

theorem Heeded.watching {m m' : Machine ε} (h : Heeded site m m') (kept : List FlowDump.Run) :
    Heeded site.watching (m.along kept) (m'.along kept) := by
  obtain ⟨first, second⟩ := h
  have heeded : Heeded site.watching (m.along kept) _ :=
    .intro (Run.aside_eq first kept) (Run.aside_eq second kept)
  exact heeded

theorem Unheeded.watching {e : IoFailure} {m m' : Machine ε} (h : Unheeded site m e m')
    (kept : List FlowDump.Run) : Unheeded site.watching (m.along kept) e (m'.along kept) := by
  cases h with
  | interrupt first =>
    have unheeded : Unheeded site.watching (m.along kept) e _ :=
      .interrupt (Run.aside_eq first kept)
    exact unheeded
  | terminate first second =>
    have unheeded : Unheeded site.watching (m.along kept) e _ :=
      .terminate (Run.aside_eq first kept) (Run.aside_eq second kept)
    exact unheeded

/-- The steps of `Prepares` run no program. -/
theorem Prepares.watching {prepared : Except Failure (Config × StateTable × Subscription)}
    {m m' : Machine ε} (h : Prepares site configPath? m prepared m') (kept : List FlowDump.Run) :
    Prepares site.watching configPath? (m.along kept) prepared (m'.along kept) := by
  -- where the last step changes the outside alone, it is put together before it is compared
  cases h with
  | unconfigured failed => exact .unconfigured failed
  | unconnected configured opened =>
    exact .unconnected (configured.along kept) (Site.openUrl_along opened kept)
  | unanswered configured opened read =>
    have steps := Prepares.unanswered (configured.along kept) (Site.openUrl_along opened kept)
      (Run.aside_eq read kept)
    exact steps
  | misplaced configured opened read other =>
    have steps := Prepares.misplaced (configured.along kept) (Site.openUrl_along opened kept)
      (Run.aside_eq read kept) other
    exact steps
  | unheeded configured cleared unheeded =>
    exact .unheeded (configured.along kept) (cleared.watching kept) (unheeded.watching kept)
  | unread configured cleared heeded opened =>
    exact .unread (configured.along kept) (cleared.watching kept) (heeded.watching kept)
      (Site.openUrl_along opened kept)
  | unheard configured cleared heeded opened opened' =>
    exact .unheard (configured.along kept) (cleared.watching kept) (heeded.watching kept)
      (Site.openUrl_along opened kept) (Site.openUrl_along opened' kept)
  | unsubscribed configured cleared heeded opened opened' asked =>
    have steps := Prepares.unsubscribed (configured.along kept) (cleared.watching kept)
      (heeded.watching kept) (Site.openUrl_along opened kept) (Site.openUrl_along opened' kept)
      (Run.aside_eq asked kept)
    exact steps
  | ready configured cleared heeded opened opened' asked no_error =>
    have steps := Prepares.ready (configured.along kept) (cleared.watching kept)
      (heeded.watching kept) (Site.openUrl_along opened kept) (Site.openUrl_along opened' kept)
      (Run.aside_eq asked kept) no_error
    exact steps

/-! ### The command by what the steps come to -/

/-- A `Run` beside what was kept in it and before. -/
def Run.along (r : Run ε) (kept : List κ) : Run (ε × List κ) :=
  { result? := r.result?, world := r.world.along kept }

/-- How a failure of the command is told. -/
def failed (millis : Nat) (e : Failure) : Log.Event :=
  .operation { component := .dumpCommand, name := operationName, phase := .fail millis e }

/-- The end of a command that started at some time: a failure is told, by `failed`. -/
def finished (site : Site ε) (start : Instant) (run : Run ε) : Run ε :=
  match run.result? with
  | some (.error e) =>
    let (stop, w) := run.world.outsideStep site.now
    { run with world := w.tell (failed (stop.since start).toMillis e) }
  | _ => run

/-- What the command makes of the `Dump.Run` of its session. -/
def ofSession (fileOnly : Bool) (run : Dump.Run ε) : Run ε :=
  match run.result? with
  | none => { result? := none, world := run.world }
  | some (.error e) => { result? := some (.error e), world := run.world }
  | some (.ok report) =>
    { result? := some (.ok (printReport fileOnly report))
      world := run.world.remark [dumpNote report] }

section

variable {request : Dump.Request} {limit : Nat} {w : World ε} {m : Machine ε}

theorem finished_along (start : Instant) (run : Run ε) (kept : List FlowDump.Run) :
    finished site.watching start (run.along kept) = (finished site start run).along kept := by
  obtain ⟨result?, world⟩ := run
  match result? with
  | none => rfl
  | some (.error e) => rfl
  | some (.ok text) => rfl

theorem ofSession_along (fileOnly : Bool) (run : Dump.Run ε) (kept : List FlowDump.Run) :
    ofSession fileOnly (run.along kept) = (ofSession fileOnly run).along kept := by
  obtain ⟨result?, turns, world⟩ := run
  match result? with
  | none => rfl
  | some (.error e) => rfl
  | some (.ok report) => rfl

/-- Where a step of `Prepares` fails, `dump` ends with its failure. -/
theorem dump_of_error {e : Failure}
    (h : Prepares site configPath? (w.outsideStep site.now).2.toMachine (.error e) m) :
    dump site configPath? request limit w =
      finished site (w.outsideStep site.now).1
        { result? := some (.error e), world := ⟨m, w.log⟩ } := by
  have steps : dumpSteps site configPath? request limit (w.outsideStep site.now).2 =
      { result? := some (.error e), world := ⟨m, w.log⟩ } := by
    rw [dumpSteps, prepare_eq h, remarks, List.map_nil, List.append_nil]
    rfl
  show finished site _ (dumpSteps site configPath? request limit (w.outsideStep site.now).2) = _
  rw [steps]
  rfl

/-- Where no step of `Prepares` fails, `dump` runs a session. -/
theorem dump_of_ready {config : Config} {table : StateTable} {subscription : Subscription}
    (h : Prepares site configPath? (w.outsideStep site.now).2.toMachine
      (.ok (config, table, subscription)) m) :
    dump site configPath? request limit w =
      finished site (w.outsideStep site.now).1 (ofSession request.fileOnly
        (Dump.run (site.host table subscription) (triggerOf config) request config.gracePeriod
          config.pollInterval limit
          ⟨m, w.log ++ [.note (Subscription.note
            (pattern config.stateDbIndex config.stateTable))]⟩)) := by
  show finished site _ (dumpSteps site configPath? request limit (w.outsideStep site.now).2) = _
  rw [dumpSteps, prepare_eq h]
  rfl

end

/-! ### The theorem -/

/-- On `Site.watching` the command does what it does on the site itself.  It runs programs only if
    all steps of `Prepares` succeed. -/
theorem dump_watched (site : Site ε) (configPath? : Option String) (request : Dump.Request)
    (limit : Nat) (w : World ε) :
    ∃ runs, dump site.watching configPath? request limit (w.along []) =
        (dump site configPath? request limit w).along runs ∧
      ∀ e m, Prepares site configPath? (w.outsideStep site.now).2.toMachine (.error e) m →
        runs = [] := by
  obtain ⟨prepared, m, h⟩ :=
    exists_prepares site configPath? (w.outsideStep site.now).2.toMachine
  have watched : Prepares site.watching configPath?
    ((w.along ([] : List FlowDump.Run)).outsideStep site.watching.now).2.toMachine prepared
    (m.along []) := h.watching []
  cases prepared with
  -- no session starts, so nothing is noted beside it
  | error e =>
    refine ⟨[], ?_, fun _ _ _ => rfl⟩
    rw [dump_of_error h, dump_of_error watched]
    exact finished_along _ { result? := some (.error e), world := ⟨m, w.log⟩ } []
  -- a session keeps its notes as its host does; before it the watched steps are the plain ones
  | ok prepared =>
    obtain ⟨config, table, subscription⟩ := prepared
    obtain ⟨runs, run_eq⟩ := Dump.run_keeps (site.watching_host_keeps table subscription)
      (site.watching_host_keepsRuns table subscription) (triggerOf config) request
      config.gracePeriod config.pollInterval limit ⟨m, w.log ++ [.note (Subscription.note
        (pattern config.stateDbIndex config.stateTable))]⟩
    refine ⟨runs, ?_, fun e m' h' => ?_⟩
    · rw [dump_of_ready h, dump_of_ready watched]
      have ran := run_eq []
      rw [List.nil_append] at ran
      rw [← finished_along, ← ofSession_along, ← ran]
      rfl
    · -- the steps come to one thing only
      have one := (prepare_eq h).symm.trans (prepare_eq h')
      cases congrArg Prod.fst one

/-- **Nothing is requested before everything is in order.**  Before its session the command takes
    the steps of `Prepares`, up to the first one that fails.  Where one fails, this failure is the
    result and is told, no program is run, and the files are those that the databases left.  Where
    none does, the configuration was loaded and is valid, the answer of the configuration database
    was the expected role, the signals to stop set the flag, both connections to the state database
    are open and the subscription stands; a session starts there, and nowhere else.  So where
    connecting changes no files, a file that differs or a program that was run means that all of
    this came first. -/
theorem dump_guarded (site : Site ε) (configPath? : Option String) (request : Dump.Request)
    (limit : Nat) (w : World ε) :
    (∃ prepared m,
      Prepares site configPath? (w.outsideStep site.now).2.toMachine prepared m) ∧
    ∃ runs, dump site.watching configPath? request limit (w.along []) =
        (dump site configPath? request limit w).along runs ∧
      (∀ e m, Prepares site configPath? (w.outsideStep site.now).2.toMachine (.error e) m →
        (dump site configPath? request limit w).result? = some (.error e) ∧
        (dump site configPath? request limit w).world.files = m.files ∧
        (∃ millis, (dump site configPath? request limit w).world.log = w.log ++ [failed millis e]) ∧
        runs = []) ∧
      (∀ config table subscription m,
        Prepares site configPath? (w.outsideStep site.now).2.toMachine
          (.ok (config, table, subscription)) m →
        dump site configPath? request limit w =
          finished site (w.outsideStep site.now).1 (ofSession request.fileOnly
            (Dump.run (site.host table subscription) (triggerOf config) request config.gracePeriod
              config.pollInterval limit ⟨m, w.log ++ [.note (Subscription.note
                (pattern config.stateDbIndex config.stateTable))]⟩))) ∧
      ((∀ endpoint m, (site.server.connect endpoint m).2.files = m.files) →
        (∀ prepared m, Prepares site configPath? (w.outsideStep site.now).2.toMachine prepared m →
          m.files = w.files) ∧
        ((dump site configPath? request limit w).world.files ≠ w.files ∨ runs ≠ [] →
          ∃ config table subscription m,
            Prepares site configPath? (w.outsideStep site.now).2.toMachine
              (.ok (config, table, subscription)) m)) := by
  have always := exists_prepares site configPath? (w.outsideStep site.now).2.toMachine
  obtain ⟨runs, watched, unrun⟩ := dump_watched site configPath? request limit w
  refine ⟨always, runs, watched, ?_, ?_, ?_⟩
  · intro e m h
    rw [dump_of_error h]
    exact ⟨rfl, rfl, ⟨_, rfl⟩, unrun e m h⟩
  · intro config table subscription m h
    exact dump_of_ready h
  · intro calm
    have files_eq : ∀ prepared m,
        Prepares site configPath? (w.outsideStep site.now).2.toMachine prepared m →
          m.files = w.files := fun _ _ h => h.files_eq calm
    refine ⟨files_eq, ?_⟩
    -- a failure leaves neither a changed file nor a run, so one of these means readiness
    intro done
    obtain ⟨prepared, m, h⟩ := always
    cases prepared with
    | ok prepared => exact ⟨prepared.1, prepared.2.1, prepared.2.2, m, h⟩
    | error e =>
      exfalso
      rcases done with changed | ran
      · apply changed
        rw [dump_of_error h]
        exact files_eq _ m h
      · exact ran (unrun e m h)

/-- A `Site` of some role.  Its databases carry out every command, and the wait for a session is
    asked to stop at once. -/
def roleSite (role : String) : Site Unit where
  now u := (default, u)
  interrupted u := (true, u)
  identity u := (default, u)
  run _ _ m := (.ok { success := true, status := "exit status: 0", stderr := "" }, m)
  register _ u := (.ok (), u)
  server :=
    { misnamed := fun url => url
      connect := fun _ m => (.ok ⟨0⟩, m)
      ask := fun _ command u =>
        (.ok (if command.head? = some "HGET" then .bulk (Utf8.encode role) else .status "OK"), u)
      mismatched := fun operation _ => operation
      listen := fun _ _ _ u => (.silence, u) }

/-- Nothing stands there, so that the defaults hold. -/
def bareMachine : Machine Unit := ⟨{ nodes := [], here := [] }, ()⟩

/-- On `roleSite` both databases of the defaults can be reached. -/
theorem openUrl_roleSite (role : String) (m : Machine Unit) :
    (roleSite role).server.openUrl ({} : Config).configDbUrl m = (.ok ⟨0⟩, m) ∧
      (roleSite role).server.openUrl ({} : Config).stateDbUrl m = (.ok ⟨0⟩, m) := by
  have config_address : Address.ofUrl? ({} : Config).configDbUrl
      = some ⟨.network "127.0.0.1" 6379, none, 4⟩ := by decide +kernel
  have state_address : Address.ofUrl? ({} : Config).stateDbUrl
      = some ⟨.network "127.0.0.1" 6379, none, 6⟩ := by decide +kernel
  constructor
  · simp only [Server.openUrl, config_address]
    rfl
  · simp only [Server.openUrl, state_address]
    rfl

/-- On `roleSite` nothing is done for a device of another role; on one of the expected role a
    session starts. -/
theorem dump_guarded_roleSite :
    Prepares (roleSite "npu") none bareMachine (.error (.wrongDeviceRole "dpu" "npu")) bareMachine ∧
    (dump (roleSite "npu") none ⟨true, 1000, 60, true⟩ 9 ⟨bareMachine, []⟩).result? =
      some (.error (.wrongDeviceRole "dpu" "npu")) ∧
    (dump (roleSite "npu") none ⟨true, 1000, 60, true⟩ 9 ⟨bareMachine, []⟩).world.files =
      bareMachine.files ∧
    (dump (roleSite "npu").watching none ⟨true, 1000, 60, true⟩ 9
      (World.along ⟨bareMachine, []⟩ [])).world.outside.2 = [] ∧
    ∃ table subscription,
      Prepares (roleSite "dpu") none bareMachine (.ok ({}, table, subscription)) bareMachine := by
  have configured : Configured none bareMachine.files {} := ⟨by rfl, by decide⟩
  have misplaced : Prepares (roleSite "npu") none bareMachine
      (.error (.wrongDeviceRole "dpu" "npu")) bareMachine :=
    @Prepares.misplaced _ (roleSite "npu") none bareMachine {} ⟨0⟩ bareMachine (some "npu") ()
      configured (openUrl_roleSite "npu" bareMachine).1 (by rfl) (by decide)
  have cleared : Cleared (roleSite "dpu") {} bareMachine bareMachine :=
    @Cleared.intro _ (roleSite "dpu") {} bareMachine ⟨0⟩ bareMachine (.bulk (Utf8.encode "dpu")) ()
      (openUrl_roleSite "dpu" bareMachine).1 rfl (Utf8.decode?_encode "dpu")
  have heeded : Heeded (roleSite "dpu") bareMachine bareMachine :=
    @Heeded.intro _ (roleSite "dpu") bareMachine () () rfl rfl
  obtain ⟨-, runs, watched, refused, -, -⟩ :=
    dump_guarded (roleSite "npu") none ⟨true, 1000, 60, true⟩ 9 ⟨bareMachine, []⟩
  obtain ⟨result_eq, files_eq, -, unrun⟩ := refused _ _ misplaced
  refine ⟨misplaced, result_eq, files_eq, ?_, _, _,
    @Prepares.ready _ (roleSite "dpu") none bareMachine {} ⟨0⟩ ⟨0⟩ bareMachine bareMachine
      bareMachine bareMachine (.status "OK") () configured cleared heeded
      (openUrl_roleSite "dpu" bareMachine).2 (openUrl_roleSite "dpu" bareMachine).2 rfl
      (fun text h => nomatch h)⟩
  rw [watched, unrun]
  rfl

end FlowDump.CommandLine
