import FlowDump.CommandLine.Run
import FlowDump.Proofs.Config.Document
import FlowDump.Proofs.Site
import FlowDump.Proofs.Store.Server

/-!
# What comes before a session

Before the `dump` command starts a session it loads its configuration, asks the configuration
database for the role of the device, has the signals to stop set its flag, connects to the state
database twice and subscribes.  Each of these steps may fail.

* `Configured`, `Cleared`, `Heeded` — a configuration was loaded, the device has the expected role,
  and the signals set the flag.
* `Prepares` — the steps, up to the first one that fails or to the standing subscription.
* `prepare_eq` — this is what comes before a session, and `exists_prepares` says that one of these
  endings is always met.
-/

namespace FlowDump.CommandLine

open Store

variable {ε κ : Type} {site : Site ε} {configPath? : Option String}

/-! ### The configuration -/

/-- The configuration that `Config.load` gives: that of the file that is named, or of the one at
    `Config.defaultPath`. -/
def loaded (configPath? : Option String) (files : Filesystem) : Except Config.Fault Config :=
  match configPath? with
  | some path => Config.load files path true
  | none => Config.load files Config.defaultPath false

/-- `loadConfig` is `loaded` with the failure as an operator sees it. -/
theorem loadConfig_eq (configPath? : Option String) (w : World ε) :
    loadConfig configPath? w = (loaded configPath? w.files).mapError Config.Fault.failure := by
  cases configPath? <;> rfl

/-- What is `loaded` has been checked. -/
theorem check_of_loaded {files : Filesystem} {config : Config}
    (h : loaded configPath? files = .ok config) : config.check = .ok () := by
  cases configPath? with
  | none => exact Config.check_of_load h
  | some path => exact Config.check_of_load h

/-- The configuration of a command: it was `loaded`, and it passes `Config.check`. -/
structure Configured (configPath? : Option String) (files : Filesystem) (config : Config) :
    Prop where
  loaded : loaded configPath? files = .ok config
  checked : config.check = .ok ()

/-! ### The steps -/

/-- The configuration database was reached, and its answer for the role of the device was the one
    that is expected. -/
inductive Cleared (site : Site ε) (config : Config) (m : Machine ε) : Machine ε → Prop
  | intro {c : Connection} {m₁ : Machine ε} {reply : Reply} {outside : ε} :
    site.server.openUrl config.configDbUrl m = (.ok c, m₁) →
    site.server.ask c ["HGET", "DEVICE_METADATA|localhost", "switch_type"] m₁.outside
      = (.ok reply, outside) →
    reply.text? = some config.expectedSwitchType →
    Cleared site config m { m₁ with outside }

/-- The interrupt flag is set from here on by the signals of `Signal.stopping`. -/
inductive Heeded (site : Site ε) (m : Machine ε) : Machine ε → Prop
  | intro {outside₁ outside₂ : ε} :
    site.register .interrupt m.outside = (.ok (), outside₁) →
    site.register .terminate outside₁ = (.ok (), outside₂) →
    Heeded site m { m with outside := outside₂ }

/-- One of the signals of `Signal.stopping` cannot be had: the first one, or the second one after
    it. -/
inductive Unheeded (site : Site ε) (m : Machine ε) : IoFailure → Machine ε → Prop
  | interrupt {e : IoFailure} {outside : ε} :
    site.register .interrupt m.outside = (.error e, outside) →
    Unheeded site m e { m with outside }
  | terminate {e : IoFailure} {outside₁ outside₂ : ε} :
    site.register .interrupt m.outside = (.ok (), outside₁) →
    site.register .terminate outside₁ = (.error e, outside₂) →
    Unheeded site m e { m with outside := outside₂ }

/-- The steps of `prepare` from a machine on: what they come to, and the machine after them.  The
    first one that fails is the last one. -/
inductive Prepares (site : Site ε) (configPath? : Option String) (m : Machine ε) :
    Except Failure (Config × StateTable × Subscription) → Machine ε → Prop
  | unconfigured {fault : Config.Fault} :
    loaded configPath? m.files = .error fault →
    Prepares site configPath? m (.error fault.failure) m
  /-- There is no connection to the configuration database. -/
  | unconnected {config : Config} {e : Failure} {m₁ : Machine ε} :
    Configured configPath? m.files config →
    site.server.openUrl config.configDbUrl m = (.error e, m₁) →
    Prepares site configPath? m (.error e) m₁
  /-- The question for the role failed. -/
  | unanswered {config : Config} {c : Connection} {m₁ : Machine ε} {e : Failure} {outside : ε} :
    Configured configPath? m.files config →
    site.server.openUrl config.configDbUrl m = (.ok c, m₁) →
    site.server.readSwitchType c m₁.outside = (.error e, outside) →
    Prepares site configPath? m (.error e) { m₁ with outside }
  /-- The device has another role, or none. -/
  | misplaced {config : Config} {c : Connection} {m₁ : Machine ε} {role? : Option String}
    {outside : ε} :
    Configured configPath? m.files config →
    site.server.openUrl config.configDbUrl m = (.ok c, m₁) →
    site.server.readSwitchType c m₁.outside = (.ok role?, outside) →
    role? ≠ some config.expectedSwitchType →
    Prepares site configPath? m
      (.error (.wrongDeviceRole config.expectedSwitchType (role?.getD "unset")))
      { m₁ with outside }
  /-- A signal cannot be had. -/
  | unheeded {config : Config} {m₁ m₂ : Machine ε} {e : IoFailure} :
    Configured configPath? m.files config → Cleared site config m m₁ → Unheeded site m₁ e m₂ →
    Prepares site configPath? m
      (.error (.internal ("cannot install signal handler: " ++ e.message))) m₂
  /-- There is no first connection to the state database. -/
  | unread {config : Config} {m₁ m₂ m₃ : Machine ε} {e : Failure} :
    Configured configPath? m.files config → Cleared site config m m₁ → Heeded site m₁ m₂ →
    site.server.openUrl config.stateDbUrl m₂ = (.error e, m₃) →
    Prepares site configPath? m (.error e) m₃
  /-- There is no second one. -/
  | unheard {config : Config} {records : Connection} {m₁ m₂ m₃ m₄ : Machine ε} {e : Failure} :
    Configured configPath? m.files config → Cleared site config m m₁ → Heeded site m₁ m₂ →
    site.server.openUrl config.stateDbUrl m₂ = (.ok records, m₃) →
    site.server.openUrl config.stateDbUrl m₃ = (.error e, m₄) →
    Prepares site configPath? m (.error e) m₄
  /-- The subscription failed. -/
  | unsubscribed {config : Config} {records messages : Connection} {m₁ m₂ m₃ m₄ : Machine ε}
    {e : Failure} {outside : ε} :
    Configured configPath? m.files config → Cleared site config m m₁ → Heeded site m₁ m₂ →
    site.server.openUrl config.stateDbUrl m₂ = (.ok records, m₃) →
    site.server.openUrl config.stateDbUrl m₃ = (.ok messages, m₄) →
    site.server.request messages "subscribe"
      ["PSUBSCRIBE", pattern config.stateDbIndex config.stateTable] (fun _ => some ()) m₄.outside
        = (.error e, outside) →
    Prepares site configPath? m (.error e) { m₄ with outside }
  /-- The subscription stands. -/
  | ready {config : Config} {records messages : Connection} {m₁ m₂ m₃ m₄ : Machine ε}
    {reply : Reply} {outside : ε} :
    Configured configPath? m.files config → Cleared site config m m₁ → Heeded site m₁ m₂ →
    site.server.openUrl config.stateDbUrl m₂ = (.ok records, m₃) →
    site.server.openUrl config.stateDbUrl m₃ = (.ok messages, m₄) →
    site.server.ask messages ["PSUBSCRIBE", pattern config.stateDbIndex config.stateTable]
      m₄.outside = (.ok reply, outside) →
    (∀ text, reply ≠ .error text) →
    Prepares site configPath? m
      (.ok (config, { connection := records, name := config.stateTable },
        { connection := messages, stem := channelStem config.stateDbIndex config.stateTable }))
      { m₄ with outside }

/-! ### The steps as they are taken -/

/-- What is remarked in the steps: the `Subscription`, if it stands. -/
def remarks : Except Failure (Config × StateTable × Subscription) → List Log.Note
  | .error _ => []
  | .ok (config, _) => [Subscription.note (pattern config.stateDbIndex config.stateTable)]

/-- What the steps come to, as what a session starts with: the configuration, and its `Site.host`.
    -/
def hosted (site : Site ε) (prepared : Except Failure (Config × StateTable × Subscription)) :
    Except Failure (Config × Host ε) :=
  prepared.map fun (config, table, subscription) => (config, site.host table subscription)

section

variable {config : Config} {w : World ε} {m₁ m₂ m₃ m₄ : Machine ε} {c : Connection}

/-- A device that is `Cleared` passes its check. -/
theorem checkDevice_of_cleared (h : Cleared site config w.toMachine m₁) :
    checkDevice site config w = (.ok (), { w with toMachine := m₁ }) := by
  obtain ⟨opened, asked, text_eq⟩ := h
  have read := readSwitchType_eq_iff.mpr ⟨_, asked, text_eq⟩
  simp [checkDevice, World.machineStep, readRole, bind, StateT.bind, opened, Machine.outsideStep,
    read, Except.bind, Dump.checkRole]

/-- Where the configuration database cannot be reached, `checkDevice` fails. -/
theorem checkDevice_of_unconnected {e : Failure}
    (opened : site.server.openUrl config.configDbUrl w.toMachine = (.error e, m₁)) :
    checkDevice site config w = (.error e, { w with toMachine := m₁ }) := by
  simp only [checkDevice, World.machineStep, readRole, bind, StateT.bind, opened]
  rfl

/-- Where it can be reached, its answer for the role decides `checkDevice`. -/
theorem checkDevice_of_answer {answer : Except Failure (Option String)} {outside : ε}
    (opened : site.server.openUrl config.configDbUrl w.toMachine = (.ok c, m₁))
    (read : site.server.readSwitchType c m₁.outside = (answer, outside)) :
    checkDevice site config w = (answer.bind (Dump.checkRole config.expectedSwitchType),
      { w with toMachine := { m₁ with outside } }) := by
  simp [checkDevice, World.machineStep, readRole, bind, StateT.bind, opened, Machine.outsideStep,
    read]

/-- Where the signals are `Heeded`, `heedSignals` succeeds and tells nothing. -/
theorem heedSignals_of_heeded (h : Heeded site m₁ m₂) (log : List Log.Event) :
    heedSignals site ⟨m₁, log⟩ = (.ok (), ⟨m₂, log⟩) := by
  obtain ⟨first, second⟩ := h
  simp only [heedSignals, World.outsideStep, Signal.stopping, Site.heed, bind, StateT.bind, first,
    second]
  rfl

/-- Where one of the signals is `Unheeded`, `heedSignals` fails with the `signalFailure` of its
    error. -/
theorem heedSignals_of_unheeded {e : IoFailure} (h : Unheeded site m₁ e m₂)
    (log : List Log.Event) :
    heedSignals site ⟨m₁, log⟩ = (.error (signalFailure e), ⟨m₂, log⟩) := by
  cases h with
  | interrupt first =>
    simp only [heedSignals, World.outsideStep, Signal.stopping, Site.heed, bind, StateT.bind, first]
    rfl
  | terminate first second =>
    simp only [heedSignals, World.outsideStep, Signal.stopping, Site.heed, bind, StateT.bind, first,
      second]
    rfl

/-- Where the state database cannot be reached for the records, `openState` fails. -/
theorem openState_of_unread {e : Failure}
    (opened : site.server.openUrl config.stateDbUrl m₂ = (.error e, m₃)) (log : List Log.Event) :
    openState site config ⟨m₂, log⟩ = (.error e, ⟨m₃, log⟩) := by
  have connected : connectTwice site config m₂ = (.error e, m₃) := by
    simp only [connectTwice, bind, StateT.bind, opened]
    rfl
  simp only [openState, World.machineStep, connected]

/-- Where the state database cannot be reached for the messages, `openState` fails. -/
theorem openState_of_unheard {records : Connection} {e : Failure}
    (opened : site.server.openUrl config.stateDbUrl m₂ = (.ok records, m₃))
    (opened' : site.server.openUrl config.stateDbUrl m₃ = (.error e, m₄))
    (log : List Log.Event) :
    openState site config ⟨m₂, log⟩ = (.error e, ⟨m₄, log⟩) := by
  have connected : connectTwice site config m₂ = (.error e, m₄) := by
    simp only [connectTwice, bind, StateT.bind, opened, opened']
    rfl
  simp only [openState, World.machineStep, connected]

/-- Where the state database is reached twice, the subscription decides `openState`. -/
theorem openState_of_answer {records messages : Connection} {outside : ε}
    {answer : Answer Subscription}
    (opened : site.server.openUrl config.stateDbUrl m₂ = (.ok records, m₃))
    (opened' : site.server.openUrl config.stateDbUrl m₃ = (.ok messages, m₄))
    (started : Subscription.start site.server messages config.stateDbIndex config.stateTable
      m₄.outside = (answer, outside)) (log : List Log.Event) :
    openState site config ⟨m₂, log⟩ =
      (answer.result.map (site.host { connection := records, name := config.stateTable }),
        ⟨{ m₄ with outside }, log ++ answer.notes.map .note⟩) := by
  have connected : connectTwice site config m₂ = (.ok (records, messages), m₄) := by
    simp only [connectTwice, bind, StateT.bind, opened, opened']
    rfl
  simp only [openState, World.machineStep, connected, World.outsideStep, started]
  rfl

/-! ### All steps -/

/-- Where `checkDevice` fails, `prepare` stops. -/
theorem prepare_of_denied {w' : World ε} {e : Failure}
    (configured : Configured configPath? w.files config)
    (denied : checkDevice site config w = (.error e, w')) :
    prepare site configPath? w = (.error e, w') := by
  simp only [prepare, loadConfig_eq, configured.loaded, Except.mapError, denied]

/-- Where a signal is `Unheeded`, `prepare` stops, and the state database is not asked. -/
theorem prepare_of_unheeded {e : IoFailure} (configured : Configured configPath? w.files config)
    (cleared : Cleared site config w.toMachine m₁) (unheeded : Unheeded site m₁ e m₂) :
    prepare site configPath? w = (.error (signalFailure e), ⟨m₂, w.log⟩) := by
  simp only [prepare, loadConfig_eq, configured.loaded, Except.mapError,
    checkDevice_of_cleared cleared, heedSignals_of_unheeded unheeded]

/-- Where the signals are `Heeded`, what is left of `prepare` is `openState`. -/
theorem prepare_of_heeded (configured : Configured configPath? w.files config)
    (cleared : Cleared site config w.toMachine m₁) (heeded : Heeded site m₁ m₂) :
    prepare site configPath? w =
      ((openState site config ⟨m₂, w.log⟩).1.map fun host => (config, host),
        (openState site config ⟨m₂, w.log⟩).2) := by
  simp only [prepare, loadConfig_eq, configured.loaded, Except.mapError,
    checkDevice_of_cleared cleared, heedSignals_of_heeded heeded]
  rcases openState site config ⟨m₂, w.log⟩ with ⟨answer, w'⟩
  cases answer <;> rfl

/-- `prepare` takes the steps of `Prepares`, and tells their remarks. -/
theorem prepare_eq {prepared : Except Failure (Config × StateTable × Subscription)}
    {m' : Machine ε} (h : Prepares site configPath? w.toMachine prepared m') :
    prepare site configPath? w =
      (hosted site prepared, ⟨m', w.log ++ (remarks prepared).map .note⟩) := by
  have unremarked : w.log ++ ([] : List Log.Note).map .note = w.log := List.append_nil _
  -- each ending fixes the answers up to it, and what is left of `prepare` behind them is evaluated
  cases h with
  | unconfigured failed =>
    simp only [prepare, loadConfig_eq, failed, Except.mapError, hosted, remarks, unremarked]
    rfl
  | unconnected configured opened =>
    rw [prepare_of_denied configured (checkDevice_of_unconnected opened), remarks, unremarked]
    rfl
  | unanswered configured opened read =>
    rw [prepare_of_denied configured (checkDevice_of_answer opened read), remarks, unremarked]
    rfl
  | misplaced configured opened read other =>
    have denied := checkDevice_of_answer opened read
    simp only [Except.bind, Dump.checkRole, if_neg other] at denied
    rw [prepare_of_denied configured denied, remarks, unremarked]
    rfl
  | unheeded configured cleared unheeded =>
    rw [prepare_of_unheeded configured cleared unheeded, remarks, unremarked]
    rfl
  | unread configured cleared heeded opened =>
    rw [prepare_of_heeded configured cleared heeded, openState_of_unread opened, remarks,
      unremarked]
    rfl
  | unheard configured cleared heeded opened opened' =>
    rw [prepare_of_heeded configured cleared heeded, openState_of_unheard opened opened', remarks,
      unremarked]
    rfl
  | unsubscribed configured cleared heeded opened opened' asked =>
    rw [prepare_of_heeded configured cleared heeded,
      openState_of_answer opened opened' (start_of_error asked)]
    rfl
  | ready configured cleared heeded opened opened' asked no_error =>
    have stands := subscribe_eq_iff.mpr ⟨_, asked, no_error⟩
    rw [prepare_of_heeded configured cleared heeded,
      openState_of_answer opened opened' (start_of_ok stands)]
    rfl

/-- The signals to stop are `Heeded`, or one of them is `Unheeded`. -/
theorem heeded_or_unheeded (site : Site ε) (m : Machine ε) :
    (∃ m', Heeded site m m') ∨ ∃ e m', Unheeded site m e m' := by
  rcases first : site.register .interrupt m.outside with ⟨answer, outside₁⟩
  cases answer with
  | error e => exact .inr ⟨e, _, .interrupt first⟩
  | ok _ =>
    rcases second : site.register .terminate outside₁ with ⟨answer, outside₂⟩
    cases answer with
    | error e => exact .inr ⟨e, _, .terminate first second⟩
    | ok _ => exact .inl ⟨_, first, second⟩

/-- One of the endings of `Prepares` is met on a device that is `Cleared`, once the signals are
    `Heeded`. -/
theorem exists_prepares_of_heeded {m : Machine ε}
    (configured : Configured configPath? m.files config) (cleared : Cleared site config m m₁)
    (heeded : Heeded site m₁ m₂) :
    ∃ prepared m', Prepares site configPath? m prepared m' := by
  -- the answers are gone through in the order in which they are asked for
  rcases opened : site.server.openUrl config.stateDbUrl m₂ with ⟨answer, m₃⟩
  cases answer with
  | error e => exact ⟨_, _, .unread configured cleared heeded opened⟩
  | ok records =>
    rcases opened' : site.server.openUrl config.stateDbUrl m₃ with ⟨answer, m₄⟩
    cases answer with
    | error e => exact ⟨_, _, .unheard configured cleared heeded opened opened'⟩
    | ok messages =>
      rcases asked : site.server.request messages "subscribe"
        ["PSUBSCRIBE", pattern config.stateDbIndex config.stateTable] (fun _ => some ())
        m₄.outside with ⟨answer, outside⟩
      cases answer with
      | error e => exact ⟨_, _, .unsubscribed configured cleared heeded opened opened' asked⟩
      | ok _ =>
        obtain ⟨reply, asked, no_error⟩ := subscribe_eq_iff.mp asked
        exact ⟨_, _, .ready configured cleared heeded opened opened' asked no_error⟩

/-- One of the endings of `Prepares` is always met. -/
theorem exists_prepares (site : Site ε) (configPath? : Option String) (m : Machine ε) :
    ∃ prepared m', Prepares site configPath? m prepared m' := by
  cases hload : loaded configPath? m.files with
  | error fault => exact ⟨_, _, .unconfigured hload⟩
  | ok config =>
    have configured : Configured configPath? m.files config := ⟨hload, check_of_loaded hload⟩
    rcases opened : site.server.openUrl config.configDbUrl m with ⟨answer, m₁⟩
    cases answer with
    | error e => exact ⟨_, _, .unconnected configured opened⟩
    | ok c =>
      rcases read : site.server.readSwitchType c m₁.outside with ⟨answer, outside⟩
      cases answer with
      | error e => exact ⟨_, _, .unanswered configured opened read⟩
      | ok role? =>
        -- the only step that is decided on the text of an answer
        by_cases expected : role? = some config.expectedSwitchType
        · subst expected
          obtain ⟨reply, asked, text_eq⟩ := readSwitchType_eq_iff.mp read
          have cleared : Cleared site config m { m₁ with outside } := ⟨opened, asked, text_eq⟩
          rcases heeded_or_unheeded site { m₁ with outside } with ⟨m₂, heeded⟩ | ⟨e, m₂, unheeded⟩
          · exact exists_prepares_of_heeded configured cleared heeded
          · exact ⟨_, _, .unheeded configured cleared unheeded⟩
        · exact ⟨_, _, .misplaced configured opened read expected⟩

end

end FlowDump.CommandLine
