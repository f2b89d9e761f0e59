import FlowDump.Proofs.Watch.Rules

/-!
# What the outcome of a wait rests on

A wait looks at notifications, at the clock and at the interrupt flag, but what its outcome says of
the session comes from records that were read, and from nothing else.

* `storeAnswers` — what the store answered during a wait.
* `Status.Closes` — how a status goes with these answers: the record of the last reading alone can
  end a wait as completed or failed.
* `Outcome.RestsOn` — the same for a whole outcome: its state and its path are the last ones told.
* `outcome_restsOn_answers` — every outcome of a wait rests on the answers of the store.
-/

namespace FlowDump

/-! ### Terminal records -/

namespace SessionState

/-- `SessionState.isTerminal` holds of two states. -/
theorem isTerminal_iff (s : SessionState) : s.isTerminal = true ↔ s = .completed ∨ s = .failed := by
  cases s <;> simp [isTerminal]

/-- A text that `SessionState.parse` makes a terminal state is one of two words. -/
theorem isTerminal_parse_iff (raw : String) :
    (parse raw).isTerminal = true ↔ raw = "completed" ∨ raw = "failed" := by
  unfold parse
  split
  · rename_i h
    subst h
    simp [isTerminal]
  · split
    · rename_i h
      simp [isTerminal, h]
    · split
      · rename_i h
        simp [isTerminal, h]
      · rename_i hc hf
        simp [isTerminal, hc, hf]

end SessionState

namespace StateRecord

/-- `StateRecord.isTerminal` holds of records that tell one of the two states. -/
theorem isTerminal_iff (r : StateRecord) :
    r.isTerminal = true ↔ r.state? = some .completed ∨ r.state? = some .failed := by
  unfold isTerminal
  cases r.state? with
  | none => simp
  | some s => simp [SessionState.isTerminal_iff]

/-- A record of which `isTerminal` does not hold tells neither of the two states that end a session.
    -/
theorem state?_ne_of_not_terminal {r : StateRecord} (h : r.isTerminal = false) :
    r.state? ≠ some .completed ∧ r.state? ≠ some .failed := by
  have hn : ¬ (r.state? = some .completed ∨ r.state? = some .failed) := by
    rw [← isTerminal_iff, h]
    simp
  exact not_or.mp hn

/-- `StateRecord.field?` has a value if there is a text in the field that is not empty. -/
theorem field?_eq_some_iff (fields : Members String String) (name raw : String) :
    field? fields name = some raw ↔ Members.get? fields name = some raw ∧ raw ≠ "" := by
  simp [field?, Option.filter_eq_some_iff]

/-- For `StateRecord.field?` an empty text counts as absent. -/
theorem field?_eq_none_iff (fields : Members String String) (name : String) :
    field? fields name = none ↔
      Members.get? fields name = none ∨ Members.get? fields name = some "" := by
  unfold field?
  cases Members.get? fields name with
  | none => simp
  | some raw => by_cases h : raw = "" <;> simp [h]

/-- The record that `ofFields` makes is terminal if the text of its state is one of two words. -/
theorem isTerminal_ofFields_iff (fields : Members String String) :
    (ofFields fields).isTerminal = true ↔
      Members.get? fields stateField = some "completed" ∨
        Members.get? fields stateField = some "failed" := by
  have parsed : (ofFields fields).isTerminal = true ↔
      ∃ raw, field? fields stateField = some raw ∧ (raw = "completed" ∨ raw = "failed") := by
    unfold isTerminal ofFields
    cases field? fields stateField with
    | none => simp
    | some raw => simp [SessionState.isTerminal_parse_iff]
  rw [parsed]
  constructor
  · rintro ⟨raw, hraw, rfl | rfl⟩
    · exact .inl ((field?_eq_some_iff ..).mp hraw).1
    · exact .inr ((field?_eq_some_iff ..).mp hraw).1
  · rintro (h | h)
    · exact ⟨_, (field?_eq_some_iff ..).mpr ⟨h, by decide⟩, .inl rfl⟩
    · exact ⟨_, (field?_eq_some_iff ..).mpr ⟨h, by decide⟩, .inr rfl⟩

/-- For `ofHash?` a hash without fields is no record; it has no terminal state either. -/
theorem exists_ofHash?_terminal_iff (fields : Members String String) :
    (∃ r, ofHash? fields = some r ∧ r.isTerminal = true) ↔
      Members.get? fields stateField = some "completed" ∨
        Members.get? fields stateField = some "failed" := by
  unfold ofHash?
  split
  · rename_i h
    simp [h]
  · simp [isTerminal_ofFields_iff]

end StateRecord

namespace Watch

variable {ε : Type}

/-! ### What the store answered -/

/-- What the store answered during a `wait`, in order. -/
def storeAnswers (host : Host ε) (options : Options) (session : SessionName) (limit : Nat)
    (w : World ε) : List (Except Failure (Option StateRecord)) :=
  (wait host.recording options session limit (w.keeping [])).world.outside.2.filterMap Call.read?

/-- `storeAnswers` are what the turns of the wait have read. -/
theorem storeAnswers_eq (host : Host ε) (options : Options) (session : SessionName) (limit : Nat)
    (w : World ε) :
    storeAnswers host options session limit w =
      (wait host options session limit w).turns.filterMap Turn.read? := by
  rw [storeAnswers, wait_recording, World.keeping_outside, List.nil_append,
    List.filterMap_cons_none rfl]
  induction (wait host options session limit w).turns with
  | nil => rfl
  | cons t rest ih =>
    rw [List.flatMap_cons, List.filterMap_append, ih, filterMap_read?_calls]
    cases h : t.read? <;> simp [h]

/-- The last state that answers tell. -/
def lastState? (answers : List (Option StateRecord)) : Option SessionState :=
  ((answers.filterMap id).filterMap StateRecord.state?).getLast?

/-- The last path that answers tell. -/
def lastPath? (answers : List (Option StateRecord)) : Option String :=
  ((answers.filterMap id).filterMap StateRecord.path?).getLast?

/-! ### Statuses and outcomes -/

/-- How the `Status` of an outcome goes with what the store answered. -/
structure Status.Closes (status : Status) (answers : List (Option StateRecord)) : Prop where
  completed_iff : status = .completed ↔
    ∃ r, answers.getLast? = some (some r) ∧ r.state? = some .completed
  failed_iff : status = .failed ↔
    ∃ r, answers.getLast? = some (some r) ∧ r.state? = some .failed
  /-- The wait ends with the first terminal record. -/
  earlier : ∀ r, some r ∈ answers.dropLast → r.isTerminal = false
  /-- A wait that is given up has met no terminal record. -/
  given_up : status = .timedOut ∨ status = .interrupted →
    ∀ r, some r ∈ answers → r.isTerminal = false

/-- How an `Outcome` goes with what the store answered. -/
structure Outcome.RestsOn (outcome : Outcome) (answers : List (Option StateRecord)) : Prop
    extends outcome.status.Closes answers where
  state_eq : outcome.state? = lastState? answers
  path_eq : outcome.path? = lastPath? answers

/-- Without a reading a wait can only be given up: then any such status `Closes` it. -/
theorem Status.closes_nil {status : Status} (h : status = .timedOut ∨ status = .interrupted) :
    status.Closes [] := by
  rcases h with rfl | rfl <;> constructor <;> simp

/-- One reading of a terminal record ends the wait as the record says, by `Status.ofState`. -/
theorem Status.closes_singleton {record : StateRecord} {state : SessionState}
    (state_eq : record.state? = some state) (terminal : state.isTerminal = true) :
    (Status.ofState state).Closes [some record] := by
  rcases (SessionState.isTerminal_iff state).mp terminal with rfl | rfl <;>
    constructor <;> simp [Status.ofState, state_eq]

/-- A reading of a record that is not terminal, or of none, leaves it to the later ones which status
    `Closes` the wait. -/
theorem Status.Closes.cons {status : Status} {answers : List (Option StateRecord)}
    (h : status.Closes answers) {answer : Option StateRecord}
    (not_terminal : ∀ r, answer = some r → r.isTerminal = false) :
    status.Closes (answer :: answers) := by
  cases answers with
  | nil =>
    -- no reading follows, and the new one decides nothing
    have hc : status ≠ .completed := by simpa using h.completed_iff
    have hf : status ≠ .failed := by simpa using h.failed_iff
    refine ⟨⟨fun e => absurd e hc, ?_⟩, ⟨fun e => absurd e hf, ?_⟩, by simp, ?_⟩
    · rintro ⟨r, hr, hs⟩
      exact absurd hs (StateRecord.state?_ne_of_not_terminal (not_terminal r (by simpa using hr))).1
    · rintro ⟨r, hr, hs⟩
      exact absurd hs (StateRecord.state?_ne_of_not_terminal (not_terminal r (by simpa using hr))).2
    · intro _ r hr
      exact not_terminal r (List.mem_singleton.mp hr).symm
  | cons a rest =>
    refine ⟨?_, ?_, ?_, ?_⟩
    · simpa using h.completed_iff
    · simpa using h.failed_iff
    · intro r hr
      rcases List.mem_cons.mp (by simpa using hr) with e | hm
      · exact not_terminal r e.symm
      · exact h.earlier r hm
    · intro hs r hr
      rcases List.mem_cons.mp hr with e | hm
      · exact not_terminal r e.symm
      · exact h.given_up hs r hm

/-! ### The invariant of the accumulators -/

/-- The last value that some records give: that of the first one counts where the others give
    none. -/
theorem getLast?_filterMap_cons {α β : Type} (f : α → Option β) (a : α) (l : List α)
    (before? : Option β) :
    ((a :: l).filterMap f).getLast?.or before? =
      (l.filterMap f).getLast?.or ((f a).or before?) := by
  cases h : f a with
  | none => simp [h]
  | some b =>
    rw [List.filterMap_cons_some h, List.getLast?_cons]
    cases (l.filterMap f).getLast? <;> simp

/-- What `Seen.update` makes of some records: the last state and the last path among them, and what
    was seen before where they tell none. -/
theorem foldl_update (records : List StateRecord) (seen : Seen) :
    records.foldl Seen.update seen =
      { state? := (records.filterMap StateRecord.state?).getLast?.or seen.state?
        path? := (records.filterMap StateRecord.path?).getLast?.or seen.path? } := by
  induction records generalizing seen with
  | nil => simp
  | cons r rest ih =>
    rw [List.foldl_cons, ih, getLast?_filterMap_cons, getLast?_filterMap_cons]
    rfl

/-- **The invariant of a wait.**  A chain of turns that `Follows` the rules and ends with an outcome
    has read records only, or found none; the outcome holds what these records told on top of what
    was seen before, and its status goes with them. -/
theorem Follows.outcome_eq {session : SessionName} {seen : Seen} {turns : List Turn}
    {outcome : Outcome} (h : Follows session seen turns (some (.ok outcome))) :
    ∃ answers : List (Option StateRecord),
      turns.filterMap Turn.read? = answers.map .ok ∧
      outcome = ((answers.filterMap id).foldl Seen.update seen).outcome outcome.status ∧
      outcome.status.Closes answers := by
  generalize hr : some (Except.ok outcome) = result? at h
  induction h with
  | pending seen => cases hr
  | last step =>
    cases hr
    -- a wait that ends in its first turn has read nothing, or the terminal record
    cases step with
    | stopped => exact ⟨[], rfl, rfl, Status.closes_nil (.inr rfl)⟩
    | expired now => exact ⟨[], rfl, rfl, Status.closes_nil (.inl rfl)⟩
    | ends now? maxWait event key_eq record state state_eq terminal =>
      exact ⟨[some record], rfl, rfl, Status.closes_singleton state_eq terminal⟩
  | next step tail ih =>
    obtain ⟨answers, hreads, houtcome, hcloses⟩ := ih hr
    cases step with
    | silence now? maxWait => exact ⟨answers, hreads, houtcome, hcloses⟩
    | otherKey now? maxWait event key_ne => exact ⟨answers, hreads, houtcome, hcloses⟩
    -- a read without a record tells nothing, but it is an answer
    | noRecord now? maxWait event key_eq =>
      refine ⟨none :: answers, ?_, houtcome, hcloses.cons (by simp)⟩
      simp [Turn.read?, hreads]
    -- the record is not terminal, so it closes nothing and comes before the later ones
    | goesOn now? maxWait event key_eq record not_terminal =>
      refine ⟨some record :: answers, ?_, houtcome, hcloses.cons ?_⟩
      · simp [Turn.read?, hreads]
      · rintro r ⟨⟩
        exact not_terminal

/-- A chain of turns that ends with an outcome, from nothing seen on, makes it `Outcome.RestsOn`
    what was read. -/
theorem Follows.restsOn {session : SessionName} {turns : List Turn} {outcome : Outcome}
    (h : Follows session {} turns (some (.ok outcome))) :
    ∃ answers : List (Option StateRecord),
      turns.filterMap Turn.read? = answers.map .ok ∧ outcome.RestsOn answers := by
  obtain ⟨answers, reads_eq, outcome_eq, closes⟩ := h.outcome_eq
  rw [foldl_update] at outcome_eq
  have state_eq := congrArg Outcome.state? outcome_eq
  have path_eq := congrArg Outcome.path? outcome_eq
  simp only [Seen.outcome, Option.or_none] at state_eq path_eq
  exact ⟨answers, reads_eq, closes, state_eq, path_eq⟩

/-! ### The outcome of a wait -/

/-- **The outcome of a wait rests on the records that were read.**  Whatever the flag, the clock,
    the channel and the store answer, a `wait` that ends with an outcome was never refused by the
    store, and the outcome is what the answers of the store make it.  Where a record comes from a
    hash, it is terminal by the very text of its state, and an empty text counts as absent. -/
theorem outcome_restsOn_answers (host : Host ε) (options : Options) (session : SessionName)
    (limit : Nat) (w : World ε) :
    (∀ outcome, (wait host options session limit w).result? = some (.ok outcome) →
      ∃ answers : List (Option StateRecord),
        storeAnswers host options session limit w = answers.map .ok ∧
          outcome.RestsOn answers) ∧
    (∀ fields : Members String String,
      ((StateRecord.ofFields fields).isTerminal = true ↔
        Members.get? fields StateRecord.stateField = some "completed" ∨
          Members.get? fields StateRecord.stateField = some "failed") ∧
      ((∃ r, StateRecord.ofHash? fields = some r ∧ r.isTerminal = true) ↔
        Members.get? fields StateRecord.stateField = some "completed" ∨
          Members.get? fields StateRecord.stateField = some "failed") ∧
      ((StateRecord.ofFields fields).state? = none ↔
        Members.get? fields StateRecord.stateField = none ∨
          Members.get? fields StateRecord.stateField = some "") ∧
      ((StateRecord.ofFields fields).path? = none ↔
        Members.get? fields StateRecord.pathField = none ∨
          Members.get? fields StateRecord.pathField = some "")) := by
  constructor
  · intro outcome h
    have chain := wait_follows host options session limit w
    rw [h] at chain
    obtain ⟨answers, hreads, houtcome, hcloses⟩ := chain.outcome_eq
    rw [foldl_update] at houtcome
    refine ⟨answers, ?_, hcloses, ?_, ?_⟩
    · rw [storeAnswers_eq, hreads]
    · rw [houtcome]
      simp [Seen.outcome, lastState?]
    · rw [houtcome]
      simp [Seen.outcome, lastPath?]
  · intro fields
    refine ⟨StateRecord.isTerminal_ofFields_iff fields,
      StateRecord.exists_ofHash?_terminal_iff fields, ?_, StateRecord.field?_eq_none_iff ..⟩
    simp [StateRecord.ofFields, StateRecord.field?_eq_none_iff]

/-- A host on which every wait is answered by an event of the session `s`: its record first tells a
    path, is then missing, and tells at last that the session has ended. -/
def patientHost : Host Nat where
  now n := (default, n)
  interrupted n := (false, n)
  identity n := (default, n)
  run _ _ m := (.error default, m)
  nextEvent _ m := ({ result := .ok (some { key := "s", operation := "hset" }) }, m)
  readState _ m :=
    ({ result := .ok (match m.outside with
        | 0 => some { state? := some .pending, path? := some "/a.gz" }
        | 1 => none
        | _ => some { state? := some .completed, path? := none }) },
      { m with outside := m.outside + 1 })

/-- On `patientHost` the path of the first record is still told when the last one has none. -/
theorem outcome_restsOn_answers_patientHost :
    (wait patientHost ⟨.ofMillis 5, default, .ofMillis 1⟩ ⟨"s"⟩ 9 ⟨⟨default, 0⟩, []⟩).result? =
      some (.ok ⟨.completed, some .completed, some "/a.gz"⟩) ∧
    ∃ answers : List (Option StateRecord),
      storeAnswers patientHost ⟨.ofMillis 5, default, .ofMillis 1⟩ ⟨"s"⟩ 9 ⟨⟨default, 0⟩, []⟩ =
        answers.map .ok ∧
      Outcome.RestsOn ⟨.completed, some .completed, some "/a.gz"⟩ answers :=
  have ended :
      (wait patientHost ⟨.ofMillis 5, default, .ofMillis 1⟩ ⟨"s"⟩ 9 ⟨⟨default, 0⟩, []⟩).result? =
        some (.ok ⟨.completed, some .completed, some "/a.gz"⟩) := by rfl
  ⟨ended, (outcome_restsOn_answers patientHost _ _ 9 _).1 _ ended⟩

end Watch

end FlowDump
