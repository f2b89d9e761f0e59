import FlowDump.Proofs.Files.AtomicWrite
import FlowDump.Trigger
import Mathlib.Data.List.Infix
import Mathlib.Logic.Function.Basic

/-!
# Calls that share a request path

Two programs may hand sessions to the producer at the same time and under the same request path.
Then their steps come in any order: each of them makes or empties the temporary file, writes its
document piece by piece, renames the file and runs its apply command.  The temporary path is the
same for both, which is where they get in each other's way.

* `Handle` — an open file, which stays the same file when it gets another name.
* `Calls`, `Calls.step`, `Calls.run` — some calls under way, a step of one of them, and the steps of
  a schedule.
* `run_alone` — a call that is alone does what `replace` does; `run_eq_replace` says that this is
  all that is done where the directory is there.
* `InTheWay`, `Apart` — a call is in the way of others from the moment at which it makes the
  temporary file until it has renamed it.
* `Whole`, `whole_step` — what holds of calls that keep apart, and each step keeps it.
* `found_whole` — if calls keep apart, every apply command finds a whole document.
* `found_torn` — if they do not, it may find a part of one.
-/

namespace FlowDump.AtomicWrite

open Filesystem

/-! ### Open files -/

/-- Where a path leads, if `locate` comes to a name. -/
def place? (fs : Filesystem) (path : String) : Option Location :=
  (fs.locate path).toOption.map Spot.location

/-- An `Open` path leads to where its file will be. -/
theorem place?_of_open {fs : Filesystem} {path : String} {parent : Location} {name : String}
    (opened : Open fs path parent name) : place? fs path = some (parent ++ [name]) := by
  rw [place?, opened.locate_eq]
  rfl

/-- An open file: where it stands, unless another file has taken its place, and where the next bytes
    go. -/
structure Handle where
  place? : Option Location
  position : Nat
  deriving DecidableEq

namespace Handle

/-- The `Handle` of a file that was just made or emptied. -/
def opened (fs : Filesystem) (path : String) : Handle :=
  { place? := AtomicWrite.place? fs path, position := 0 }

/-- What a piece changes: `Filesystem.overwrite` puts it where the handle is.  A file that has no
    name any more changes unseen. -/
def write (h : Handle) (fs : Filesystem) (piece : List UInt8) : Filesystem :=
  match h.place? with
  | none => fs
  | some l =>
    match fs.node? l with
    | some (.file old) =>
      fs.put l (.file (overwrite old h.position piece))
    | _ => fs

/-- The next bytes go behind a piece. -/
def advance (h : Handle) (piece : List UInt8) : Handle :=
  { h with position := h.position + piece.length }

/-- Follow a file that gets another name, or lose the one that stood there. -/
def follow (h : Handle) (source? target? : Option Location) : Handle :=
  { h with
    place? :=
      if h.place? = source? then target? else if h.place? = target? then none else h.place? }

end Handle

/-! ### Calls under way -/

/-- How far a call has come. -/
inductive Stage where
  /-- The temporary file is still to be made. -/
  | waiting
  | filling (handle : Handle) (rest : List (List UInt8))
  /-- The file was renamed, and the apply command is to be run. -/
  | applying
  | finished
  | failed
  deriving DecidableEq

/-- The open file of a call follows a renaming, by `Handle.follow`. -/
def Stage.follow (source? target? : Option Location) : Stage → Stage
  | filling h rest => filling (h.follow source? target?) rest
  | s => s

/-- Whether a call has made the temporary file and has not renamed it yet. -/
def Stage.isFilling : Stage → Bool
  | filling _ _ => true
  | _ => false

/-- Some calls under way: the files, the `Stage` of each call, and what their apply commands have
    found at the target, the latest one last. -/
structure Calls (ι : Type) where
  files : Filesystem
  stage : ι → Stage
  found : List (ι × Option Node)

namespace Calls

variable {ι : Type} [DecidableEq ι]

/-- A call comes to a `Stage`. -/
def enter (s : Calls ι) (i : ι) (stage : Stage) : Calls ι :=
  { s with stage := Function.update s.stage i stage }

/-- The files before any of the calls has begun. -/
def start (files : Filesystem) : Calls ι :=
  { files, stage := fun _ => .waiting, found := [] }

/-- A step of the call `i`; its document is written in pieces. -/
def step (target : String) (pieces : ι → List (List UInt8)) (i : ι) (s : Calls ι) : Calls ι :=
  match s.stage i with
  | .waiting =>
    match s.files.create (temporary target) with
    | .error _ => s.enter i .failed
    | .ok files =>
      { s with files }.enter i (.filling (.opened s.files (temporary target)) (pieces i))
  | .filling h (piece :: rest) =>
    { s with files := h.write s.files piece }.enter i (.filling (h.advance piece) rest)
  | .filling _ [] =>
    match s.files.rename (temporary target) target with
    | .error _ => s.enter i .failed
    | .ok files =>
      -- whoever has the temporary file open has the target open from now on
      { s with
        files
        stage := fun j => (s.stage j).follow (place? s.files (temporary target))
          (place? s.files target) }.enter i .applying
  | .applying =>
    { s with found := s.found ++ [(i, s.files.found? target)] }.enter i .finished
  | .finished => s
  | .failed => s

/-- The steps of a schedule, each one a `step` of the call that it names. -/
def run (target : String) (pieces : ι → List (List UInt8)) (schedule : List ι) (s : Calls ι) :
    Calls ι :=
  schedule.foldl (fun s i => s.step target pieces i) s

section

variable (s : Calls ι) (i j : ι) (stage : Stage)

@[simp] theorem enter_files : (s.enter i stage).files = s.files := rfl

@[simp] theorem enter_found : (s.enter i stage).found = s.found := rfl

@[simp] theorem enter_stage_self : (s.enter i stage).stage i = stage :=
  Function.update_self ..

theorem enter_stage_of_ne {j : ι} (ne : j ≠ i) : (s.enter i stage).stage j = s.stage j :=
  Function.update_of_ne ne ..

end

theorem run_cons (target : String) (pieces : ι → List (List UInt8)) (i : ι) (rest : List ι)
    (s : Calls ι) :
    s.run target pieces (i :: rest) = (s.step target pieces i).run target pieces rest := rfl

theorem run_concat (target : String) (pieces : ι → List (List UInt8)) (earlier : List ι) (i : ι)
    (s : Calls ι) :
    s.run target pieces (earlier ++ [i]) = (s.run target pieces earlier).step target pieces i :=
  List.foldl_concat ..

/-- A `step` of a call with a piece left puts it into its file and goes on. -/
theorem step_of_piece (target : String) (pieces : ι → List (List UInt8)) {s : Calls ι} {i : ι}
    {h : Handle} {piece : List UInt8} {rest : List (List UInt8)}
    (stage_eq : s.stage i = .filling h (piece :: rest)) :
    s.step target pieces i =
      { s with files := h.write s.files piece }.enter i (.filling (h.advance piece) rest) := by
  simp only [step, stage_eq]

end Calls

/-! ### A document in the temporary file -/

/-- A call has written a part of its document to the `temporary` file, through a handle, and the
    rest is still to be written. -/
inductive Filled (target : String) (document : List UInt8) (files : Filesystem) :
    Handle → (rest : List (List UInt8)) → Prop
  | intro {base : Filesystem} {parent : Location} {name : String} {old : List UInt8}
    {rest : List (List UInt8)} (opened : Open base (temporary target) parent name)
    (files_eq : files = base.put (parent ++ [name]) (.file old))
    (document_eq : old ++ rest.flatten = document) :
    Filled target document files ⟨some (parent ++ [name]), old.length⟩ rest

section

variable {target : String} {fs files files' : Filesystem} {document : List UInt8} {h : Handle}

/-- `Filesystem.overwrite` at the end of a file puts bytes behind the others. -/
theorem overwrite_end (old piece : List UInt8) :
    overwrite old old.length piece = old ++ piece := by
  have past : old.length ≤ old.length + piece.length := by omega
  rw [overwrite, List.take_length, Nat.sub_self, List.replicate_zero,
    List.append_nil, List.drop_eq_nil_of_le past, List.append_nil]

/-- A `Handle` at the end of a file writes behind what is there. -/
theorem write_end (base : Filesystem) (parent : Location) (name : String)
    (old piece : List UInt8) :
    Handle.write ⟨some (parent ++ [name]), old.length⟩ (base.put (parent ++ [name]) (.file old))
      piece = base.put (parent ++ [name]) (.file (old ++ piece)) := by
  rw [Handle.write]
  simp only [node?_put_self, overwrite_end, put_put]

/-- The temporary file has been made and is `Filled` with nothing so far.  A reader of the target
    finds what was there, unless it is its own temporary path. -/
theorem filled_of_create (created : fs.create (temporary target) = .ok files)
    (pieces : List (List UInt8)) :
    Filled target pieces.flatten files (.opened fs (temporary target)) pieces ∧
      (Distinct target → files.found? target = fs.found? target) := by
  obtain ⟨parent, name, opened, rfl⟩ := Open.of_create created
  constructor
  · rw [Handle.opened, place?_of_open opened]
    exact .intro opened rfl rfl
  · intro distinct
    exact found?_beside distinct opened []

/-- Another piece has been written, and the file is `Filled` by one more. -/
theorem Filled.write {piece : List UInt8} {rest : List (List UInt8)}
    (filled : Filled target document files h (piece :: rest)) :
    Filled target document (h.write files piece) (h.advance piece) rest ∧
      (Distinct target → (h.write files piece).found? target = files.found? target) := by
  obtain @⟨base, parent, name, old, _, opened, files_eq, document_eq⟩ := filled
  subst files_eq
  rw [write_end]
  constructor
  · rw [Handle.advance, ← List.length_append]
    refine .intro opened rfl ?_
    rw [← document_eq, List.flatten_cons, List.append_assoc]
  · intro distinct
    rw [found?_beside distinct opened, found?_beside distinct opened]

/-- A whole document is found at the target when the `Filled` file has been renamed. -/
theorem Filled.rename (filled : Filled target document files h [])
    (renamed : files.rename (temporary target) target = .ok files') :
    files'.found? target = some (.file document) := by
  obtain ⟨opened, files_eq, document_eq⟩ := filled
  obtain ⟨-, bytes, at_source, at_target⟩ := rename_found? renamed
  rw [files_eq, opened.found?_put] at at_source
  cases at_source
  rw [at_target, ← document_eq, List.flatten_nil, List.append_nil]

end

/-! ### Calls that keep apart -/

section

variable {ι : Type} {target : String} {pieces : ι → List (List UInt8)} {files files' : Filesystem}

/-- What holds of a call at a stage: what it has written so far stands in the temporary file, and
    what it has renamed stands at the target, unless another whole document has taken its place. -/
inductive Stage.Sound (target : String) (pieces : ι → List (List UInt8)) (files : Filesystem)
    (i : ι) : Stage → Prop
  | waiting : Sound target pieces files i .waiting
  | filling {h : Handle} {rest : List (List UInt8)}
    (filled : Filled target (pieces i).flatten files h rest) :
    Sound target pieces files i (.filling h rest)
  | applying (j : ι) (at_target : files.found? target = some (.file (pieces j).flatten)) :
    Sound target pieces files i .applying
  | finished : Sound target pieces files i .finished
  | failed : Sound target pieces files i .failed

/-- Where a call does not fill the temporary file, `Stage.Sound` holds of it in other files that
    show the same at the target. -/
theorem Stage.Sound.of_found? {i : ι} {stage : Stage} (sound : stage.Sound target pieces files i)
    (aside : stage.isFilling = false)
    (same : stage = .applying → files'.found? target = files.found? target) :
    stage.Sound target pieces files' i := by
  cases sound with
  | waiting => exact .waiting
  | filling filled => cases aside
  | applying j at_target => exact .applying j ((same rfl).trans at_target)
  | finished => exact .finished
  | failed => exact .failed

/-- Where a call does not fill the temporary file, it is enough for `Stage.Sound` that some whole
    document is found at the target. -/
theorem Stage.Sound.of_whole {i : ι} {stage : Stage} (aside : stage.isFilling = false) (j : ι)
    (at_target : files.found? target = some (.file (pieces j).flatten)) :
    stage.Sound target pieces files i := by
  cases stage with
  | waiting => exact .waiting
  | filling h rest => cases aside
  | applying => exact .applying j at_target
  | finished => exact .finished
  | failed => exact .failed

/-- Where a call does not fill the temporary file it has nothing open that could follow a renaming.
    -/
theorem Stage.follow_of_not_filling {stage : Stage} (aside : stage.isFilling = false)
    (source? target? : Option Location) : stage.follow source? target? = stage := by
  cases stage with
  | filling h rest => cases aside
  | _ => rfl

end

namespace Calls

variable {ι : Type} {target : String} {pieces : ι → List (List UInt8)} {s : Calls ι} {i : ι}

/-- A call is in the way of others while its `Stage` has the temporary file open.  Where the target
    is its own temporary path this takes until the apply command has been run. -/
def InTheWay (target : String) (s : Calls ι) (i : ι) : Prop :=
  (s.stage i).isFilling = true ∨ (¬ Distinct target ∧ s.stage i = .applying)

/-- No two calls are `InTheWay` of others. -/
def Apart (target : String) (s : Calls ι) : Prop :=
  ∀ i j, InTheWay target s i → InTheWay target s j → i = j

/-- What holds of calls that keep `Apart`: each of them is sound, and the apply commands have found
    whole documents. -/
structure Whole (target : String) (pieces : ι → List (List UInt8)) (s : Calls ι) : Prop where
  sound : ∀ i, (s.stage i).Sound target pieces s.files i
  found : ∀ p ∈ s.found, ∃ j, p.2 = some (.file (pieces j).flatten)

/-- Beside a call that is `InTheWay`, no other one fills the temporary file. -/
theorem not_filling_of_apart {j : ι} (apart : Apart target s) (first : InTheWay target s i)
    (ne : j ≠ i) : (s.stage j).isFilling = false := by
  by_contra filling
  exact ne (apart j i (.inl (by simpa using filling)) first)

/-- Calls of which none has begun are `Whole`. -/
theorem whole_start (files : Filesystem) : Whole target pieces (start files) where
  sound _ := .waiting
  found _ mem := nomatch mem

variable [DecidableEq ι]

/-- A call that `enter`s a stage leaves the others where they are. -/
theorem Whole.enter {stage : Stage} (sound : stage.Sound target pieces s.files i)
    (others : ∀ j, j ≠ i → (s.stage j).Sound target pieces s.files j)
    (found : ∀ p ∈ s.found, ∃ j, p.2 = some (.file (pieces j).flatten)) :
    Whole target pieces (s.enter i stage) where
  sound j := by
    by_cases same : j = i
    · subst same
      rw [enter_stage_self]
      exact sound
    · rw [enter_stage_of_ne _ _ _ same]
      exact others j same
  found := found

/-- While a call fills the temporary file, others find at the target what they found before. -/
theorem Whole.fill {files : Filesystem} {h : Handle} {rest : List (List UInt8)}
    (whole : Whole target pieces s) (filled : Filled target (pieces i).flatten files h rest)
    (same : Distinct target → files.found? target = s.files.found? target)
    (apart : Apart target ({ s with files }.enter i (.filling h rest))) :
    Whole target pieces ({ s with files }.enter i (.filling h rest)) := by
  -- who fills the temporary file is in the way of everybody else
  have first : InTheWay target ({ s with files }.enter i (.filling h rest)) i := by
    left
    rw [enter_stage_self]
    rfl
  refine .enter (.filling filled) ?_ whole.found
  intro j ne
  have aside := not_filling_of_apart apart first ne
  have stays : ({ s with files }.enter i (.filling h rest)).stage j = s.stage j :=
    enter_stage_of_ne _ _ _ ne
  rw [stays] at aside
  refine (whole.sound j).of_found? aside ?_
  intro applying
  by_cases distinct : Distinct target
  · exact same distinct
  · -- where the target is the temporary path nobody else is about to run a command
    have second : InTheWay target ({ s with files }.enter i (.filling h rest)) j :=
      .inr ⟨distinct, stays.trans applying⟩
    exact absurd (apart j i second first) ne

/-- **Every `step` of calls that keep `Apart` leaves them `Whole`.**  There is one case for each
    stage of the call that takes the step. -/
theorem whole_step (whole : Whole target pieces s) (apart : Apart target s)
    (apart' : Apart target (s.step target pieces i)) :
    Whole target pieces (s.step target pieces i) := by
  have sound := whole.sound i
  unfold step at apart' ⊢
  cases stage_eq : s.stage i with
  -- `create` empties the temporary file; a target that is the temporary path is emptied with it
  | waiting =>
    simp only [stage_eq] at apart' ⊢
    cases created : s.files.create (temporary target) with
    | error e => exact .enter .failed (fun j _ => whole.sound j) whole.found
    | ok files =>
      simp only [created] at apart' ⊢
      obtain ⟨filled, same⟩ := filled_of_create created (pieces i)
      exact whole.fill filled same apart'
  -- a piece is written behind what is there; after the last one the file is renamed
  | filling h rest =>
    rw [stage_eq] at sound
    cases sound with
    | filling filled =>
      cases rest with
      | cons piece rest =>
        simp only [stage_eq] at apart' ⊢
        obtain ⟨filled', same⟩ := filled.write
        exact whole.fill filled' same apart'
      | nil =>
        dsimp only
        cases renamed : s.files.rename (temporary target) target with
        | error e => exact .enter .failed (fun j _ => whole.sound j) whole.found
        | ok files =>
          -- nobody else was filling the file, so whoever is
          -- applying finds the whole of this document
          have at_target := filled.rename renamed
          have first : InTheWay target s i := .inl (by rw [stage_eq]; rfl)
          refine .enter (.applying i at_target) ?_ whole.found
          intro j ne
          have aside := not_filling_of_apart apart first ne
          show Stage.Sound target pieces files j ((s.stage j).follow _ _)
          rw [Stage.follow_of_not_filling aside]
          exact .of_whole aside i at_target
  -- the apply command looks at the target, where its stage says that a whole document lies
  | applying =>
    rw [stage_eq] at sound
    dsimp only
    cases sound with
    | applying j at_target =>
      refine .enter .finished (fun j _ => whole.sound j) ?_
      intro p mem
      rcases List.mem_append.mp mem with earlier | now
      · exact whole.found p earlier
      · rw [List.mem_singleton.mp now]
        exact ⟨j, at_target⟩
  | finished => exact whole
  | failed => exact whole

/-- Calls that have kept `Apart` at every moment of a schedule are `Whole` at its end. -/
theorem whole_run (files : Filesystem) (schedule : List ι)
    (apart : ∀ earlier, earlier <+: schedule →
      Apart target ((start files).run target pieces earlier)) :
    Whole target pieces ((start files).run target pieces schedule) := by
  induction schedule using List.reverseRecOn with
  | nil => exact whole_start files
  | append_singleton schedule i ih =>
    -- the moments before the last step are moments of the whole schedule
    have before : schedule <+: schedule ++ [i] := List.prefix_append _ _
    have whole := ih fun earlier shorter => apart earlier (shorter.trans before)
    have last := apart (schedule ++ [i]) (List.prefix_refl _)
    rw [run_concat] at last ⊢
    exact whole_step whole (apart schedule before) last

/-! ### A call that is alone -/

/-- A call that has failed does nothing in a `step`. -/
theorem step_of_failed (target : String) (pieces : ι → List (List UInt8))
    (stage_eq : s.stage i = .failed) : s.step target pieces i = s := by
  rw [step, stage_eq]

/-- A call that has failed takes no more steps in any `run`. -/
theorem run_of_failed (target : String) (pieces : ι → List (List UInt8))
    (stage_eq : s.stage i = .failed) (n : Nat) :
    s.run target pieces (List.replicate n i) = s := by
  induction n with
  | zero => rfl
  | succ n ih => rw [List.replicate_succ, run_cons, step_of_failed target pieces stage_eq, ih]

/-- A `run` of a call that is alone writes one piece behind the other. -/
theorem run_of_filling {base : Filesystem} {parent : Location} {name : String}
    (old : List UInt8) (rest : List (List UInt8))
    (stage_eq : s.stage i = .filling ⟨some (parent ++ [name]), old.length⟩ rest)
    (files_eq : s.files = base.put (parent ++ [name]) (.file old)) :
    ∃ h, (s.run target pieces (List.replicate rest.length i)).stage i = .filling h [] ∧
      (s.run target pieces (List.replicate rest.length i)).files =
        base.put (parent ++ [name]) (.file (old ++ rest.flatten)) := by
  induction rest generalizing s old with
  | nil =>
    rw [List.flatten_nil, List.append_nil]
    exact ⟨_, stage_eq, files_eq⟩
  | cons piece rest ih =>
    -- the handle stands at the end of what was written, where the next piece goes
    have step_eq := step_of_piece target pieces stage_eq
    have written : (s.step target pieces i).files =
        base.put (parent ++ [name]) (.file (old ++ piece)) := by
      rw [step_eq, enter_files, files_eq, write_end]
    have advanced : (s.step target pieces i).stage i =
        .filling ⟨some (parent ++ [name]), (old ++ piece).length⟩ rest := by
      rw [step_eq, enter_stage_self, Handle.advance, List.length_append]
    have later := ih (old ++ piece) advanced written
    rw [List.append_assoc, ← List.flatten_cons] at later
    exact later

/-- A `step` of a call that cannot create the temporary file leaves it failed. -/
theorem step_of_create_error (target : String) (pieces : ι → List (List UInt8))
    {e : IoFailure} (stage_eq : s.stage i = .waiting)
    (created : s.files.create (temporary target) = .error e) :
    s.step target pieces i = s.enter i .failed := by
  simp only [step, stage_eq, created]

/-- A `step` of a call that creates the temporary file leaves it all its pieces to write. -/
theorem step_of_create (target : String) (pieces : ι → List (List UInt8)) {made : Filesystem}
    (stage_eq : s.stage i = .waiting) (created : s.files.create (temporary target) = .ok made) :
    s.step target pieces i = { s with files := made }.enter i
      (.filling (.opened s.files (temporary target)) (pieces i)) := by
  simp only [step, stage_eq, created]

/-- A `step` of a call whose document is written renames it, or fails and leaves the files as they
    are. -/
theorem step_of_filled (target : String) (pieces : ι → List (List UInt8)) {h : Handle}
    (stage_eq : s.stage i = .filling h []) :
    (∃ e, s.files.rename (temporary target) target = .error e ∧
      (s.step target pieces i).stage i = .failed ∧
      (s.step target pieces i).files = s.files) ∨
    (∃ files, s.files.rename (temporary target) target = .ok files ∧
      (s.step target pieces i).stage i = .applying ∧
      (s.step target pieces i).files = files) := by
  cases renamed : s.files.rename (temporary target) target with
  | error e =>
    have failed : s.step target pieces i = s.enter i .failed := by
      simp only [step, stage_eq, renamed]
    rw [failed]
    exact .inl ⟨e, rfl, enter_stage_self .., rfl⟩
  | ok files =>
    refine .inr ⟨files, rfl, ?_, ?_⟩
    · simp only [step, stage_eq, renamed, enter_stage_self]
    · simp only [step, stage_eq, renamed, enter_files]

/-- A call that is alone does what `replace` does, up to its apply command, which it runs only if
    the document was written. -/
theorem run_alone (target : String) (pieces : ι → List (List UInt8)) (s : Calls ι) (i : ι)
    (stage_eq : s.stage i = .waiting) :
    (s.run target pieces (List.replicate ((pieces i).length + 2) i)).files =
        (replace s.files target (pieces i).flatten).2 ∧
      ((s.run target pieces (List.replicate ((pieces i).length + 2) i)).stage i = .applying ↔
        (replace s.files target (pieces i).flatten).1 = .ok ()) := by
  -- one step creates the file, one writes each piece, and the last one renames
  have turns : List.replicate ((pieces i).length + 2) i =
      i :: (List.replicate (pieces i).length i ++ [i]) := by
    rw [List.replicate_succ, List.replicate_succ']
  rw [turns, run_cons, run_concat]
  cases created : s.files.create (temporary target) with
  | error e =>
    have stays : (s.enter i .failed).stage i = .failed := enter_stage_self ..
    rw [step_of_create_error target pieces stage_eq created, run_of_failed target pieces stays,
      step_of_failed target pieces stays, stays, replace_of_create_error created]
    exact ⟨rfl, nofun, nofun⟩
  | ok made =>
    obtain ⟨parent, name, opened, rfl⟩ := Open.of_create created
    have begun := step_of_create target pieces stage_eq created
    have begun_stage : (s.step target pieces i).stage i =
        .filling ⟨some (parent ++ [name]), ([] : List UInt8).length⟩ (pieces i) := by
      rw [begun, enter_stage_self, Handle.opened, place?_of_open opened]
      rfl
    have begun_files : (s.step target pieces i).files =
        s.files.put (parent ++ [name]) (.file []) := by
      rw [begun, enter_files]
    obtain ⟨h, full_stage, full_files⟩ := run_of_filling [] (pieces i) begun_stage begun_files
    rw [List.nil_append] at full_files
    rcases step_of_filled target pieces full_stage with
      ⟨e, renamed, failed, same⟩ | ⟨files', renamed, applying, moved⟩
    · rw [failed, same, full_files]
      rw [full_files] at renamed
      rw [replace_of_rename_error opened renamed]
      exact ⟨rfl, nofun, nofun⟩
    · rw [applying, moved]
      rw [full_files] at renamed
      rw [replace_of_rename opened renamed]
      exact ⟨rfl, fun _ => rfl, fun _ => rfl⟩

end Calls

/-- Where the directory of the target is there, `AtomicWrite.run` is `replace`: nothing is done but
    writing and renaming the temporary file. -/
theorem run_eq_replace {fs : Filesystem} {target : String}
    (stands : ∀ directory, directory? target = some directory → fs.isDirectory directory = true)
    (content : List UInt8) : run fs target content = replace fs target content := by
  rw [run, prepare_of_directory stands]

/-! ### What the apply commands find -/

namespace Calls

variable {ι : Type} [DecidableEq ι]

/-- **If the calls keep `Apart`, every apply command finds a whole document** at the request path,
    its own one or that of another call.  This holds for every schedule and for every way to cut the
    documents into pieces.  The files may be any. -/
theorem found_whole (t : Trigger) (descriptors : ι → Descriptor) (pieces : ι → List (List UInt8))
    (cut : ∀ i, (pieces i).flatten = (descriptors i).bytes t.requestTable) (files : Filesystem)
    (schedule : List ι)
    (apart : ∀ earlier, earlier <+: schedule →
      Apart t.requestPath ((start files).run t.requestPath pieces earlier)) :
    ∀ p ∈ ((start files).run t.requestPath pieces schedule).found,
      ∃ j, p.2 = some (.file ((descriptors j).bytes t.requestTable)) := by
  intro p mem
  obtain ⟨j, at_target⟩ := (whole_run files schedule apart).found p mem
  rw [cut j] at at_target
  exact ⟨j, at_target⟩

/-- Two requests of one table under the request path `spool/a.json`. -/
def spooling : Trigger :=
  { requestPath := "spool/a.json", requestTable := "REQ", applyCommand := ["swssconfig"] }

/-- The requests of two calls, which differ in the session and in the flow state. -/
def requests (second : Bool) : Descriptor :=
  { session := ⟨if second then "b" else "a"⟩, flowState := second, maxFlows := 5,
    timeoutSeconds := 7 }

/-- Each of the two `requests` as one piece. -/
def documents (second : Bool) : List (List UInt8) :=
  [(requests second).bytes spooling.requestTable]

/-- The second call fills the temporary file while the first one is about to run its command: they
    keep `Apart`. -/
theorem found_whole_spool :
    (∀ i, (documents i).flatten = (requests i).bytes "REQ") ∧
    (∀ earlier, earlier <+: [false, false, false, true, true, false, true, true] →
      Apart "spool/a.json" ((start spool).run "spool/a.json" documents earlier)) ∧
    (∀ p ∈ ((start spool).run "spool/a.json" documents
        [false, false, false, true, true, false, true, true]).found,
      ∃ j, p.2 = some (.file ((requests j).bytes "REQ"))) ∧
    ((start spool).run "spool/a.json" documents
        [false, false, false, true, true, false, true, true]).found.map Prod.fst =
      [false, true] := by
  have cut : ∀ i, (documents i).flatten = (requests i).bytes "REQ" := fun i => by
    simp [documents, spooling]
  have distinct : Distinct "spool/a.json" := fun _ _ => by decide +kernel
  have filling : ∀ earlier ∈ [false, false, false, true, true, false, true, true].inits,
      ∀ i j : Bool,
        (((start spool).run "spool/a.json" documents earlier).stage i).isFilling = true →
        (((start spool).run "spool/a.json" documents earlier).stage j).isFilling = true →
          i = j := by
    decide +kernel
  have apart : ∀ earlier, earlier <+: [false, false, false, true, true, false, true, true] →
      Apart "spool/a.json" ((start spool).run "spool/a.json" documents earlier) := by
    intro earlier shorter i j first second
    have mem := (List.mem_inits _ _).mpr shorter
    rcases first with first | ⟨same, -⟩
    · rcases second with second | ⟨same, -⟩
      · exact filling earlier mem i j first second
      · exact absurd distinct same
    · exact absurd distinct same
  exact ⟨cut, apart, found_whole spooling requests documents cut spool _ apart, by decide +kernel⟩

/-- Two calls that do not keep `Apart`: the second one makes the temporary file anew before the
    first one has renamed it, so that the first one renames an empty file and its command finds
    that.  Where the request path is its own temporary path the second call needs only to begin. -/
theorem found_torn :
    ((start spool).run "spool/a.json" documents [false, false, true, false, false]).found =
      [(false, some (.file []))] ∧
    ((start spool).run "spool/a.tmp" documents [false, false, false, true, false]).found =
      [(false, some (.file []))] ∧
    ∀ j, (requests j).bytes "REQ" ≠ [] := by
  decide +kernel

end Calls

end FlowDump.AtomicWrite
