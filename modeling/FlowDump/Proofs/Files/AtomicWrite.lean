import FlowDump.Proofs.Files.Directories
import FlowDump.Proofs.Files.Temporary

/-!
# Nobody sees a part of a document

Whoever looks at the target while a document is written finds what was there before or the whole
document.  The filesystems that can be seen are those between the elementary changes, where the
document itself may be written in any pieces.

* `run_error` — the two ways in which writing a document can fail.
* `states` — the filesystems on the way, and `trail_states` says that they are.
* `replace_cases` — all that writing and renaming the temporary file can do.
* `readFile_of_run` — a document that was written can be read.
* `Finds` — what a reader may find at the target.
* `states_find` — at every moment a reader finds that.
* `exists_states_neither` — what happens where the target is its own temporary path, and where the
  directories that are made are the target.
-/

namespace FlowDump

namespace AtomicWrite

open Filesystem

/-! ### The ways to fail -/

section

variable {fs fs' : Filesystem} {target : String} {content : List UInt8} {f : Failure}

/-- The failure of `prepare` names a directory. -/
theorem prepare_error (h : prepare fs target = (.error f, fs')) :
    ∃ directory message, f = .createDirectory directory message := by
  unfold prepare at h
  split at h
  · cases h
  · split at h
    · cases h
    · cases h
      exact ⟨_, _, rfl⟩

/-- The failure of `replace` names the target. -/
theorem replace_error (h : replace fs target content = (.error f, fs')) :
    ∃ message, f = .writeFile target message := by
  unfold replace at h
  split at h
  · cases h
    exact ⟨_, rfl⟩
  · split at h
    · cases h
      exact ⟨_, rfl⟩
    · cases h

/-- `run` fails because the directory cannot be made, or because the document cannot be put in
    place. -/
theorem run_error (h : run fs target content = (.error f, fs')) :
    (∃ directory message, f = .createDirectory directory message) ∨
      ∃ message, f = .writeFile target message := by
  unfold run at h
  split at h
  · rename_i prepared
    cases h
    exact .inl (prepare_error prepared)
  · exact .inr (replace_error h)

end

/-! ### The filesystems on the way -/

/-- The filesystems on the way of `prepare`. -/
def prepareStates (fs : Filesystem) (target : String) : List Filesystem :=
  match directory? target with
  | none => []
  | some directory => statesUpTo (directory.length + 1) fs directory

/-- The filesystems that follow while pieces of the document are put at the end of a file by
    `Filesystem.append` and then the file is renamed. -/
def fillStates (fs : Filesystem) (path target : String) : List (List UInt8) → List Filesystem
  | [] => passed (fs.rename path target)
  | piece :: rest =>
    match fs.append path piece with
    | .error _ => []
    | .ok fs => fs :: fillStates fs path target rest

/-- The filesystems on the way of `replace`, where the document is written in pieces. -/
def replaceStates (fs : Filesystem) (target : String) (pieces : List (List UInt8)) :
    List Filesystem :=
  match fs.create (temporary target) with
  | .error _ => []
  | .ok fs => fs :: fillStates fs (temporary target) target pieces

/-- The filesystems on the way of `run`, where the document is written in pieces. -/
def states (fs : Filesystem) (target : String) (pieces : List (List UInt8)) : List Filesystem :=
  prepareStates fs target ++
    match prepare fs target with
    | (.error _, _) => []
    | (.ok (), fs) => replaceStates fs target pieces

/-- `prepare` goes through `prepareStates`, each of them a `Change` away from the one before. -/
theorem trail_prepareStates (fs : Filesystem) (target : String) :
    Trail fs (prepareStates fs target) (prepare fs target).2 := by
  unfold prepareStates prepare
  cases directory? target with
  | none => exact .done fs
  | some directory =>
    have made := trail_statesUpTo (directory.length + 1) fs directory
    simp only [makeDirectories]
    generalize makeUpTo (directory.length + 1) fs directory = reached at made
    obtain ⟨result, fs'⟩ := reached
    cases result <;> exact made

/-- `ensureDirectory` makes nothing where a directory is there. -/
theorem ensureDirectory_of_isDirectory {fs : Filesystem} {path : String}
    (stands : fs.isDirectory path = true) : fs.ensureDirectory path = (.ok (), fs) := by
  unfold ensureDirectory
  cases made : fs.makeDirectory path with
  | error e => simp only [stands, if_true]
  | ok fs' =>
    -- where a directory could be made there was none
    obtain ⟨parent, name, slash, leads, empty, -⟩ := makeDirectory_ok made
    have found : fs.found? path = some .directory := by
      unfold isDirectory at stands
      split at stands
      · rename_i there
        exact find_eq_ok_iff.mp there
      · cases stands
    rw [found?_of_locate leads] at found
    rw [node?_of_shown? found] at empty
    cases empty

/-- `prepare` does nothing where the directory of the target is there. -/
theorem prepare_of_directory {fs : Filesystem} {target : String}
    (stands : ∀ directory, directory? target = some directory → fs.isDirectory directory = true) :
    prepare fs target = (.ok (), fs) := by
  unfold prepare
  cases named : directory? target with
  | none => rfl
  | some directory =>
    have ensured := ensureDirectory_of_isDirectory (stands directory named)
    have nonempty : directory ≠ "" := by
      have kept := (Option.filter_eq_some_iff.mp named).2
      simpa using kept
    simp only [makeDirectories, makeUpTo, nonempty, if_false, ensured]

/-- The filesystem behind a `rename`, whether it succeeds or not. -/
def renamed (fs : Filesystem) (path target : String) : Filesystem :=
  (fs.rename path target).toOption.getD fs

theorem trail_renamed (fs : Filesystem) (path target : String) :
    Trail fs (passed (fs.rename path target)) (renamed fs path target) := by
  unfold renamed
  cases h : fs.rename path target with
  | error e => exact .done fs
  | ok fs' => exact .step (.rename _ _ h) (.done fs')

/-- A file that was put is filled and renamed through `fillStates`, piece by piece. -/
theorem trail_fillStates {fs : Filesystem} {path : String} {parent : Location} {name : String}
    (h : Open fs path parent name) (target : String) (old : List UInt8)
    (pieces : List (List UInt8)) :
    Trail (fs.put (parent ++ [name]) (.file old))
      (fillStates (fs.put (parent ++ [name]) (.file old)) path target pieces)
      (renamed (fs.put (parent ++ [name]) (.file (old ++ pieces.flatten))) path target) := by
  induction pieces generalizing old with
  | nil =>
    rw [List.flatten_nil, List.append_nil]
    exact trail_renamed ..
  | cons piece rest ih =>
    have rest_eq := ih (old ++ piece)
    rw [List.append_assoc, ← List.flatten_cons] at rest_eq
    rw [fillStates, h.append]
    exact .step (.append _ _ (h.append old piece)) rest_eq

section

variable {fs fs' : Filesystem} {target : String} {content : List UInt8} {e : IoFailure}

/-- Where the temporary file cannot be created, `replace` fails and changes nothing. -/
theorem replace_of_create_error (created : fs.create (temporary target) = .error e) :
    replace fs target content = (.error (.writeFile target e.message), fs) := by
  unfold replace
  rw [write_of_error created]

variable {parent : Location} {name : String} (opened : Open fs (temporary target) parent name)

include opened

/-- Where the temporary file cannot be renamed, `replace` fails and leaves it behind, filled. -/
theorem replace_of_rename_error
    (renamed : (fs.put (parent ++ [name]) (.file content)).rename (temporary target) target =
      .error e) :
    replace fs target content =
      (.error (.writeFile target e.message), fs.put (parent ++ [name]) (.file content)) := by
  unfold replace
  rw [opened.write content]
  simp only [renamed]

/-- Where the temporary file can be renamed, `replace` leaves what the `rename` left. -/
theorem replace_of_rename
    (renamed : (fs.put (parent ++ [name]) (.file content)).rename (temporary target) target =
      .ok fs') :
    replace fs target content = (.ok (), fs') := by
  unfold replace
  rw [opened.write content]
  simp only [renamed]

end

/-- Either the temporary file cannot be made, and `replace` does nothing, or it is made and filled,
    and then the `rename` decides. -/
theorem replace_cases (fs : Filesystem) (target : String) (content : List UInt8) :
    (∃ e e', fs.create (temporary target) = .error e ∧
      replace fs target content = (.error e', fs)) ∨
    ∃ parent name, Open fs (temporary target) parent name ∧
      fs.create (temporary target) = .ok (fs.put (parent ++ [name]) (.file [])) ∧
      (replace fs target content).2
        = renamed (fs.put (parent ++ [name]) (.file content)) (temporary target) target ∧
      ((replace fs target content).1 = .ok () →
        (fs.put (parent ++ [name]) (.file content)).rename (temporary target) target
          = .ok (replace fs target content).2) := by
  cases hc : fs.create (temporary target) with
  | error e => exact .inl ⟨e, .writeFile target e.message, rfl, replace_of_create_error hc⟩
  -- once the file is made, filling it cannot fail
  | ok created =>
    obtain ⟨parent, name, opened, rfl⟩ := Open.of_create hc
    refine .inr ⟨parent, name, opened, rfl, ?_⟩
    unfold renamed
    cases hr : (fs.put (parent ++ [name]) (.file content)).rename (temporary target) target with
    | error e =>
      rw [replace_of_rename_error opened hr]
      exact ⟨rfl, nofun⟩
    | ok fs' =>
      rw [replace_of_rename opened hr]
      exact ⟨rfl, fun _ => rfl⟩

/-- `replace` goes through `replaceStates`, however the document is cut into pieces. -/
theorem trail_replaceStates (fs : Filesystem) (target : String) (pieces : List (List UInt8)) :
    Trail fs (replaceStates fs target pieces) (replace fs target pieces.flatten).2 := by
  unfold replaceStates
  rcases replace_cases fs target pieces.flatten with ⟨e, e', hc, hr⟩ |
    ⟨parent, name, opened, hc, hr, -⟩
  · rw [hc, hr]
    exact .done fs
  · rw [hc, hr]
    exact .step (.create _ hc) (trail_fillStates opened target [] pieces)

/-- `run` goes through its `states`, each of them a `Change` away from the one before. -/
theorem trail_states (fs : Filesystem) (target : String) (pieces : List (List UInt8)) :
    Trail fs (states fs target pieces) (run fs target pieces.flatten).2 := by
  have prepared := trail_prepareStates fs target
  unfold states run
  generalize prepare fs target = reached at prepared ⊢
  obtain ⟨result, mid⟩ := reached
  cases result with
  | error e => simpa using prepared
  | ok _ => exact prepared.append (trail_replaceStates mid target pieces)

/-- **A document that `run` wrote can be read.** -/
theorem readFile_of_run {fs fs' : Filesystem} {target : String} {content : List UInt8}
    (h : run fs target content = (.ok (), fs')) : fs'.readFile target = .ok content := by
  unfold run at h
  generalize prepare fs target = reached at h
  obtain ⟨result, mid⟩ := reached
  cases result with
  | error e => cases h
  | ok _ =>
    change replace mid target content = _ at h
    rcases replace_cases mid target content with ⟨e, e', -, hr⟩ |
      ⟨parent, name, opened, -, -, hr⟩
    · rw [hr] at h
      cases h
    · rw [h] at hr
      -- what is renamed is the temporary file with the whole document
      obtain ⟨-, bytes, hsource, htarget⟩ := rename_found? (hr rfl)
      rw [opened.found?_put content] at hsource
      cases hsource
      exact readFile_eq_ok_iff.mpr (find_eq_ok_iff.mpr htarget)

/-! ### What a reader finds -/

/-- What a reader may find at the target while some content is written there. -/
inductive Finds (fs : Filesystem) (target : String) (content : List UInt8) (fs' : Filesystem) :
    Prop where
  /-- What was there before. -/
  | before (h : fs'.found? target = fs.found? target)
  /-- A file with all of the content. -/
  | whole (h : fs'.found? target = some (.file content))
  /-- A directory that was made on the way of the target, which goes up again. -/
  | directory (up : ".." ∈ Path.parts target) (h : fs'.found? target = some .directory)
  /-- What stood where the target leads now that the directories on its way are there. -/
  | opened (up : ".." ∈ Path.parts target) (spot : Spot) (way : fs'.locate target = .ok spot)
    (h : fs'.found? target = fs.shown? spot)

section

variable {fs mid fs' : Filesystem} {target : String} {content : List UInt8}

/-- What a reader `Finds` stays so under a change of files that shows the same at the target. -/
theorem Finds.of_sameDirectories (h : Finds fs target content mid) (same : SameDirectories mid fs')
    (found : fs'.found? target = mid.found? target) : Finds fs target content fs' := by
  cases h with
  | before h => exact .before (found.trans h)
  | whole h => exact .whole (found.trans h)
  | directory up h => exact .directory up (found.trans h)
  | opened up spot way h => exact .opened up spot (same.locate_iff.mpr way) (found.trans h)

/-- The directories above a target that never goes up are made beside what it leads to: `found?`
    does not change. -/
theorem found?_prepared (tree : fs.IsTree) (tree' : fs'.IsTree) {parent : String}
    (hp : Path.parent? target = some parent) (h : Prepared fs parent fs')
    (down : ".." ∉ Path.parts target) : fs'.found? target = fs.found? target := by
  obtain ⟨names_eq, absolute⟩ := Path.parent?_spec hp
  refine tree.found?_same tree' h.here_eq down ?_
  by_cases no_names : Path.names target = []
  · -- the target is where its path starts, and a directory stands there
    have stands : fs.node? (fs.destination target) = some .directory := by
      rw [destination, no_names, List.append_nil, start]
      split
      · rfl
      · exact tree.here_directory
    rw [stands, h.directory stands]
  · refine h.within (Path.parent?_down hp down) _ fun shorter => ?_
    have length := shorter.length_le
    have pos := List.length_pos_iff.mpr no_names
    rw [destination, destination, start, start, absolute, names_eq, List.length_append,
      List.length_append, List.length_dropLast] at length
    omega

/-- In `prepareStates` a reader finds what was there before, unless the target goes up. -/
theorem finds_prepared (tree : fs.IsTree) (content : List UInt8) :
    ∀ fs' ∈ prepareStates fs target, Finds fs target content fs' := by
  intro fs' h
  have tree' := ((trail_prepareStates fs target).isTree tree).2 fs' h
  unfold prepareStates at h
  split at h
  · simp at h
  · rename_i parent hd
    have hp : Path.parent? target = some parent := (Option.filter_eq_some_iff.mp hd).1
    have prepared := prepared_statesUpTo fs' h
    by_cases up : ".." ∈ Path.parts target
    · cases hl : fs'.locate target with
      | ok spot =>
        rcases prepared.found?_or hl with made | stood
        · exact .directory up made
        · exact .opened up spot hl stood
      | error e =>
        -- then the target led nowhere before either
        cases hl' : fs.locate target with
        | ok spot =>
          have kept := locate_of_directories prepared.here_eq
            (fun l _ hd => prepared.directory hd) hl'
          rw [hl] at kept
          cases kept
        | error e' => exact .before (by rw [found?_eq, found?_eq, hl, hl']; rfl)
    · exact .before (found?_prepared tree tree' hp prepared up)

/-- The temporary file of a `Distinct` target is beside what a reader finds. -/
theorem found?_beside {parent : Location} {name : String} (distinct : Distinct target)
    (opened : Open fs (temporary target) parent name) (bytes : List UInt8) :
    (fs.put (parent ++ [name]) (.file bytes)).found? target = fs.found? target := by
  refine (opened.sameDirectories bytes).found?_same fun spot hspot => ?_
  cases spot with
  | directory l => rfl
  | entry parent' name' slash =>
    rw [shown?_entry, shown?_entry, node?_put (by simp)]
    cases slash with
    | false =>
      obtain ⟨-, other⟩ := distinct.name_ne opened.locate_eq hspot
      have beside : parent ++ [name] ≠ parent' ++ [name'] :=
        fun he => other (by simpa using (List.append_inj' he rfl).2)
      rw [if_neg beside]
    | true =>
      -- behind a slash no file is found
      split
      · rfl
      · split
        · rename_i he
          have no_directory := he ▸ opened.no_directory
          cases hn : fs.node? (parent' ++ [name']) with
          | none => rfl
          | some n =>
            cases n with
            | file old => rfl
            | directory => exact absurd hn no_directory
        · rfl

/-- In `fillStates` a reader finds what was there before or all of the content. -/
theorem found?_fillStates {path : String} {parent : Location} {name : String}
    (opened : Open fs path parent name)
    (beside : ∀ bytes, (fs.put (parent ++ [name]) (.file bytes)).found? target = fs.found? target)
    (old : List UInt8) (pieces : List (List UInt8)) :
    ∀ fs' ∈ fillStates (fs.put (parent ++ [name]) (.file old)) path target pieces,
      SameDirectories fs fs' ∧ (fs'.found? target = fs.found? target ∨
        fs'.found? target = some (.file (old ++ pieces.flatten))) := by
  induction pieces generalizing old with
  | nil =>
    intro fs' h
    obtain ⟨same, bytes, hsource, htarget⟩ := rename_found? (mem_passed.mp h)
    rw [opened.found?_put old] at hsource
    cases hsource
    exact ⟨(opened.sameDirectories old).trans same, .inr (by simpa using htarget)⟩
  | cons piece rest ih =>
    rw [fillStates, opened.append, List.forall_mem_cons]
    refine ⟨⟨opened.sameDirectories _, .inl (beside _)⟩, fun fs' h => ?_⟩
    have later := ih (old ++ piece) fs' h
    rwa [List.append_assoc, ← List.flatten_cons] at later

/-- In `replaceStates` a reader of a `Distinct` target finds what was there before or the whole
    document, and no directory comes or goes. -/
theorem found?_replaceStates (distinct : Distinct target) (pieces : List (List UInt8)) :
    ∀ fs' ∈ replaceStates fs target pieces, SameDirectories fs fs' ∧
      (fs'.found? target = fs.found? target ∨
        fs'.found? target = some (.file pieces.flatten)) := by
  intro fs' h
  unfold replaceStates at h
  split at h
  · simp at h
  · rename_i created hc
    obtain ⟨parent, name, opened, rfl⟩ := Open.of_create hc
    have beside := found?_beside distinct opened
    rcases List.mem_cons.mp h with rfl | h
    · exact ⟨opened.sameDirectories [], .inl (beside [])⟩
    · exact found?_fillStates opened beside [] pieces fs' h

end

/-- **At every moment a reader of the target finds what was there before or the whole document**,
    unless the target is its own temporary path.  Only a target that goes up may also lead to a
    directory that was made on its way, or to what stood there and could not be reached before.  The
    `states` are all that there are on the way of `run`: each one is an elementary change away from
    the one before, and the last one is what is left behind. -/
theorem states_find {fs : Filesystem} (tree : fs.IsTree) {target : String}
    (distinct : Distinct target) (pieces : List (List UInt8)) :
    Trail fs (states fs target pieces) (run fs target pieces.flatten).2 ∧
    ∀ fs' ∈ states fs target pieces, fs'.IsTree ∧ Finds fs target pieces.flatten fs' := by
  have trail := trail_states fs target pieces
  refine ⟨trail, fun fs' h => ⟨(trail.isTree tree).2 fs' h, ?_⟩⟩
  have prepared : ∀ fs' ∈ prepareStates fs target, Finds fs target pieces.flatten fs' :=
    finds_prepared tree _
  rcases List.mem_append.mp h with h | h
  · exact prepared fs' h
  -- replacing starts from the last filesystem of the preparation, where the reader finds as before
  · have reached := (trail_prepareStates fs target).last_mem
    generalize prepare fs target = last at h reached
    obtain ⟨result, mid⟩ := last
    cases result with
    | error e => simp at h
    | ok _ =>
      have found_mid : Finds fs target pieces.flatten mid := by
        rcases reached with rfl | hm
        · exact .before rfl
        · exact prepared mid hm
      obtain ⟨same, found | found⟩ := found?_replaceStates distinct pieces fs' h
      · exact found_mid.of_sameDirectories same found
      · exact .whole found

/-- A directory with a document in it. -/
def spool : Filesystem :=
  (Filesystem.put ⟨[], []⟩ ["spool"] .directory).put ["spool", "a.json"] (.file [0])

theorem isTree_spool : spool.IsTree := by
  have directory : (Filesystem.put ⟨[], []⟩ ["spool"] .directory).IsTree :=
    isTree_empty.put (node?_root _) (.inl rfl)
  have above : (Filesystem.put ⟨[], []⟩ ["spool"] .directory).node? ["spool"] = some .directory :=
    rfl
  exact directory.put above (.inr (by decide))

/-- Where a document takes the place of another one in the `spool`, a reader finds the old one until
    the end. -/
theorem states_find_spool :
    spool.IsTree ∧ Distinct "spool/a.json" ∧
    (∀ fs' ∈ states spool "spool/a.json" [[1], [2]],
      fs'.IsTree ∧ Finds spool "spool/a.json" [1, 2] fs') ∧
    (states spool "spool/a.json" [[1], [2]]).map (fun fs => fs.found? "spool/a.json") =
      [some (.file [0]), some (.file [0]), some (.file [0]), some (.file [1, 2])] := by
  have distinct : Distinct "spool/a.json" := fun _ _ => by decide +kernel
  exact ⟨isTree_spool, distinct, (states_find isTree_spool distinct [[1], [2]]).2,
    by decide +kernel⟩

/-- At some moment of `run` a reader finds neither what was there before nor the whole document. -/
def Neither (fs : Filesystem) (target : String) (pieces : List (List UInt8)) : Prop :=
  ∃ fs' ∈ states fs target pieces, fs'.found? target ≠ fs.found? target ∧
    fs'.found? target ≠ some (.file pieces.flatten)

/-- There are targets at which `Neither` happens.  The directory that is made above `box/../box` is
    the target itself, and the one that is made above `a/../b` opens the way to a file that was
    there.  `a.tmp` is its own temporary path, so that it is emptied and filled in place. -/
theorem exists_states_neither :
    Neither ⟨[], []⟩ "box/../box" [[91, 93]] ∧
    Neither ⟨[(["b"], .file [0])], []⟩ "a/../b" [[91, 93]] ∧
    Neither ⟨[(["a.tmp"], .file [0])], []⟩ "a.tmp" [[91], [93]] := by
  unfold Neither
  decide +kernel

end AtomicWrite

end FlowDump
