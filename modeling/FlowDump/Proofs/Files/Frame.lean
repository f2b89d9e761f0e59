import FlowDump.Proofs.Files.AtomicWrite
import Mathlib.Control.Monad.Basic

/-!
# What a call leaves alone

A document is written to a target that never goes up, and whose temporary path leads to another
place.  Then the call changes what stands at these two places and makes directories above them, and
nothing else.  The target changes only if the call succeeds.

* `GrownTo`, `grownTo_prepare` — all that making the directory can do.
* `replaced` — all that writing and renaming the temporary file can do.
* `Elsewhere`, `Frame` — the places that a call leaves alone, and what that means for a reader.
* `Effect`, `effect_run` — what is left behind by a call that succeeds and by one that fails.
* `Ready` — what is enough for a call to succeed.
* `runAll` — calls with one target, one after the other.
* `run_atomic` — what a call does, and what some calls do to their target.
-/

namespace FlowDump.AtomicWrite

open Filesystem

/-! ### Making the directory -/

/-- A filesystem that has `Grown`, and only on the way to a place. -/
structure GrownTo (fs : Filesystem) (place : Location) (fs' : Filesystem) : Prop
    extends Grown fs fs' where
  within : ∀ l, ¬ l <+: place → fs'.node? l = fs.node? l

section

variable {fs mid : Filesystem} {target : String} {directory : Location} {name other : String}

/-- `AtomicWrite.prepare` makes directories on the way to that of the target, and nothing else. -/
theorem grownTo_prepare (down : ".." ∉ Path.parts target)
    (beside : Beside fs target directory name other) :
    GrownTo fs directory (prepare fs target).2 := by
  rcases (trail_prepareStates fs target).last_mem with same | mem
  · rw [same]
    exact ⟨.refl fs, fun _ _ => rfl⟩
  · unfold prepareStates at mem
    split at mem
    · cases mem
    · rename_i parent hd
      have hp : Path.parent? target = some parent := (Option.filter_eq_some_iff.mp hd).1
      have prepared := prepared_statesUpTo _ mem
      refine ⟨prepared.toGrown, fun l aside => prepared.within (Path.parent?_down hp down) l ?_⟩
      rwa [beside.parent_eq parent hp]

end

/-! ### Writing and renaming -/

/-- All that `AtomicWrite.replace` can do, where it and the target have two names in one directory:
    nothing, a temporary file that is left behind, or the whole document. -/
inductive Replaced (fs : Filesystem) (target : String) (content : List UInt8)
    (directory : Location) (name other : String) : Except Failure Unit → Filesystem → Prop where
  | nothing (message : String) :
    Replaced fs target content directory name other (.error (.writeFile target message)) fs
  | leftover (message : String) (free : fs.node? (directory ++ [other]) ≠ some .directory) :
    Replaced fs target content directory name other (.error (.writeFile target message))
      (fs.put (directory ++ [other]) (.file content))
  | whole (down : ".." ∉ Path.parts (temporary target))
    (free : fs.node? (directory ++ [other]) ≠ some .directory)
    (free' : fs.node? (directory ++ [name]) ≠ some .directory) :
    Replaced fs target content directory name other (.ok ())
      (((fs.put (directory ++ [other]) (.file content)).remove (directory ++ [other])).put
        (directory ++ [name]) (.file content))

section

variable {fs fs' : Filesystem} {target : String} {content : List UInt8} {directory : Location}
  {name other : String} {result : Except Failure Unit}

/-- `AtomicWrite.replace` does one of the things that `Replaced` lists. -/
theorem replaced (down : ".." ∉ Path.parts target)
    (beside : Beside fs target directory name other) (content : List UInt8) :
    Replaced fs target content directory name other (replace fs target content).1
      (replace fs target content).2 := by
  cases created : fs.create (temporary target) with
  | error e =>
    rw [replace_of_create_error created]
    exact .nothing e.message
  | ok _ =>
    obtain ⟨parent, name', opened, rfl⟩ := Open.of_create created
    obtain ⟨down', place⟩ := beside.location_eq opened.locate_eq
    have free := place ▸ opened.no_directory
    have filled_eq : fs.put (parent ++ [name']) (.file content)
        = fs.put (directory ++ [other]) (.file content) := by rw [place]
    cases renamed :
        (fs.put (parent ++ [name']) (.file content)).rename (temporary target) target with
    | error e =>
      rw [replace_of_rename_error opened renamed, filled_eq]
      exact .leftover e.message free
    | ok fs' =>
      rw [replace_of_rename opened renamed]
      rw [filled_eq] at renamed
      obtain ⟨sourceParent, sourceName, targetParent, targetName, bytes, hsource, -, htarget, -,
        hfile, no_directory, rfl⟩ := rename_ok renamed
      have same := sameDirectories_put free content
      -- both paths lead where they spell it out
      have source_eq : sourceParent ++ [sourceName] = directory ++ [other] :=
        (beside.location_eq (same.locate_iff.mp hsource)).2
      have target_eq : targetParent ++ [targetName] = directory ++ [name] := by
        rw [← beside.target_eq]
        exact location_of_locate down (same.locate_iff.mp htarget)
      rw [source_eq, node?_put_self] at hfile
      cases hfile
      rw [target_eq] at no_directory ⊢
      rw [source_eq]
      exact .whole down' free fun stands => no_directory ((same.directory_iff _).mpr stands)

namespace Replaced

/-- `Replaced` changes files only. -/
theorem sameDirectories (h : Replaced fs target content directory name other result fs') :
    SameDirectories fs fs' := by
  cases h with
  | nothing message => exact .refl fs
  | leftover message free => exact sameDirectories_put free content
  | whole down free free' =>
    have filled := sameDirectories_put free content
    have removed := filled.trans (sameDirectories_remove
      (fun stands => free ((filled.directory_iff _).mp stands)))
    exact removed.trans (sameDirectories_put
      (fun stands => free' ((removed.directory_iff _).mp stands)) content)

/-- `Replaced` leaves everything alone but the two files. -/
theorem node?_eq (h : Replaced fs target content directory name other result fs') {l : Location}
    (not_target : l ≠ directory ++ [name]) (not_temporary : l ≠ directory ++ [other]) :
    fs'.node? l = fs.node? l := by
  cases h with
  | nothing message => rfl
  | leftover message free => rw [node?_put (by simp), if_neg not_temporary.symm]
  | whole down free free' =>
    rw [node?_put (by simp), if_neg not_target.symm, node?_remove (by simp),
      if_neg not_temporary.symm, node?_put (by simp), if_neg not_temporary.symm]

/-- Where `Replaced` ends with a failure the target is as it was, and the failure names it. -/
theorem of_error {f : Failure}
    (h : Replaced fs target content directory name other (.error f) fs') (ne : other ≠ name) :
    (∃ message, f = .writeFile target message) ∧
      fs'.node? (directory ++ [name]) = fs.node? (directory ++ [name]) := by
  cases h with
  | nothing message => exact ⟨⟨message, rfl⟩, rfl⟩
  | leftover message free =>
    refine ⟨⟨message, rfl⟩, ?_⟩
    rw [node?_put (by simp), if_neg (by simpa using ne)]

/-- Where `Replaced` ends well the document stands at the target, and no temporary file is left. -/
theorem of_ok (h : Replaced fs target content directory name other (.ok ()) fs')
    (ne : other ≠ name) : ".." ∉ Path.parts (temporary target) ∧
      fs'.node? (directory ++ [name]) = some (.file content) ∧
      fs'.node? (directory ++ [other]) = none := by
  cases h with
  | whole down free free' =>
    refine ⟨down, node?_put_self .., ?_⟩
    rw [node?_put (by simp), if_neg (by simpa using ne.symm), node?_remove (by simp), if_pos rfl]

end Replaced

end

/-! ### The whole call -/

/-- A directory that has come on the way to the directory of the target. -/
structure Made (fs : Filesystem) (target : String) (fs' : Filesystem) (l : Location) : Prop where
  above : l <+: (fs.destination target).dropLast
  missing : fs.node? l = none
  stands : fs'.node? l = some .directory

/-- A place that is neither that of the target nor that of its `temporary` file, and where nothing
    was `Made`. -/
structure Elsewhere (fs : Filesystem) (target : String) (fs' : Filesystem) (l : Location) :
    Prop where
  ne_target : l ≠ fs.destination target
  ne_temporary : l ≠ fs.destination (temporary target)
  not_made : ¬ Made fs target fs' l

/-- What stands `Elsewhere` stays, and readers find it as before. -/
structure Frame (fs : Filesystem) (target : String) (fs' : Filesystem) : Prop where
  tree : fs'.IsTree
  here_eq : fs'.here = fs.here
  node?_eq : ∀ l, Elsewhere fs target fs' l → fs'.node? l = fs.node? l
  /-- Paths lead where they led. -/
  locate_eq : ∀ path spot, fs.locate path = .ok spot → fs'.locate path = .ok spot
  /-- A path that never goes up need not have led anywhere. -/
  found?_down : ∀ path, ".." ∉ Path.parts path → Elsewhere fs target fs' (fs.destination path) →
    fs'.found? path = fs.found? path
  /-- Any other path has to, since a directory that has come may open its way. -/
  found?_eq : ∀ path spot, fs.locate path = .ok spot → Elsewhere fs target fs' spot.location →
    fs'.found? path = fs.found? path

/-- What a call of `AtomicWrite.run` leaves behind. -/
structure Effect (fs : Filesystem) (target : String) (content : List UInt8)
    (result : Except Failure Unit) (fs' : Filesystem) : Prop where
  /-- It succeeds, or it fails in one of two ways. -/
  outcome : result = .ok () ∨
    (∃ directory message, result = .error (.createDirectory directory message)) ∨
    ∃ message, result = .error (.writeFile target message)
  /-- If it succeeds, the target is a file with the content, and there is no temporary file. -/
  written : result = .ok () → fs'.readFile target = .ok content ∧
    fs'.node? (fs.destination target) = some (.file content) ∧
    fs'.node? (fs.destination (temporary target)) = none ∧ fs'.found? (temporary target) = none
  /-- If the directory could not be made, all files are as before, and everything else but the
      directories that have come. -/
  not_made : ∀ directory message, result = .error (.createDirectory directory message) →
    (∀ l bytes, fs'.node? l = some (.file bytes) ↔ fs.node? l = some (.file bytes)) ∧
      ∀ l, ¬ Made fs target fs' l → fs'.node? l = fs.node? l
  /-- If it fails in either way, what stands at the target is as before. -/
  not_written : ∀ f, result = .error f →
    fs'.node? (fs.destination target) = fs.node? (fs.destination target) ∧
      fs'.found? target = fs.found? target
  /-- In every case nothing else has changed. -/
  frame : Frame fs target fs'

section

variable {fs mid fs' : Filesystem} {target : String} {directory : Location} {name other : String}

/-- The target is not on the way to its directory, so that it is not one of those that were made. -/
theorem GrownTo.at_target (grown : GrownTo fs directory mid)
    (beside : Beside fs target directory name other) :
    mid.node? (fs.destination target) = fs.node? (fs.destination target) := by
  refine grown.within _ fun shorter => ?_
  have length := shorter.length_le
  rw [beside.target_eq, List.length_append, List.length_singleton] at length
  omega

/-- Making the directory leaves everything alone but what was `Made`. -/
theorem GrownTo.node?_eq (grown : GrownTo fs directory mid)
    (beside : Beside fs target directory name other) (same : SameDirectories mid fs')
    {l : Location} (not_made : ¬ Made fs target fs' l) : mid.node? l = fs.node? l := by
  rcases grown.node?_eq_or l with stays | ⟨missing, stands⟩
  · exact stays
  · by_cases above : l <+: directory
    · refine absurd ⟨?_, missing, (same.directory_iff l).mpr stands⟩ not_made
      rwa [beside.target_eq, List.dropLast_concat]
    · exact grown.within l above

/-- Making the directory and then changing the two files leaves everything else alone, as `Frame`
    says. -/
theorem GrownTo.frame (grown : GrownTo fs directory mid) (tree : fs.IsTree) (tree' : fs'.IsTree)
    (beside : Beside fs target directory name other) (same : SameDirectories mid fs')
    (rest : ∀ l, l ≠ directory ++ [name] → l ≠ directory ++ [other] →
      fs'.node? l = mid.node? l) : Frame fs target fs' := by
  have here_eq : fs'.here = fs.here := same.here_eq.trans grown.here_eq
  have node?_eq : ∀ l, Elsewhere fs target fs' l → fs'.node? l = fs.node? l := by
    rintro l ⟨ne_target, ne_temporary, not_made⟩
    rw [beside.target_eq] at ne_target
    rw [beside.temporary_eq] at ne_temporary
    rw [rest l ne_target ne_temporary, grown.node?_eq beside same not_made]
  -- no directory has gone, so that every way is still open
  have locate_eq : ∀ path spot, fs.locate path = .ok spot → fs'.locate path = .ok spot :=
    fun path spot => locate_of_directories here_eq fun l _ stands =>
      (same.directory_iff l).mpr (grown.directory stands)
  refine ⟨tree', here_eq, node?_eq, locate_eq, fun path down elsewhere => ?_,
    fun path spot leads elsewhere => ?_⟩
  · exact tree.found?_same tree' here_eq down (node?_eq _ elsewhere)
  · rw [found?_of_locate leads, found?_of_locate (locate_eq path spot leads)]
    exact shown?_same (node?_eq _ elsewhere)

/-- A call of which `AtomicWrite.prepare` fails stops there. -/
theorem effect_of_prepare_error (tree : fs.IsTree) (tree' : mid.IsTree)
    (down : ".." ∉ Path.parts target) (beside : Beside fs target directory name other) {f : Failure}
    (prepared : prepare fs target = (.error f, mid)) (content : List UInt8) :
    Effect fs target content (.error f) mid := by
  have grown := grownTo_prepare down beside
  rw [prepared] at grown
  obtain ⟨parent, message, rfl⟩ := prepare_error prepared
  have at_target := grown.at_target beside
  refine ⟨.inr (.inl ⟨parent, message, rfl⟩), nofun, fun _ _ _ => ⟨fun l bytes => ?_, fun l => ?_⟩,
    fun _ _ => ⟨at_target, tree.found?_same tree' grown.here_eq down at_target⟩,
    grown.frame tree tree' beside (.refl mid) fun _ _ _ => rfl⟩
  · rcases grown.node?_eq_or l with stays | ⟨missing, stands⟩
    · rw [stays]
    · simp [missing, stands]
  · exact grown.node?_eq beside (.refl mid)

/-- A call of which `AtomicWrite.prepare` succeeds writes and renames the temporary file. -/
theorem effect_of_prepare (tree : fs.IsTree) (tree' : fs'.IsTree) (down : ".." ∉ Path.parts target)
    (beside : Beside fs target directory name other) {result : Except Failure Unit}
    {content : List UInt8} (prepared : prepare fs target = (.ok (), mid))
    (run_eq : run fs target content = (result, fs')) : Effect fs target content result fs' := by
  have grown := grownTo_prepare down beside
  rw [prepared] at grown
  have outcome := replaced down (beside.of_here_eq grown.here_eq) content
  have replace_eq : replace mid target content = (result, fs') := by
    rw [← run_eq, run, prepared]
  rw [replace_eq] at outcome
  -- preparing only makes directories, and replacing changes the two places only
  have frame := grown.frame tree tree' beside outcome.sameDirectories fun _ => outcome.node?_eq
  cases result with
  | ok _ =>
    obtain ⟨down', filled, gone⟩ := outcome.of_ok beside.ne
    rw [← beside.target_eq] at filled
    rw [← beside.temporary_eq] at gone
    -- what is shown at the temporary path would stand at its place, where nothing is left
    have unseen : fs'.found? (temporary target) = none := by
      cases found : fs'.found? (temporary target) with
      | none => rfl
      | some n =>
        have stands := tree'.node?_destination down' found
        rw [destination_eq frame.here_eq, gone] at stands
        cases stands
    exact ⟨.inl rfl, fun _ => ⟨readFile_of_run run_eq, filled, gone, unseen⟩, nofun, nofun, frame⟩
  | error f =>
    obtain ⟨⟨message, rfl⟩, stays⟩ := outcome.of_error beside.ne
    rw [← beside.target_eq] at stays
    have at_target := stays.trans (grown.at_target beside)
    exact ⟨.inr (.inr ⟨message, rfl⟩), nofun, nofun,
      fun _ _ => ⟨at_target, tree.found?_same tree' frame.here_eq down at_target⟩, frame⟩

/-- What `AtomicWrite.run` leaves behind, if its target never goes up and has its temporary file
    elsewhere. -/
theorem effect_run (tree : fs.IsTree) (down : ".." ∉ Path.parts target)
    (apart : fs.destination (temporary target) ≠ fs.destination target) (content : List UInt8) :
    Effect fs target content (run fs target content).1 (run fs target content).2 := by
  obtain ⟨directory, name, other, beside⟩ := exists_beside down apart
  have tree' : (run fs target content).2.IsTree := by
    simpa using ((trail_states fs target [content]).isTree tree).1
  obtain ⟨result, mid, prepared⟩ : ∃ result mid, prepare fs target = (result, mid) :=
    ⟨_, _, rfl⟩
  cases result with
  | error f =>
    have run_eq : run fs target content = (.error f, mid) := by rw [run, prepared]
    rw [run_eq] at tree' ⊢
    exact effect_of_prepare_error tree tree' down beside prepared content
  | ok _ => exact effect_of_prepare tree tree' down beside prepared rfl

end

/-- The directory of the target is there, and a file can be made at both places. -/
structure Ready (fs : Filesystem) (target : String) : Prop where
  directory : ∀ path, directory? target = some path → fs.isDirectory path = true
  temporary : ∃ parent name, Open fs (temporary target) parent name
  target : ∃ parent name, Open fs target parent name

/-- Where all is `Ready`, `AtomicWrite.run` succeeds. -/
theorem Ready.run_ok {fs : Filesystem} {target : String} (ready : Ready fs target)
    (content : List UInt8) : (run fs target content).1 = .ok () := by
  obtain ⟨directory, ⟨parent, other, opened⟩, ⟨parent', name, opened'⟩⟩ := ready
  have replaced := replace_of_rename opened (opened.rename opened' content)
  rw [run, prepare_of_directory directory]
  exact congrArg Prod.fst replaced

/-! ### Calls one after the other -/

/-- Calls of `AtomicWrite.run` with one target, one after the other: what came of each one, and what
    they leave. -/
def runAll (target : String) :
    Filesystem → List (List UInt8) → List (Except Failure Unit) × Filesystem
  | fs, [] => ([], fs)
  | fs, content :: rest =>
    let call := run fs target content
    let later := runAll target call.2 rest
    (call.1 :: later.1, later.2)

/-- The contents of the calls that succeeded. -/
def written (contents : List (List UInt8)) (results : List (Except Failure Unit)) :
    List (List UInt8) :=
  ((contents.zip results).filter fun call => call.2.isOk).map (·.1)

@[simp] theorem written_ok (content : List UInt8) (rest : List (List UInt8))
    (results : List (Except Failure Unit)) :
    written (content :: rest) (.ok () :: results) = content :: written rest results := rfl

@[simp] theorem written_error (content : List UInt8) (rest : List (List UInt8)) (f : Failure)
    (results : List (Except Failure Unit)) :
    written (content :: rest) (.error f :: results) = written rest results := rfl

/-- `runAll` leaves the target as the last call that succeeded has left it. -/
theorem runAll_found? {fs : Filesystem} (tree : fs.IsTree) {target : String}
    (down : ".." ∉ Path.parts target)
    (apart : fs.destination (temporary target) ≠ fs.destination target)
    (contents : List (List UInt8)) :
    (runAll target fs contents).2.found? target =
      match (written contents (runAll target fs contents).1).getLast? with
      | some content => some (.file content)
      | none => fs.found? target := by
  induction contents generalizing fs with
  | nil => rfl
  | cons content rest ih =>
    have effect := effect_run tree down apart content
    have here_eq := effect.frame.here_eq
    have later := ih effect.frame.tree (by rwa [destination_eq here_eq, destination_eq here_eq])
    rw [runAll]
    generalize runAll target (run fs target content).2 rest = last at later ⊢
    obtain ⟨results, fs'⟩ := last
    dsimp only at later ⊢
    rw [later]
    -- a call that fails leaves the target as it was, so the
    -- later calls decide as if it had not been
    cases result : (run fs target content).1 with
    | ok _ =>
      have found : (run fs target content).2.found? target = some (.file content) :=
        find_eq_ok_iff.mp (readFile_eq_ok_iff.mp (effect.written result).1)
      rw [found, written_ok, List.getLast?_cons]
      cases (written rest results).getLast? <;> rfl
    | error f => rw [(effect.not_written f result).2, written_error]

/-- **`AtomicWrite.run` writes its target or leaves it as it was, and nothing else changes** but the
    temporary file and directories above the target that were missing.  This holds of every target
    that never goes up and whose temporary path leads to another place.  A call succeeds where the
    directory is there and files can be made at both places.  After some calls with one target it
    has the content of the last one that succeeded, or what was there before if none did. -/
theorem run_atomic {fs : Filesystem} (tree : fs.IsTree) {target : String}
    (down : ".." ∉ Path.parts target)
    (apart : fs.destination (temporary target) ≠ fs.destination target) :
    (∀ content, Effect fs target content (run fs target content).1 (run fs target content).2) ∧
    (Ready fs target → ∀ content, (run fs target content).1 = .ok ()) ∧
    ∀ contents, (runAll target fs contents).2.found? target =
      match (written contents (runAll target fs contents).1).getLast? with
      | some content => some (.file content)
      | none => fs.found? target :=
  ⟨effect_run tree down apart, Ready.run_ok, runAll_found? tree down apart⟩

/-- In `spool`: a call that makes a directory and succeeds, one that finds a file in place of a
    directory, one that finds a directory in place of the file, and two calls one after the other.
    -/
theorem run_atomic_spool :
    spool.IsTree ∧
    (∀ target ∈ ["spool/new/b.json", "spool/a.json/b.json", "spool", "spool/a.json"],
      ".." ∉ Path.parts target ∧
        spool.destination (temporary target) ≠ spool.destination target) ∧
    Effect spool "spool/new/b.json" [1] (.ok ()) (run spool "spool/new/b.json" [1]).2 ∧
    Effect spool "spool/a.json/b.json" [1]
      (.error (.createDirectory "spool/a.json" "File exists (os error 17)"))
      (run spool "spool/a.json/b.json" [1]).2 ∧
    Effect spool "spool" [1] (.error (.writeFile "spool" "Is a directory (os error 21)"))
      (run spool "spool" [1]).2 ∧
    (run spool "spool/a.json" [1]).1 = .ok () ∧
    (runAll "spool/a.json" spool [[1], [2]]).2.found? "spool/a.json" = some (.file [2]) := by
  have suited : ∀ target ∈ ["spool/new/b.json", "spool/a.json/b.json", "spool", "spool/a.json"],
      ".." ∉ Path.parts target ∧
        spool.destination (temporary target) ≠ spool.destination target := by
    decide +kernel
  have framed : ∀ target ∈ ["spool/new/b.json", "spool/a.json/b.json", "spool", "spool/a.json"],
      ∀ content, Effect spool target content (run spool target content).1
        (run spool target content).2 := fun target mem =>
    (run_atomic isTree_spool (suited target mem).1 (suited target mem).2).1
  have made : (run spool "spool/new/b.json" [1]).1 = .ok () := by decide +kernel
  have in_the_way : (run spool "spool/a.json/b.json" [1]).1
      = .error (.createDirectory "spool/a.json" "File exists (os error 17)") := by decide +kernel
  have refused : (run spool "spool" [1]).1
      = .error (.writeFile "spool" "Is a directory (os error 21)") := by decide +kernel
  obtain ⟨down, apart⟩ := suited "spool/a.json" (by decide)
  obtain ⟨-, succeeds, last⟩ := run_atomic isTree_spool down apart
  refine ⟨isTree_spool, suited, ?_, ?_, ?_, succeeds ⟨?_, ?_, ?_⟩ [1], ?_⟩
  · exact made ▸ framed _ (by decide) [1]
  · exact in_the_way ▸ framed _ (by decide) [1]
  · exact refused ▸ framed _ (by decide) [1]
  · have named : directory? "spool/a.json" = some "spool" := by decide +kernel
    intro path hd
    rw [← Option.some.inj (named.symm.trans hd)]
    decide +kernel
  · exact ⟨["spool"], "a.tmp", by decide +kernel, by decide +kernel, by decide +kernel⟩
  · exact ⟨["spool"], "a.json", by decide +kernel, by decide +kernel, by decide +kernel⟩
  · rw [last [[1], [2]]]
    decide +kernel

end FlowDump.AtomicWrite
