import FlowDump.Files.AtomicWrite
import FlowDump.Proofs.Files.Path
import FlowDump.Proofs.Files.Tree

/-!
# The temporary file beside its target

The temporary path goes the way of the target, and only its last name is another one.  So it leads
into the same directory, and to another place there, unless the two paths are the same text.

* `locate_eq_entry` — how a path leads to a name.
* `Distinct` — a target has another temporary path.
* `Distinct.name_ne` — the temporary file stands beside what the target leads to.
* `Beside`, `exists_beside` — the places of both, where the target never goes up.
-/

namespace FlowDump

namespace Filesystem

/-- `descend` comes to the last part of a path, in the directory that the other parts lead to. -/
theorem descend_eq_entry {fs : Filesystem} {slash s : Bool} {parts : List String}
    {l parent : Location} {name : String}
    (h : fs.descend slash l parts = .ok (.entry parent name s)) :
    ∃ front, parts = front ++ [name] ∧ name ≠ "." ∧ name ≠ ".." ∧
      front.foldlM fs.enter l = .ok parent ∧ s = slash := by
  induction parts generalizing l with
  | nil => cases h
  | cons part rest ih =>
    cases rest with
    | nil =>
      simp only [descend] at h
      split at h
      · cases he : fs.enter l part <;> simp [he, Except.map] at h
      · rename_i no_dots
        cases h
        exact ⟨[], rfl, fun hd => no_dots (.inl hd), fun hd => no_dots (.inr hd), rfl, rfl⟩
    -- a part that is not the last one is entered, and stands in front of the rest of the way
    | cons next rest =>
      obtain ⟨l', he, h⟩ := bind_eq_ok.mp h
      obtain ⟨front, hparts, hd, hu, hfold, hs⟩ := ih h
      refine ⟨part :: front, by rw [hparts]; rfl, hd, hu, ?_, hs⟩
      rw [List.foldlM_cons, bind_eq_ok]
      exact ⟨l', he, hfold⟩

/-- `locate` comes to the last part of a path, in the directory that the other parts lead to from
    the `start`. -/
theorem locate_eq_entry {fs : Filesystem} {path : String} {parent : Location} {name : String}
    {slash : Bool} (h : fs.locate path = .ok (.entry parent name slash)) :
    ∃ front, Path.parts path = front ++ [name] ∧ name ≠ "." ∧ name ≠ ".." ∧
      front.foldlM fs.enter (fs.start path) = .ok parent ∧ slash = Path.endsInSlash path :=
  descend_eq_entry (descend_of_locate h)

end Filesystem

namespace Path

/-- A name at the very end of a path is its last part, as `Ends` has it. -/
theorem exists_ends_of_parts {path name : String} {front : List String}
    (h : parts path = front ++ [name]) (hd : name ≠ ".") (no_slash : endsInSlash path = false) :
    ∃ f n, Ends path.toList f n [] ∧ front = (pieces f).map String.ofList ∧
      name = String.ofList n := by
  rcases exists_ends path.toList with ⟨no_turns, -⟩ | ⟨f, n, junk, ends, -⟩
  · -- without turns all parts are dots
    have dots : ∀ p ∈ pieces path.toList, p = ['.'] := by
      rw [turns, List.filter_eq_nil_iff] at no_turns
      simpa using no_turns
    have mem : name ∈ parts path := by rw [h]; simp
    rw [parts_eq, List.mem_map] at mem
    obtain ⟨p, hp, rfl⟩ := mem
    exact absurd (by rw [dots p hp]) hd
  · rw [parts_eq, ends.pieces_eq] at h
    -- behind the name there is no dot, or the last part would be one
    have no_dots : pieces junk = [] := by
      rcases List.eq_nil_or_concat (pieces junk) with hj | ⟨dots, p, hj⟩
      · exact hj
      · have dot : p = ['.'] := ends.idle p (by rw [hj]; simp)
        have last : (pieces f ++ n :: dots).map String.ofList ++ ["."] = front ++ [name] := by
          rw [← h, hj, dot]
          simp
        injection (List.append_inj' last rfl).2 with he _
        exact absurd he.symm hd
    -- and no slash either, since the path does not end in one
    have no_junk : junk = [] := by
      rcases List.eq_nil_or_concat junk with hj | ⟨s, c, hj⟩
      · exact hj
      · have slash := eq_slash_of_mem no_dots c (by rw [hj]; simp)
        rw [endsInSlash, ends.eq, hj, slash] at no_slash
        simp at no_slash
    subst no_junk
    rw [pieces_nil, List.map_append, List.map_cons, List.map_nil] at h
    obtain ⟨hf, hn⟩ := List.append_inj' h rfl
    exact ⟨f, n, ends, hf.symm, by simpa using hn.symm⟩

/-- `withExtension` leaves a part in place of the last one, unless that goes up. -/
theorem exists_withExtension {path : String} {f n junk : List Char}
    (ends : Ends path.toList f n junk) (ne_up : n ≠ ['.', '.']) {ext : String}
    (no_slash : '/' ∉ ext.toList) :
    ∃ new, (withExtension path ext).toList = f ++ new ∧ IsPart new := by
  have found : splitName? path.toList = some (f, n) := by rw [ends.splitName?_eq, if_neg ne_up]
  rcases withExtension_eq found ext with text | text
  -- the new part starts with a stem of the old one, so it is not empty and has no slash
  · have stem : (splitExtension n).1 ≠ [] ∧ ∀ c ∈ (splitExtension n).1, c ∈ n := by
      rcases splitExtension_spec n with none_old | ⟨stem, old, rfl, ne, -, cut⟩
      · simp [none_old, ends.isPart.ne_nil]
      · rw [cut]
        exact ⟨ne, fun c hc => List.mem_append_left _ hc⟩
    refine ⟨_, text, fun slash => ?_, by simp, fun dot => ?_⟩
    · rw [List.mem_append, List.mem_cons] at slash
      rcases slash with hs | he | hs
      · exact ends.isPart.no_slash (stem.2 _ hs)
      · cases he
      · exact no_slash hs
    · have alone := congrArg List.length dot
      simp only [List.length_append, List.length_cons, List.length_nil] at alone
      exact stem.1 (List.eq_nil_of_length_eq_zero (by omega))
  · exact ⟨_, text, by decide, by simp, by decide⟩

/-- Where what `IsPart` starts, a path that is not absolute does not become so. -/
theorem head?_append_part {front part : List Char} (h : IsPart part) (rest : List Char) :
    (front ++ (part ++ rest)).head? = some '/' ↔ front.head? = some '/' := by
  cases front with
  | cons c front => rfl
  | nil =>
    cases part with
    | nil => exact absurd rfl h.ne_nil
    | cons c part =>
      have : c ≠ '/' := fun he => h.no_slash (he ▸ List.mem_cons_self)
      simp [this]

/-- With another last part a path starts where it started and leads through the same `parts` before
    the last. -/
theorem parts_of_front {path other : String} {f n junk new : List Char}
    (ends : Ends path.toList f n junk) (text : other.toList = f ++ new) (isPart : IsPart new) :
    parts other = (pieces f).map String.ofList ++ [String.ofList new] ∧
      isAbsolute other = isAbsolute path := by
  constructor
  · rw [parts_eq, text, pieces_append (.inl ends.opens), isPart.pieces_eq, List.map_append]
    rfl
  · rw [isAbsolute, isAbsolute, Bool.eq_iff_iff, decide_eq_true_eq, decide_eq_true_eq, text,
      ← List.append_nil new, head?_append_part isPart, ends.eq, head?_append_part ends.isPart]

end Path

namespace AtomicWrite

open FlowDump.Path Filesystem

/-- A target that has a name has another `temporary` path. -/
def Distinct (target : String) : Prop :=
  ∀ name, fileName? target = some name → temporary target ≠ target

/-- **The `temporary` file stands beside the target**, under another name. -/
theorem Distinct.name_ne {fs : Filesystem} {target : String} (distinct : Distinct target)
    {parent parent' : Location} {name name' : String}
    (h : fs.locate (temporary target) = .ok (.entry parent name false))
    (h' : fs.locate target = .ok (.entry parent' name' false)) :
    parent = parent' ∧ name ≠ name' := by
  obtain ⟨front, hparts, hd, hu, hfold, -⟩ := locate_eq_entry h
  obtain ⟨front', hparts', hd', hu', hfold', hslash⟩ := locate_eq_entry h'
  obtain ⟨f, n, ends, rfl, rfl⟩ := exists_ends_of_parts hparts' hd' hslash.symm
  have ne_up : n ≠ ['.', '.'] := by
    rintro rfl
    exact hu' rfl
  have other : temporary target ≠ target :=
    distinct (String.ofList n) (by rw [fileName?, ends.splitName?_eq, if_neg ne_up]; rfl)
  -- the temporary path has the same front
  obtain ⟨new, text, isPart⟩ : ∃ new, (temporary target).toList = f ++ new ∧ IsPart new :=
    exists_withExtension ends ne_up (by decide)
  obtain ⟨cut, absolute⟩ := parts_of_front ends text isPart
  obtain ⟨hfront, hname⟩ := List.append_inj' (hparts.symm.trans cut) rfl
  have hname : name = String.ofList new := by simpa using hname
  have start_eq : fs.start (temporary target) = fs.start target := by
    rw [Filesystem.start, Filesystem.start, absolute]
  constructor
  · rw [hfront, start_eq, hfold'] at hfold
    cases hfold
    rfl
  · rintro rfl
    refine other (String.toList_inj.mp ?_)
    rw [text, ends.eq, String.ofList_inj.mp hname, List.append_nil]

/-! ### The places of both -/

/-- The target and its `temporary` file have two names in one directory, as far as their paths spell
    it out. -/
structure Beside (fs : Filesystem) (target : String) (directory : Location)
    (name other : String) : Prop where
  target_eq : fs.destination target = directory ++ [name]
  temporary_eq : fs.destination (temporary target) = directory ++ [other]
  ne : other ≠ name
  parent_eq : ∀ parent, parent? target = some parent → fs.destination parent = directory
  /-- Only the last part of the temporary path may go up. -/
  down : ".." ∉ (parts (temporary target)).dropLast

/-- A target that never goes up has its `temporary` file `Beside` it if their places differ. -/
theorem exists_beside {fs : Filesystem} {target : String} (down : ".." ∉ parts target)
    (apart : fs.destination (temporary target) ≠ fs.destination target) :
    ∃ directory name other, Beside fs target directory name other := by
  rcases exists_ends target.toList with ⟨-, no_name⟩ | ⟨f, n, junk, ends, -⟩
  · -- a target without a name is its own temporary path
    have same : temporary target = target := by
      simp [temporary, withExtension, replaceExtension, no_name]
    exact absurd (by rw [same]) apart
  · have parts_target : parts target =
        (pieces f).map String.ofList ++ String.ofList n :: (pieces junk).map String.ofList := by
      rw [parts_eq, ends.pieces_eq, List.map_append, List.map_cons]
    have ne_up : n ≠ ['.', '.'] := by
      rintro rfl
      exact down (by rw [parts_target]; exact List.mem_append_right _ List.mem_cons_self)
    -- the two paths share everything in front of their last parts, and so the directory
    obtain ⟨new, text, isPart⟩ : ∃ new, (temporary target).toList = f ++ new ∧ IsPart new :=
      exists_withExtension ends ne_up (by decide)
    obtain ⟨cut, absolute⟩ := parts_of_front ends text isPart
    have names_target : names target = (turns f).map String.ofList ++ [String.ofList n] := by
      rw [names_eq, ends.turns_eq, List.map_append, List.map_singleton]
    have names_temporary :
        names (temporary target) = (turns f).map String.ofList ++ [String.ofList new] := by
      rw [names_eq, text, turns_append (.inl ends.opens), isPart.turns_eq, List.map_append,
        List.map_singleton]
    have target_eq : fs.destination target =
        fs.start target ++ (turns f).map String.ofList ++ [String.ofList n] := by
      rw [destination, names_target, List.append_assoc]
    have temporary_eq : fs.destination (temporary target) =
        fs.start target ++ (turns f).map String.ofList ++ [String.ofList new] := by
      rw [destination, names_temporary, Filesystem.start, absolute, ← Filesystem.start,
        List.append_assoc]
    refine ⟨_, _, _, target_eq, temporary_eq, ?_, fun parent hp => ?_, fun up => ?_⟩
    · intro same
      exact apart (by rw [target_eq, temporary_eq, same])
    · obtain ⟨parent_names, parent_absolute⟩ := parent?_spec hp
      rw [destination, parent_names, names_target, List.dropLast_concat, Filesystem.start,
        parent_absolute, ← Filesystem.start]
    · rw [cut, List.dropLast_concat] at up
      exact down (by rw [parts_target]; exact List.mem_append_left _ up)

namespace Beside

variable {fs fs' : Filesystem} {target : String} {directory parent : Location}
  {name other name' : String}

/-- `Beside` rests on the working directory and on nothing else of a filesystem. -/
theorem of_here_eq (beside : Beside fs target directory name other) (h : fs'.here = fs.here) :
    Beside fs' target directory name other :=
  ⟨(destination_eq h _).trans beside.target_eq, (destination_eq h _).trans beside.temporary_eq,
    beside.ne, fun parent hp => (destination_eq h _).trans (beside.parent_eq parent hp),
    beside.down⟩

/-- A `temporary` path that leads to a name does not go up, and the name stands where the path
    spells it out. -/
theorem location_eq (beside : Beside fs target directory name other)
    (h : fs.locate (temporary target) = .ok (.entry parent name' false)) :
    ".." ∉ parts (temporary target) ∧ parent ++ [name'] = directory ++ [other] := by
  obtain ⟨front, hparts, -, ne_up, -, -⟩ := locate_eq_entry h
  have down : ".." ∉ parts (temporary target) := by
    have above := beside.down
    rw [hparts, List.dropLast_concat] at above
    rw [hparts, List.mem_append, List.mem_singleton, not_or]
    exact ⟨above, fun he => ne_up he.symm⟩
  rw [← beside.temporary_eq]
  exact ⟨down, location_of_locate down h⟩

end Beside

end AtomicWrite

end FlowDump
