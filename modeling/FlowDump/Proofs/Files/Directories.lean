import FlowDump.Proofs.Files.Change

/-!
# Making directories, one after the other

Where a directory is missing, what is missing above it is made first.  Only directories come, and
for a path that never goes up they come on its way only.

* `statesUpTo` — the filesystems on the way of `makeUpTo`, and `trail_statesUpTo` says that they
  are.
* `Level` — all that one level of the recursion can do.
* `Prepared` — only directories on the way of a path have come; `prepared_statesUpTo` says so of
  every filesystem on the way.
-/

namespace FlowDump

namespace Filesystem

/-! ### Making directories -/

/-- The filesystem behind a change, if it succeeds, as the only one on the way. -/
def passed (change : Except IoFailure Filesystem) : List Filesystem := change.toOption.toList

theorem mem_passed {change : Except IoFailure Filesystem} {fs : Filesystem} :
    fs ∈ passed change ↔ change = .ok fs := by
  cases change <;> simp [passed, Except.toOption, eq_comm]

/-- The filesystems on the way of `makeUpTo`. -/
def statesUpTo : (fuel : Nat) → Filesystem → String → List Filesystem
  | 0, _, _ => []
  | fuel + 1, fs, path =>
    if path = "" then []
    else match fs.ensureDirectory path with
      | (.error (.system e), _) =>
        if e ≠ .notFound then []
        else match Path.parent? path with
          | none => []
          | some parent =>
            statesUpTo fuel fs parent ++
              match makeUpTo fuel fs parent with
              | (.error _, _) => []
              | (.ok (), fs) => passed (fs.makeDirectory path)
      | _ => passed (fs.makeDirectory path)

/-- All that a level of `makeUpTo` can do: nothing, one directory, or what is missing above it and
    then, unless this fails, the directory. -/
inductive Level (fuel : Nat) (fs : Filesystem) (path : String) :
    List Filesystem → Filesystem → Prop where
  | nothing : Level fuel fs path [] fs
  | alone : Level fuel fs path (passed (fs.makeDirectory path)) (fs.ensureDirectory path).2
  | above (parent : String) (h : Path.parent? path = some parent) :
    Level fuel fs path (statesUpTo fuel fs parent) (makeUpTo fuel fs parent).2
  | afterAbove (parent : String) (h : Path.parent? path = some parent) :
    Level fuel fs path
      (statesUpTo fuel fs parent ++ passed ((makeUpTo fuel fs parent).2.makeDirectory path))
      ((makeUpTo fuel fs parent).2.ensureDirectory path).2

/-- Where `ensureDirectory` fails it changes nothing. -/
theorem ensureDirectory_error {fs fs' : Filesystem} {path : String} {e : IoFailure}
    (h : fs.ensureDirectory path = (.error e, fs')) : fs' = fs := by
  unfold ensureDirectory at h
  cases hm : fs.makeDirectory path with
  | ok fs' =>
    rw [hm] at h
    cases h
  | error e' =>
    rw [hm] at h
    exact (congrArg Prod.snd h).symm

/-- A level of `makeUpTo` does one of the things that `Level` lists. -/
theorem level {fuel : Nat} {fs last : Filesystem} {path : String} {states : List Filesystem}
    (hs : statesUpTo (fuel + 1) fs path = states) (hl : (makeUpTo (fuel + 1) fs path).2 = last) :
    Level fuel fs path states last := by
  have single : Level fuel fs path (passed (fs.makeDirectory path)) (fs.ensureDirectory path).2 :=
    .alone
  subst hs hl
  rw [statesUpTo, makeUpTo]
  by_cases empty : path = ""
  · rw [if_pos empty, if_pos empty]
    exact .nothing
  rw [if_neg empty, if_neg empty]
  obtain ⟨result, fs', hens⟩ : ∃ result fs', fs.ensureDirectory path = (result, fs') :=
    ⟨_, _, rfl⟩
  rw [hens] at single ⊢
  cases result with
  | ok _ => exact single
  | error e =>
    obtain rfl := ensureDirectory_error hens
    -- only a path that was not found is tried again, once its parent was made
    cases e with
    | system e =>
      by_cases missing : e = .notFound
      · simp only [missing, ne_eq, not_true_eq_false, if_false]
        cases hp : Path.parent? path with
        | none => exact .nothing
        | some parent =>
          have stopped : Level fuel fs' path _ _ := .above parent hp
          have went_on : Level fuel fs' path _ _ := .afterAbove parent hp
          obtain ⟨result, mid, hup⟩ : ∃ result mid, makeUpTo fuel fs' parent = (result, mid) :=
            ⟨_, _, rfl⟩
          simp only [hup] at stopped went_on ⊢
          cases result with
          | error e => simpa using stopped
          | ok _ => exact went_on
      · simp only [ne_eq, missing, not_false_eq_true, if_true]
        exact .nothing
    | _ => exact single

/-- `ensureDirectory` makes one directory, or none. -/
theorem trail_ensureDirectory (fs : Filesystem) (path : String) :
    Trail fs (passed (fs.makeDirectory path)) (fs.ensureDirectory path).2 := by
  unfold ensureDirectory
  cases h : fs.makeDirectory path with
  | error e => exact .done fs
  | ok fs' => exact .step (.makeDirectory path h) (.done fs')

/-- `makeUpTo` makes the directories that are missing one after the other, through `statesUpTo`. -/
theorem trail_statesUpTo (fuel : Nat) (fs : Filesystem) (path : String) :
    Trail fs (statesUpTo fuel fs path) (makeUpTo fuel fs path).2 := by
  induction fuel generalizing fs path with
  | zero => exact .done fs
  | succ fuel ih =>
    generalize hs : statesUpTo (fuel + 1) fs path = states
    generalize hl : (makeUpTo (fuel + 1) fs path).2 = last
    cases level hs hl with
    | nothing => exact .done fs
    | alone => exact trail_ensureDirectory fs path
    | above parent h => exact ih fs parent
    | afterAbove parent h => exact (ih fs parent).append (trail_ensureDirectory _ path)

/-! ### Where directories are made -/

/-- A filesystem that has `Grown`, and where the path never goes up, only on the way to the
    `destination` of the path. -/
structure Prepared (fs : Filesystem) (path : String) (fs' : Filesystem) : Prop
    extends Grown fs fs' where
  within : ".." ∉ Path.parts path →
    ∀ l, ¬ l <+: fs.destination path → fs'.node? l = fs.node? l

namespace Prepared

variable {fs mid fs' : Filesystem} {path : String}

theorem refl (fs : Filesystem) (path : String) : Prepared fs path fs :=
  ⟨.refl fs, fun _ _ _ => rfl⟩

theorem trans (h : Prepared fs path mid) (h' : Prepared mid path fs') : Prepared fs path fs' := by
  refine ⟨h.toGrown.trans h'.toGrown, fun down l hl => ?_⟩
  rw [h'.within down l (by rwa [destination_eq h.here_eq]), h.within down l hl]

/-- A directory that was made at a path prepares it: it stands where the names of the path lead. -/
theorem of_passed (h : fs' ∈ passed (fs.makeDirectory path)) : Prepared fs path fs' := by
  have made := mem_passed.mp h
  refine ⟨.of_makeDirectory made, fun down l hl => ?_⟩
  obtain ⟨parent, name, slash, hspot, -, rfl⟩ := makeDirectory_ok made
  have place := location_of_locate down hspot
  rw [Spot.location] at place
  rw [node?_put (by simp), if_neg]
  rintro rfl
  exact hl (place ▸ List.prefix_rfl)

/-- What is made for the `parent?` of a path is made on the way to the path. -/
theorem of_parent {parent : String} (h : Prepared fs parent fs')
    (hp : Path.parent? path = some parent) : Prepared fs path fs' := by
  obtain ⟨names_eq, absolute⟩ := Path.parent?_spec hp
  have shorter : fs.destination parent <+: fs.destination path := by
    rw [destination, destination, start, start, absolute, names_eq]
    exact (List.prefix_append_right_inj _).mpr (List.dropLast_prefix _)
  exact ⟨h.toGrown, fun down l hl =>
    h.within (Path.parent?_down hp down) l fun above => hl (above.trans shorter)⟩

end Prepared

/-- Every filesystem on the way of `makeUpTo` is `Prepared`. -/
theorem prepared_statesUpTo {fuel : Nat} {fs : Filesystem} {path : String} :
    ∀ fs' ∈ statesUpTo fuel fs path, Prepared fs path fs' := by
  -- the induction is on the fuel: what is made for the parent is made for the path
  induction fuel generalizing fs path with
  | zero => simp [statesUpTo]
  | succ fuel ih =>
    generalize hs : statesUpTo (fuel + 1) fs path = states
    generalize hl : (makeUpTo (fuel + 1) fs path).2 = last
    cases level hs hl with
    | nothing => simp
    | alone => exact fun fs' => .of_passed
    | above parent hp => exact fun fs' h => (ih fs' h).of_parent hp
    | afterAbove parent hp =>
      intro fs' h
      rcases List.mem_append.mp h with h | h
      · exact (ih fs' h).of_parent hp
      · -- the directory is made behind everything that was made above it
        have mid : Prepared fs path (makeUpTo fuel fs parent).2 := by
          rcases (trail_statesUpTo fuel fs parent).last_mem with he | hm
          · rw [he]
            exact .refl fs path
          · exact (ih _ hm).of_parent hp
        exact mid.trans (.of_passed h)

end Filesystem

end FlowDump
