import FlowDump.Proofs.Files.Tree

/-!
# Elementary changes, one after the other

Work on a filesystem is a sequence of elementary changes, and whoever looks on sees the filesystems
between them.

* `Change` — one elementary change; `IsTree.change` says that it leaves a tree.
* `Trail` — the filesystems on the way from one to another.
* `SameDirectories` — files have changed, but no directory; all paths lead where they led.
* `Open` — a path at which a file can be made; `Open.create`, `Open.append` and `Open.found?_put`
  say what becomes of it, and `Open.rename` and `rename_found?` what becomes of a file that gets
  another name.
-/

namespace FlowDump

theorem Members.insert_insert {κ β : Type} [DecidableEq κ] (k : κ) (v v' : β) (m : Members κ β) :
    insert k v' (insert k v m) = insert k v' m := by
  induction m with
  | nil => simp [insert]
  | cons p rest ih =>
    by_cases hk : p.1 = k
    · simp [insert, hk]
    · simp [insert, hk, ih]

namespace Filesystem

/-! ### Changes -/

/-- One elementary change: a directory is made, or a file is created, filled by `append` or renamed.
    -/
inductive Change (fs fs' : Filesystem) : Prop where
  | makeDirectory (path : String) (h : fs.makeDirectory path = .ok fs')
  | create (path : String) (h : fs.create path = .ok fs')
  | append (path : String) (bytes : List UInt8) (h : fs.append path bytes = .ok fs')
  | rename (source target : String) (h : fs.rename source target = .ok fs')

/-- A `Change` leaves a tree. -/
theorem IsTree.change {fs fs' : Filesystem} (tree : fs.IsTree) (h : Change fs fs') :
    fs'.IsTree := by
  cases h with
  | makeDirectory path h => exact tree.makeDirectory h
  | create path h =>
    obtain ⟨parent, name, hspot, -, no_directory, rfl⟩ := create_ok h
    exact tree.put (tree.base_directory hspot) (.inr no_directory)
  | append path bytes h =>
    obtain ⟨parent, name, slash, old, hspot, -, hfile, rfl⟩ := append_ok.mp h
    exact tree.put (tree.base_directory hspot) (.inr (by simp [hfile]))
  | rename source target h =>
    obtain ⟨parent, name, parent', name', bytes, -, -, htarget, -, hfile, no_directory, rfl⟩ :=
      rename_ok h
    have beside : fs.node? parent' = some .directory := tree.base_directory htarget
    refine (tree.remove hfile).put ?_ (.inr ?_)
    · -- the directory of the target is not the file that was renamed
      rw [node?_remove (by simp), if_neg]
      · exact beside
      · rintro rfl
        rw [hfile] at beside
        cases beside
    · rw [node?_remove (by simp)]
      split
      · simp
      · exact no_directory

/-- The filesystems that follow the first one on the way to the last one, each of them a `Change`
    away from the one before. -/
inductive Trail : Filesystem → List Filesystem → Filesystem → Prop where
  | done (fs : Filesystem) : Trail fs [] fs
  | step {fs fs' last : Filesystem} {rest : List Filesystem} (change : Change fs fs')
      (trail : Trail fs' rest last) : Trail fs (fs' :: rest) last

namespace Trail

variable {fs mid last : Filesystem} {states states' : List Filesystem}

/-- A `Trail` up to some filesystem and one from there on are one. -/
theorem append (h : Trail fs states mid) (h' : Trail mid states' last) :
    Trail fs (states ++ states') last := by
  induction h with
  | done fs => exact h'
  | step change _ ih => exact .step change (ih h')

/-- All filesystems on a `Trail` are trees if the first one is. -/
theorem isTree (h : Trail fs states last) (tree : fs.IsTree) :
    last.IsTree ∧ ∀ fs' ∈ states, fs'.IsTree := by
  induction h with
  | done fs => exact ⟨tree, by simp⟩
  | step change _ ih =>
    have next := tree.change change
    rw [List.forall_mem_cons]
    exact ⟨(ih next).1, next, (ih next).2⟩

/-- The last filesystem of a `Trail` is one of those on it, or none has followed. -/
theorem last_mem (h : Trail fs states last) : last = fs ∨ last ∈ states := by
  induction h with
  | done fs => exact .inl rfl
  | step _ _ ih =>
    rcases ih with rfl | h
    · exact .inr List.mem_cons_self
    · exact .inr (List.mem_cons_of_mem _ h)

end Trail

/-! ### Where only files change -/

/-- The same directories stand in both filesystems. -/
structure SameDirectories (fs fs' : Filesystem) : Prop where
  here_eq : fs'.here = fs.here
  directory_iff : ∀ l, fs'.node? l = some .directory ↔ fs.node? l = some .directory

namespace SameDirectories

variable {a b c : Filesystem}

theorem refl (a : Filesystem) : SameDirectories a a :=
  ⟨rfl, fun _ => .rfl⟩

theorem trans (h : SameDirectories a b) (h' : SameDirectories b c) : SameDirectories a c :=
  ⟨h'.here_eq.trans h.here_eq, fun l => (h'.directory_iff l).trans (h.directory_iff l)⟩

/-- Paths lead to the same spots in filesystems that have `SameDirectories`. -/
theorem locate_iff (h : SameDirectories a b) {path : String} {spot : Spot} :
    b.locate path = .ok spot ↔ a.locate path = .ok spot :=
  ⟨locate_of_directories h.here_eq.symm fun l _ => (h.directory_iff l).mp,
    locate_of_directories h.here_eq fun l _ => (h.directory_iff l).mpr⟩

/-- A reader finds what was found before if the spot shows the same. -/
theorem found?_same (h : SameDirectories a b) {path : String}
    (same : ∀ spot, a.locate path = .ok spot → b.shown? spot = a.shown? spot) :
    b.found? path = a.found? path := by
  rw [found?_eq, found?_eq]
  cases ha : a.locate path with
  | ok spot =>
    rw [h.locate_iff.mpr ha]
    exact same spot ha
  | error e =>
    cases hb : b.locate path with
    | ok spot =>
      rw [h.locate_iff.mp hb] at ha
      cases ha
    | error e' => rfl

end SameDirectories

section

variable {fs : Filesystem} {parent : Location} {name : String}

/-- To `put` a file where no directory stands changes no directory. -/
theorem sameDirectories_put (h : fs.node? (parent ++ [name]) ≠ some .directory)
    (bytes : List UInt8) : SameDirectories fs (fs.put (parent ++ [name]) (.file bytes)) := by
  refine ⟨rfl, fun l => ?_⟩
  rw [node?_put (by simp)]
  split
  · rename_i he
    simp [← he, h]
  · rfl

/-- To `remove` a file changes no directory. -/
theorem sameDirectories_remove (h : fs.node? (parent ++ [name]) ≠ some .directory) :
    SameDirectories fs (fs.remove (parent ++ [name])) := by
  refine ⟨rfl, fun l => ?_⟩
  rw [node?_remove (by simp)]
  split
  · rename_i he
    simp [← he, h]
  · rfl

/-- What was `put` last stands. -/
theorem put_put (fs : Filesystem) (l : Location) (n n' : Node) :
    (fs.put l n).put l n' = fs.put l n' := by
  rw [put, put, put, Members.insert_insert]

end

/-- A file can be made at a path: where it will be, and that no directory is there. -/
structure Open (fs : Filesystem) (path : String) (parent : Location) (name : String) : Prop where
  locate_eq : fs.locate path = .ok (.entry parent name false)
  fits : Fits name
  no_directory : fs.node? (parent ++ [name]) ≠ some .directory

namespace Open

variable {fs : Filesystem} {path : String} {parent : Location} {name : String}

/-- What `create` made is a file, put at a path that is `Open`. -/
theorem of_create {created : Filesystem} (h : fs.create path = .ok created) :
    ∃ parent name, Open fs path parent name ∧ created = fs.put (parent ++ [name]) (.file []) := by
  obtain ⟨parent, name, hspot, fits, no_directory, rfl⟩ := create_ok h
  exact ⟨parent, name, ⟨hspot, fits, no_directory⟩, rfl⟩

/-- A file that is put at an `Open` path changes no directory. -/
theorem sameDirectories (h : Open fs path parent name) (bytes : List UInt8) :
    SameDirectories fs (fs.put (parent ++ [name]) (.file bytes)) :=
  sameDirectories_put h.no_directory bytes

/-- `append` puts more bytes at the end of the file that was put. -/
theorem append (h : Open fs path parent name) (old bytes : List UInt8) :
    (fs.put (parent ++ [name]) (.file old)).append path bytes
      = .ok (fs.put (parent ++ [name]) (.file (old ++ bytes))) := by
  refine append_ok.mpr ⟨parent, name, false, old, ?_, h.fits, ?_, (put_put ..).symm⟩
  · exact (h.sameDirectories old).locate_iff.mpr h.locate_eq
  · exact node?_put_self ..

/-- A reader finds the file that was put at an `Open` path. -/
theorem found?_put (h : Open fs path parent name) (bytes : List UInt8) :
    (fs.put (parent ++ [name]) (.file bytes)).found? path = some (.file bytes) := by
  rw [found?_of_locate ((h.sameDirectories bytes).locate_iff.mpr h.locate_eq)]
  exact shown?_of_file h.fits (node?_put_self ..)

/-- At an `Open` path `create` puts an empty file. -/
theorem create (h : Open fs path parent name) :
    fs.create path = .ok (fs.put (parent ++ [name]) (.file [])) := by
  have free : fs.lookup parent name = .ok (fs.node? (parent ++ [name])) :=
    lookup_ok.mpr ⟨h.fits, rfl⟩
  have no_directory := h.no_directory
  unfold Filesystem.create
  refine bind_eq_ok.mpr ⟨_, h.locate_eq, bind_eq_ok.mpr ⟨_, free, ?_⟩⟩
  split
  · rename_i stands
    exact absurd stands no_directory
  · rfl

/-- At an `Open` path `Filesystem.write` puts the whole content. -/
theorem write (h : Open fs path parent name) (content : List UInt8) :
    fs.write path content = (.ok (), fs.put (parent ++ [name]) (.file content)) := by
  rw [Filesystem.write, h.create]
  simp only [h.append, List.nil_append]

/-- `rename` gives the file that was put any name at which a file can be made. -/
theorem rename {target : String} {parent' : Location} {name' : String}
    (h : Open fs path parent name) (h' : Open fs target parent' name') (bytes : List UInt8) :
    (fs.put (parent ++ [name]) (.file bytes)).rename path target
      = .ok (((fs.put (parent ++ [name]) (.file bytes)).remove (parent ++ [name])).put
          (parent' ++ [name']) (.file bytes)) := by
  have same := h.sameDirectories bytes
  have source : (fs.put (parent ++ [name]) (.file bytes)).lookup parent name
      = .ok (some (.file bytes)) := lookup_ok.mpr ⟨h.fits, node?_put_self ..⟩
  have free : (fs.put (parent ++ [name]) (.file bytes)).node? (parent' ++ [name'])
      ≠ some .directory := fun stands => h'.no_directory ((same.directory_iff _).mp stands)
  unfold Filesystem.rename
  refine bind_eq_ok.mpr ⟨_, same.locate_iff.mpr h.locate_eq, ?_⟩
  refine bind_eq_ok.mpr ⟨_, same.locate_iff.mpr h'.locate_eq, ?_⟩
  refine bind_eq_ok.mpr ⟨_, source, ?_⟩
  refine bind_eq_ok.mpr ⟨_, lookup_ok.mpr ⟨h'.fits, rfl⟩, ?_⟩
  simp only [free, if_false, Bool.false_eq_true, or_self]

end Open

/-- Where a file cannot be created, `Filesystem.write` writes nothing. -/
theorem write_of_error {fs : Filesystem} {path : String} {e : IoFailure}
    (h : fs.create path = .error e) (content : List UInt8) :
    fs.write path content = (.error e, fs) := by
  rw [write, h]

/-- Behind a `rename` a reader of the target finds the file that was the source. -/
theorem rename_found? {fs fs' : Filesystem} {source target : String}
    (h : fs.rename source target = .ok fs') : SameDirectories fs fs' ∧ ∃ bytes,
      fs.found? source = some (.file bytes) ∧ fs'.found? target = some (.file bytes) := by
  obtain ⟨parent, name, parent', name', bytes, hsource, fits, htarget, fits', hfile, no_directory,
    rfl⟩ := rename_ok h
  have removed : SameDirectories fs (fs.remove (parent ++ [name])) :=
    sameDirectories_remove (by simp [hfile])
  have free : (fs.remove (parent ++ [name])).node? (parent' ++ [name']) ≠ some .directory :=
    fun hd => no_directory ((removed.directory_iff _).mp hd)
  refine ⟨removed.trans (sameDirectories_put free bytes), bytes, ?_, ?_⟩
  · rw [found?_of_locate hsource]
    exact shown?_of_file fits hfile
  · exact Open.found?_put ⟨removed.locate_iff.mpr htarget, fits', free⟩ bytes

end Filesystem

end FlowDump
