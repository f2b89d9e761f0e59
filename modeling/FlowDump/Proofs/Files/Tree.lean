import FlowDump.Proofs.Files.Filesystem
import FlowDump.Proofs.Files.Path

/-!
# Trees, and the way of a path through them

A path leads down from directory to directory.  Where it leads depends on these directories alone,
and a path that never goes up leads to the place that its names spell out.

* `IsTree` — every entry stands in a directory; `IsTree.makeDirectory` keeps this.
* `base_directory` — a path that leads somewhere has come to a directory.
* `destination` — the place that the names of a path spell out; `location_of_locate` says that a
  path leads there unless it goes up.
* `locate_of_directories` — a path leads to the same spot where the directories on its way stand.
* `Grown` — only directories have come.
* `IsTree.found?_same` — a reader of two trees finds the same by a path that never goes up if the
  same stands at the place.
-/

namespace FlowDump

namespace Filesystem

/-! ### Trees -/

/-- The program works in a directory, and every entry stands in one. -/
structure IsTree (fs : Filesystem) : Prop where
  here_directory : fs.node? fs.here = some .directory
  parent_directory : ∀ (l : Location) (name : String), fs.node? (l ++ [name]) ≠ none →
    fs.node? l = some .directory

/-- A filesystem with nothing but the root `IsTree`. -/
theorem isTree_empty : IsTree ⟨[], []⟩ :=
  ⟨rfl, fun l name h => absurd (by simp [node?]) h⟩

/-- Directories stand all the way down to an entry. -/
theorem IsTree.directory_of_prefix {fs : Filesystem} (tree : fs.IsTree) {l l' : Location}
    (stands : fs.node? l ≠ none) (h : l' <+: l) (ne : l' ≠ l) :
    fs.node? l' = some .directory := by
  obtain ⟨rest, rfl⟩ := h
  induction rest generalizing l' with
  | nil => exact absurd (List.append_nil l').symm ne
  | cons name rest ih =>
    refine tree.parent_directory l' name ?_
    cases rest with
    | nil => exact stands
    | cons next rest =>
      -- the next one on the way down is a directory
      have below : fs.node? (l' ++ [name]) = some .directory :=
        ih (by simpa using stands) (by simp)
      rw [below]
      exact Option.some_ne_none _

/-- An entry that is `put` in a directory leaves a tree, unless it takes the place of another
    directory. -/
theorem IsTree.put {fs : Filesystem} (tree : fs.IsTree) {parent : Location} {name : String}
    {n : Node} (hparent : fs.node? parent = some .directory)
    (hn : n = .directory ∨ fs.node? (parent ++ [name]) ≠ some .directory) :
    (fs.put (parent ++ [name]) n).IsTree := by
  -- no directory is lost, so whatever lay in one still does
  have kept : ∀ l, fs.node? l = some .directory →
      (fs.put (parent ++ [name]) n).node? l = some .directory := by
    intro l h
    rw [node?_put (by simp)]
    split
    · rename_i he
      rw [hn.resolve_right fun no_directory => no_directory (he ▸ h)]
    · exact h
  refine ⟨kept _ tree.here_directory, fun l name' h => kept l ?_⟩
  rw [node?_put (by simp)] at h
  split at h
  · rename_i he
    rw [← (List.append_inj' he rfl).1]
    exact hparent
  · exact tree.parent_directory l name' h

/-- Nothing stands below a file, so that it may be removed from a tree. -/
theorem IsTree.remove {fs : Filesystem} (tree : fs.IsTree) {parent : Location} {name : String}
    {bytes : List UInt8} (hfile : fs.node? (parent ++ [name]) = some (.file bytes)) :
    (fs.remove (parent ++ [name])).IsTree := by
  have kept : ∀ l, fs.node? l = some .directory →
      (fs.remove (parent ++ [name])).node? l = some .directory := by
    intro l h
    rw [node?_remove (by simp), if_neg]
    · exact h
    · rintro rfl
      rw [hfile] at h
      cases h
  refine ⟨kept _ tree.here_directory, fun l name' h => kept l ?_⟩
  rw [node?_remove (by simp)] at h
  split at h
  · exact absurd rfl h
  · exact tree.parent_directory l name' h

/-! ### The way down -/

/-- `enter` leads from a directory of a tree to a directory. -/
theorem IsTree.enter {fs : Filesystem} (tree : fs.IsTree) {l l' : Location} {part : String}
    (hl : fs.node? l = some .directory) (h : fs.enter l part = .ok l') :
    fs.node? l' = some .directory := by
  rcases enter_ok.mp h with ⟨-, rfl⟩ | ⟨-, rfl⟩ | ⟨-, -, -, hn, rfl⟩
  · exact hl
  · -- the directory above a directory is one
    rcases List.eq_nil_or_concat l with rfl | ⟨l, name, rfl⟩
    · rfl
    · rw [List.concat_eq_append] at hl ⊢
      rw [List.dropLast_concat]
      exact tree.parent_directory l name (by rw [hl]; exact Option.some_ne_none _)
  · exact hn

/-- The spot that `descend` comes to lies in a directory, or is one. -/
theorem IsTree.descend_base {fs : Filesystem} (tree : fs.IsTree) {slash : Bool}
    {parts : List String} {l : Location} {spot : Spot} (hl : fs.node? l = some .directory)
    (h : fs.descend slash l parts = .ok spot) : fs.node? spot.base = some .directory := by
  induction parts generalizing l with
  | nil =>
    cases h
    exact hl
  | cons part rest ih =>
    cases rest with
    | nil =>
      simp only [descend] at h
      split at h
      · cases he : fs.enter l part with
        | error e => simp [he, Except.map] at h
        | ok l' =>
          rw [he] at h
          cases h
          exact tree.enter hl he
      · cases h
        exact hl
    | cons next rest =>
      obtain ⟨l', he, h⟩ := bind_eq_ok.mp h
      exact ih (tree.enter hl he) h

/-- Where a path starts: at the root, or in the working directory. -/
def start (fs : Filesystem) (path : String) : Location :=
  if Path.isAbsolute path then [] else fs.here

/-- `locate` is `descend` from the `start` of a path. -/
theorem descend_of_locate {fs : Filesystem} {path : String} {spot : Spot}
    (h : fs.locate path = .ok spot) :
    fs.descend (Path.endsInSlash path) (fs.start path) (Path.parts path) = .ok spot := by
  unfold locate at h
  split at h
  · cases h
  · split at h
    · cases h
    · split at h
      · cases h
      · exact h

/-- A path that `locate` can follow in one filesystem it can follow in another one if the way down
    is there. -/
theorem locate_of_descend {fs fs' : Filesystem} {path : String} {spot spot' : Spot}
    (h : fs.locate path = .ok spot)
    (hd : fs'.descend (Path.endsInSlash path) (fs'.start path) (Path.parts path) = .ok spot') :
    fs'.locate path = .ok spot' := by
  unfold locate at h ⊢
  split at h
  · cases h
  · split at h
    · cases h
    · split at h
      · cases h
      · rename_i zero empty long
        rw [if_neg zero, if_neg empty, if_neg long]
        exact hd

/-- The spot that `locate` comes to lies in a directory, or is one. -/
theorem IsTree.base_directory {fs : Filesystem} (tree : fs.IsTree) {path : String} {spot : Spot}
    (h : fs.locate path = .ok spot) : fs.node? spot.base = some .directory := by
  refine tree.descend_base ?_ (descend_of_locate h)
  unfold start
  split
  · rfl
  · exact tree.here_directory

/-- `makeDirectory` leaves a tree. -/
theorem IsTree.makeDirectory {fs fs' : Filesystem} (tree : fs.IsTree) {path : String}
    (h : fs.makeDirectory path = .ok fs') : fs'.IsTree := by
  obtain ⟨parent, name, slash, hspot, -, rfl⟩ := makeDirectory_ok h
  exact tree.put (tree.base_directory hspot) (.inl rfl)

/-! ### Where a path leads -/

/-- The place that the `Path.names` of a path spell out. -/
def destination (fs : Filesystem) (path : String) : Location :=
  fs.start path ++ Path.names path

/-- The `destination` of a path rests on the working directory only. -/
theorem destination_eq {fs fs' : Filesystem} (here_eq : fs'.here = fs.here) (path : String) :
    fs'.destination path = fs.destination path := by
  rw [destination, destination, start, start, here_eq]

/-- Without a part that goes up, `descend` comes to where its parts say, single dots left out. -/
theorem location_of_descend {fs : Filesystem} {slash : Bool} {parts : List String} {l : Location}
    {spot : Spot} (down : ".." ∉ parts) (h : fs.descend slash l parts = .ok spot) :
    spot.location = l ++ parts.filter (· ≠ ".") := by
  induction parts generalizing l with
  | nil =>
    cases h
    simp [Spot.location]
  | cons part rest ih =>
    rw [List.mem_cons, not_or] at down
    obtain ⟨hpart, hrest⟩ := down
    -- what is entered is the part, unless it is a dot
    have entered : ∀ l', fs.enter l part = .ok l' → l' = l ++ [part].filter (· ≠ ".") := by
      intro l' he
      rcases enter_ok.mp he with ⟨rfl, rfl⟩ | ⟨rfl, -⟩ | ⟨hd, -, -, -, rfl⟩
      · simp
      · exact absurd rfl hpart
      · simp [hd]
    cases rest with
    | nil =>
      simp only [descend] at h
      split at h
      · cases he : fs.enter l part with
        | error e => simp [he, Except.map] at h
        | ok l' =>
          rw [he] at h
          cases h
          exact entered l' he
      · rename_i no_dots
        cases h
        simp [Spot.location, (not_or.mp no_dots).1]
    | cons next rest =>
      obtain ⟨l', he, h⟩ := bind_eq_ok.mp h
      rw [ih hrest h, entered l' he, List.append_assoc, ← List.filter_append, List.singleton_append]

/-- A path that never goes up leads to its `destination`. -/
theorem location_of_locate {fs : Filesystem} {path : String} {spot : Spot}
    (down : ".." ∉ Path.parts path) (h : fs.locate path = .ok spot) :
    spot.location = fs.destination path :=
  location_of_descend down (descend_of_locate h)

/-- `descend` goes the same way where its directories stand.  Without a part that goes up, these
    stand above the place that the names spell out. -/
theorem descend_of_directories {fs fs' : Filesystem} {slash : Bool} {parts : List String}
    {l : Location} {spot : Spot}
    (same : ∀ l', (".." ∈ parts ∨ l' <+: l ++ parts.filter (· ≠ ".")) →
      fs.node? l' = some .directory → fs'.node? l' = some .directory)
    (h : fs.descend slash l parts = .ok spot) : fs'.descend slash l parts = .ok spot := by
  induction parts generalizing l with
  | nil => exact h
  | cons part rest ih =>
    -- a directory that is entered by a name stands above the place that the names spell out
    have entered : ∀ l', fs.enter l part = .ok l' → fs'.enter l part = .ok l' := by
      intro l' he
      rcases enter_ok.mp he with dot | up | ⟨hd, hu, fits, hn, rfl⟩
      · exact enter_ok.mpr (.inl dot)
      · exact enter_ok.mpr (.inr (.inl up))
      · refine enter_ok.mpr (.inr (.inr ⟨hd, hu, fits, same _ (.inr ?_) hn, rfl⟩))
        simp [hd, List.prefix_append_right_inj, List.cons_prefix_cons]
    cases rest with
    | nil =>
      simp only [descend] at h ⊢
      split at h
      · rename_i dots
        rw [if_pos dots]
        cases he : fs.enter l part with
        | error e => simp [he, Except.map] at h
        | ok l' =>
          rw [he] at h
          rw [entered l' he]
          exact h
      · rename_i dots
        rw [if_neg dots]
        exact h
    | cons next rest =>
      obtain ⟨l', he, h⟩ := bind_eq_ok.mp h
      refine bind_eq_ok.mpr ⟨l', entered l' he, ih (fun l'' way => same l'' ?_) h⟩
      rcases way with up | below
      · exact .inl (List.mem_cons_of_mem _ up)
      -- what stands above the rest of the way from there stands above the way from here
      · rcases enter_ok.mp he with ⟨rfl, rfl⟩ | ⟨rfl, -⟩ | ⟨hd, -, -, -, rfl⟩
        · exact .inr (by simpa using below)
        · exact .inl List.mem_cons_self
        · refine .inr ?_
          rw [List.filter_cons_of_pos (by simp [hd])]
          simpa using below

/-- `locate` leads a path to the same spot where the directories on its way stand. -/
theorem locate_of_directories {fs fs' : Filesystem} {path : String} {spot : Spot}
    (here_eq : fs'.here = fs.here)
    (same : ∀ l, (".." ∈ Path.parts path ∨ l <+: fs.destination path) →
      fs.node? l = some .directory → fs'.node? l = some .directory)
    (h : fs.locate path = .ok spot) : fs'.locate path = .ok spot := by
  have start_eq : fs'.start path = fs.start path := by
    rw [start, start, here_eq]
  refine locate_of_descend h ?_
  rw [start_eq]
  exact descend_of_directories same (descend_of_locate h)

/-! ### Where only directories come -/

/-- Nothing has changed but that directories stand where there was nothing. -/
structure Grown (fs fs' : Filesystem) : Prop where
  here_eq : fs'.here = fs.here
  node?_eq_or : ∀ l, fs'.node? l = fs.node? l ∨
    (fs.node? l = none ∧ fs'.node? l = some .directory)

namespace Grown

theorem refl (fs : Filesystem) : Grown fs fs :=
  ⟨rfl, fun _ => .inl rfl⟩

theorem trans {a b c : Filesystem} (hab : Grown a b) (hbc : Grown b c) : Grown a c := by
  refine ⟨hbc.here_eq.trans hab.here_eq, fun l => ?_⟩
  rcases hbc.node?_eq_or l with h | ⟨hn, hd⟩
  · rw [h]
    exact hab.node?_eq_or l
  · rcases hab.node?_eq_or l with h' | ⟨-, hd'⟩
    · exact .inr ⟨h' ▸ hn, hd⟩
    · rw [hd'] at hn
      cases hn

/-- `makeDirectory` adds a directory where there was nothing. -/
theorem of_makeDirectory {fs fs' : Filesystem} {path : String}
    (h : fs.makeDirectory path = .ok fs') : Grown fs fs' := by
  obtain ⟨parent, name, slash, -, absent, rfl⟩ := makeDirectory_ok h
  refine ⟨rfl, fun l => ?_⟩
  rw [node?_put (by simp)]
  split
  · rename_i he
    exact .inr ⟨he ▸ absent, rfl⟩
  · exact .inl rfl

/-- Where a filesystem has `Grown`, its directories are still there. -/
theorem directory {fs fs' : Filesystem} (grown : Grown fs fs') {l : Location}
    (h : fs.node? l = some .directory) : fs'.node? l = some .directory := by
  rcases grown.node?_eq_or l with h' | ⟨hn, -⟩
  · rw [h', h]
  · rw [hn] at h
    cases h

end Grown

/-- Whoever finds something by a path that never goes up finds what stands at its `destination`. -/
theorem IsTree.node?_destination {fs : Filesystem} (tree : fs.IsTree) {path : String} {n : Node}
    (down : ".." ∉ Path.parts path) (h : fs.found? path = some n) :
    fs.node? (fs.destination path) = some n := by
  obtain ⟨spot, hspot, hshown⟩ := exists_spot_of_found? h
  rw [← location_of_locate down hspot]
  cases spot with
  | directory l =>
    cases hshown
    exact tree.base_directory hspot
  | entry parent name slash => exact node?_of_shown? hshown

/-- A path that never goes up can be followed wherever the same stands at its `destination`. -/
theorem IsTree.found?_of_same {fs fs' : Filesystem} (tree : fs.IsTree) (tree' : fs'.IsTree)
    (here_eq : fs'.here = fs.here) {path : String} {n : Node} (down : ".." ∉ Path.parts path)
    (same : fs'.node? (fs.destination path) = fs.node? (fs.destination path))
    (h : fs.found? path = some n) : fs'.found? path = some n := by
  have stands := same.trans (tree.node?_destination down h)
  obtain ⟨spot, hspot, hshown⟩ := exists_spot_of_found? h
  have way : fs'.locate path = .ok spot := by
    refine locate_of_directories here_eq (fun l way hd => ?_) hspot
    have way := way.resolve_left down
    by_cases he : l = fs.destination path
    · rw [he, same, ← he]
      exact hd
    · exact tree'.directory_of_prefix (by rw [stands]; exact Option.some_ne_none n) way he
  rw [found?_of_locate way, ← hshown]
  exact shown?_same (by rwa [location_of_locate down hspot])

/-- Where the same stands at the `destination`, a reader finds the same. -/
theorem IsTree.found?_same {fs fs' : Filesystem} (tree : fs.IsTree) (tree' : fs'.IsTree)
    (here_eq : fs'.here = fs.here) {path : String} (down : ".." ∉ Path.parts path)
    (same : fs'.node? (fs.destination path) = fs.node? (fs.destination path)) :
    fs'.found? path = fs.found? path := by
  have back : fs.node? (fs'.destination path) = fs'.node? (fs'.destination path) := by
    rw [destination_eq here_eq, same]
  exact Option.ext fun n => ⟨tree'.found?_of_same tree here_eq.symm down back,
    tree.found?_of_same tree' here_eq down same⟩

/-- Where a filesystem has `Grown`, a reader finds a directory that has come or what stood there
    before. -/
theorem Grown.found?_or {fs fs' : Filesystem} (grown : Grown fs fs') {path : String} {spot : Spot}
    (h : fs'.locate path = .ok spot) :
    fs'.found? path = some .directory ∨ fs'.found? path = fs.shown? spot := by
  rw [found?_of_locate h]
  cases spot with
  | directory l => exact .inl rfl
  | entry parent name slash =>
    rw [shown?_entry, shown?_entry]
    split
    · exact .inr rfl
    · rcases grown.node?_eq_or (parent ++ [name]) with same | ⟨-, made⟩
      · rw [same]
        exact .inr rfl
      · rw [made]
        exact .inl rfl

end Filesystem

end FlowDump
