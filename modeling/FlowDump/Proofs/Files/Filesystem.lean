import FlowDump.Files.Filesystem

/-!
# What changes a filesystem, and what a reader finds

* `node?_put`, `node?_remove` — what stands at a location after a change.
* `makeDirectory_ok`, `create_ok`, `append_ok`, `rename_ok` — all that an elementary change can do.
* `found?` — what a reader finds at a path, if anything; `found?_eq` says that it is what stands at
  the spot that the path leads to.
* `readFile_eq_ok_iff`, `find_eq_ok_iff` — what the readers of a program find is the same.
-/

namespace FlowDump

/-- Members that are filtered out are the only ones that are no longer found. -/
theorem Members.get?_filter_ne {κ β : Type} [DecidableEq κ] (m : Members κ β) (k x : κ) :
    get? (m.filter fun p => p.1 ≠ k) x = if k = x then none else get? m x := by
  induction m with
  | nil => simp
  | cons p rest ih =>
    by_cases hp : p.1 = k
    · rw [List.filter_cons_of_neg (by simp [hp]), ih, get?_cons, hp]
      split <;> rfl
    · rw [List.filter_cons_of_pos (by simp [hp]), get?_cons, ih, get?_cons]
      by_cases hx : p.1 = x
      · rw [if_pos hx, if_pos hx, if_neg (fun h => hp (hx.trans h.symm))]
      · rw [if_neg hx, if_neg hx]

namespace Filesystem

/-! ### Entries -/

@[simp] theorem node?_root (fs : Filesystem) : fs.node? [] = some .directory := rfl

/-- An entry that was `put` stands at its location, and all others stay. -/
theorem node?_put {l : Location} (hl : l ≠ []) (fs : Filesystem) (n : Node) (l' : Location) :
    (fs.put l n).node? l' = if l = l' then some n else fs.node? l' := by
  unfold node? put
  by_cases h' : l' = []
  · subst h'
    simp [hl]
  · simp [h', Members.get?_insert]

/-- An entry that was taken out by `remove` is gone, and all others stay. -/
theorem node?_remove {l : Location} (hl : l ≠ []) (fs : Filesystem) (l' : Location) :
    (fs.remove l).node? l' = if l = l' then none else fs.node? l' := by
  unfold node? remove
  by_cases h' : l' = []
  · subst h'
    simp [hl]
  · simp only [h', if_false, Members.get?_filter_ne]

theorem node?_put_self (fs : Filesystem) (parent : Location) (name : String) (n : Node) :
    (fs.put (parent ++ [name]) n).node? (parent ++ [name]) = some n := by
  simp [node?_put]

/-! ### Steps that may fail -/

/-- Two steps succeed if the first one does and then the second. -/
theorem bind_eq_ok {ε α β : Type} {x : Except ε α} {f : α → Except ε β} {b : β} :
    (x >>= f) = .ok b ↔ ∃ a, x = .ok a ∧ f a = .ok b := by
  cases x with
  | error e => simp [bind, Except.bind]
  | ok a => simp [bind, Except.bind]

/-- Whether a name is short enough for an entry, by `maxName`. -/
def Fits (name : String) : Prop := name.utf8ByteSize ≤ maxName

instance (name : String) : Decidable (Fits name) :=
  inferInstanceAs (Decidable (name.utf8ByteSize ≤ maxName))

/-- `lookup` shows what stands under a name in a directory, if the name fits. -/
theorem lookup_ok {fs : Filesystem} {parent : Location} {name : String} {n : Option Node} :
    fs.lookup parent name = .ok n ↔ Fits name ∧ fs.node? (parent ++ [name]) = n := by
  unfold lookup Fits refuse
  split
  · rename_i long
    simp [Nat.not_le.mpr long]
  · rename_i short
    simp [Nat.not_lt.mp short]

/-- `enter` stays in a directory, goes up from it, or goes down into one of its directories. -/
theorem enter_ok {fs : Filesystem} {l l' : Location} {part : String} :
    fs.enter l part = .ok l' ↔
      (part = "." ∧ l' = l) ∨ (part = ".." ∧ l' = l.dropLast) ∨
        (part ≠ "." ∧ part ≠ ".." ∧ Fits part ∧ fs.node? (l ++ [part]) = some .directory ∧
          l' = l ++ [part]) := by
  unfold enter
  split
  · rename_i h
    subst h
    simp [eq_comm]
  · split
    · rename_i h
      subst h
      simp [eq_comm]
    -- a name: whatever stands at it, only a directory lets one in
    · rename_i hd hu
      simp only [hd, hu, bind_eq_ok, lookup_ok, false_and, false_or, ne_eq, not_false_eq_true,
        true_and]
      constructor
      · rintro ⟨n?, ⟨fits, rfl⟩, h⟩
        split at h
        · cases h
        · cases h
        · rename_i hn
          cases h
          exact ⟨fits, hn, rfl⟩
      · rintro ⟨fits, hn, rfl⟩
        exact ⟨_, ⟨fits, hn⟩, rfl⟩

/-! ### What a reader finds -/

/-- Where a `Spot` is. -/
def Spot.location : Spot → Location
  | entry parent name _ => parent ++ [name]
  | directory l => l

/-- The directory that a `Spot` lies in, or that it is. -/
def Spot.base : Spot → Location
  | entry parent _ _ => parent
  | directory l => l

/-- What a reader can find of an entry: behind a slash it can be a directory only. -/
def seen? (slash : Bool) : Option Node → Option Node
  | some (.file bytes) => if slash then none else some (.file bytes)
  | n? => n?

/-- What a reader finds at a `Spot`. -/
def shown? (fs : Filesystem) : Spot → Option Node
  | .directory _ => some .directory
  | .entry parent name slash =>
    if maxName < name.utf8ByteSize then none else seen? slash (fs.node? (parent ++ [name]))

/-- What `shown?` says of an entry: nothing where its name is too long, and behind a slash no file.
    -/
theorem shown?_entry (fs : Filesystem) (parent : Location) (name : String) (slash : Bool) :
    fs.shown? (.entry parent name slash) =
      if maxName < name.utf8ByteSize then none
      else seen? slash (fs.node? (parent ++ [name])) := rfl

/-- Where the same stands at the `location` of a spot, the spot shows the same. -/
theorem shown?_same {fs fs' : Filesystem} {spot : Spot}
    (same : fs'.node? spot.location = fs.node? spot.location) :
    fs'.shown? spot = fs.shown? spot := by
  cases spot with
  | directory l => rfl
  | entry parent name slash =>
    rw [Spot.location] at same
    rw [shown?_entry, shown?_entry, same]

/-- What a reader finds at a path, by `find`. -/
def found? (fs : Filesystem) (path : String) : Option Node :=
  (fs.find path).toOption

/-- A reader finds what is shown at the spot that `locate` leads to. -/
theorem found?_eq (fs : Filesystem) (path : String) :
    fs.found? path = (fs.locate path).toOption.bind fs.shown? := by
  unfold found? find
  cases fs.locate path with
  | error e => rfl
  | ok spot =>
    cases spot with
    | directory l => rfl
    | entry parent name slash =>
      rw [Except.toOption, Option.bind_some, shown?_entry]
      show (fs.lookup parent name >>= _).toOption = _
      -- a name that is too long is refused and shows nothing; behind a slash a file does not show
      unfold lookup refuse
      split
      · rfl
      · cases fs.node? (parent ++ [name]) with
        | none => rfl
        | some n =>
          cases n with
          | directory => rfl
          | file bytes => cases slash <;> rfl

/-- What is `found?` at a path that leads to a spot is what the spot shows. -/
theorem found?_of_locate {fs : Filesystem} {path : String} {spot : Spot}
    (h : fs.locate path = .ok spot) : fs.found? path = fs.shown? spot := by
  rw [found?_eq, h]
  rfl

/-- Whoever finds something by `found?` has followed the path to its spot. -/
theorem exists_spot_of_found? {fs : Filesystem} {path : String} {n : Node}
    (h : fs.found? path = some n) :
    ∃ spot, fs.locate path = .ok spot ∧ fs.shown? spot = some n := by
  rw [found?_eq] at h
  cases hl : fs.locate path with
  | error e =>
    rw [hl] at h
    cases h
  | ok spot =>
    rw [hl] at h
    exact ⟨spot, rfl, h⟩

/-- What is `shown?` under a name is what stands there. -/
theorem node?_of_shown? {fs : Filesystem} {parent : Location} {name : String} {slash : Bool}
    {n : Node} (h : fs.shown? (.entry parent name slash) = some n) :
    fs.node? (parent ++ [name]) = some n := by
  rw [shown?_entry] at h
  split at h
  · cases h
  · unfold seen? at h
    split at h
    · rename_i bytes hb
      cases slash with
      | true => cases h
      | false => exact hb.trans h
    · exact h

/-- A file whose name fits is shown as it stands. -/
theorem shown?_of_file {fs : Filesystem} {parent : Location} {name : String} {bytes : List UInt8}
    (fits : Fits name) (h : fs.node? (parent ++ [name]) = some (.file bytes)) :
    fs.shown? (.entry parent name false) = some (.file bytes) := by
  rw [shown?_entry, if_neg (Nat.not_lt.mpr fits), h]
  rfl

/-- `readFile` gives the bytes of a file where `find` finds the file. -/
theorem readFile_eq_ok_iff {fs : Filesystem} {path : String} {bytes : List UInt8} :
    fs.readFile path = .ok bytes ↔ fs.find path = .ok (.file bytes) := by
  unfold readFile
  rw [bind_eq_ok]
  constructor
  · rintro ⟨n, hn, hc⟩
    cases n with
    | directory => cases hc
    | file bytes' =>
      cases hc
      exact hn
  · intro h
    exact ⟨_, h, rfl⟩

/-- `find` is `found?` without its reasons. -/
theorem find_eq_ok_iff {fs : Filesystem} {path : String} {n : Node} :
    fs.find path = .ok n ↔ fs.found? path = some n := by
  unfold found?
  cases fs.find path <;> simp [Except.toOption]

/-! ### What an elementary change does -/

/-- A directory that `makeDirectory` made is put where nothing stood. -/
theorem makeDirectory_ok {fs fs' : Filesystem} {path : String}
    (h : fs.makeDirectory path = .ok fs') :
    ∃ parent name slash, fs.locate path = .ok (.entry parent name slash) ∧
      fs.node? (parent ++ [name]) = none ∧ fs' = fs.put (parent ++ [name]) .directory := by
  obtain ⟨spot, hspot, h⟩ := bind_eq_ok.mp h
  cases spot with
  | directory l => cases h
  | entry parent name slash =>
    obtain ⟨n?, hn, h⟩ := bind_eq_ok.mp h
    cases n? with
    | some n => cases h
    | none =>
      cases h
      exact ⟨parent, name, slash, hspot, (lookup_ok.mp hn).2, rfl⟩

/-- A file that `create` made is put at a name that fits, where no directory stood. -/
theorem create_ok {fs fs' : Filesystem} {path : String} (h : fs.create path = .ok fs') :
    ∃ parent name, fs.locate path = .ok (.entry parent name false) ∧ Fits name ∧
      fs.node? (parent ++ [name]) ≠ some .directory ∧
      fs' = fs.put (parent ++ [name]) (.file []) := by
  obtain ⟨spot, hspot, h⟩ := bind_eq_ok.mp h
  cases spot with
  | directory l => cases h
  | entry parent name slash =>
    cases slash with
    | true => cases h
    | false =>
      obtain ⟨n?, hn, h⟩ := bind_eq_ok.mp h
      obtain ⟨fits, hnode⟩ := lookup_ok.mp hn
      split at h
      · cases h
      · rename_i no_directory
        cases h
        exact ⟨parent, name, hspot, fits, hnode ▸ no_directory, rfl⟩

/-- `append` puts the bytes behind those of a file that stands there, and does nothing else. -/
theorem append_ok {fs fs' : Filesystem} {path : String} {bytes : List UInt8} :
    fs.append path bytes = .ok fs' ↔
      ∃ parent name slash old, fs.locate path = .ok (.entry parent name slash) ∧ Fits name ∧
        fs.node? (parent ++ [name]) = some (.file old) ∧
        fs' = fs.put (parent ++ [name]) (.file (old ++ bytes)) := by
  constructor
  · intro h
    obtain ⟨spot, hspot, h⟩ := bind_eq_ok.mp h
    cases spot with
    | directory l => cases h
    | entry parent name slash =>
      obtain ⟨n?, hn, h⟩ := bind_eq_ok.mp h
      obtain ⟨fits, hnode⟩ := lookup_ok.mp hn
      split at h
      · cases h
      · cases h
      · rename_i old
        cases h
        exact ⟨parent, name, slash, old, hspot, fits, hnode, rfl⟩
  · rintro ⟨parent, name, slash, old, hspot, fits, hnode, rfl⟩
    unfold append
    rw [bind_eq_ok]
    refine ⟨_, hspot, ?_⟩
    rw [bind_eq_ok]
    exact ⟨_, lookup_ok.mpr ⟨fits, hnode⟩, rfl⟩

/-- `rename` removes a file and puts it at its new name, and both names are those of files. -/
theorem rename_ok {fs fs' : Filesystem} {source target : String}
    (h : fs.rename source target = .ok fs') :
    ∃ sourceParent sourceName targetParent targetName bytes,
      fs.locate source = .ok (.entry sourceParent sourceName false) ∧ Fits sourceName ∧
      fs.locate target = .ok (.entry targetParent targetName false) ∧ Fits targetName ∧
      fs.node? (sourceParent ++ [sourceName]) = some (.file bytes) ∧
      fs.node? (targetParent ++ [targetName]) ≠ some .directory ∧
      fs' = (fs.remove (sourceParent ++ [sourceName])).put (targetParent ++ [targetName])
        (.file bytes) := by
  obtain ⟨spot, hsource, h⟩ := bind_eq_ok.mp h
  obtain ⟨spot', htarget, h⟩ := bind_eq_ok.mp h
  cases spot with
  | directory l => cases h
  | entry sourceParent sourceName sourceSlash =>
    cases spot' with
    | directory l => cases h
    -- both paths lead to entries; the old one has to be a file, the new one must not be a directory
    | entry targetParent targetName targetSlash =>
      obtain ⟨old?, hold, h⟩ := bind_eq_ok.mp h
      obtain ⟨new?, hnew, h⟩ := bind_eq_ok.mp h
      obtain ⟨fits', holdNode⟩ := lookup_ok.mp hold
      obtain ⟨fits, hnewNode⟩ := lookup_ok.mp hnew
      cases old? with
      | none => cases h
      | some old =>
        cases old with
        | directory => cases h
        | file bytes =>
          simp only at h
          split at h
          · cases h
          · rename_i no_slash
            split at h
            · cases h
            · rename_i no_directory
              cases h
              obtain ⟨rfl, rfl⟩ : sourceSlash = false ∧ targetSlash = false := by
                simpa using no_slash
              exact ⟨sourceParent, sourceName, targetParent, targetName, bytes, hsource, fits',
                htarget, fits, holdNode, hnewNode ▸ no_directory, rfl⟩

end Filesystem

end FlowDump
