/-!
# Members in order of first appearance

A keyed collection that remembers where each key was first seen: a later value for a key replaces
the earlier one in place.

* `Members κ β` — the collection, a list of pairs.
* `Members.insert` — add a member, or replace the value of one that is there.
* `Members.ofList` — the collection of a sequence of pairs, duplicates merged.
* `Members.get?` — the value of a key.
* `Members.keys` — the keys in order.
* `get?_insert`, `keys_insert`, `nodup_keys_ofList` — what each operation does to this view.
* `mem_ofList`, `ofList_of_nodup` — a sequence of pairs loses what is replaced and nothing else.
* `keys_ofList`, `get?_ofList` — keys stand in the order of their first pairs, with the values of
  their last ones.
* `get?_eq_some_iff`, `get?_perm` — where no key stands twice, its value does not depend on the
  order.
-/

namespace FlowDump

/-- Keys with their values, in order of first appearance. -/
abbrev Members (κ β : Type) := List (κ × β)

namespace Members

variable {κ β : Type} [DecidableEq κ]

/-- Add a member at the end, or replace the value of a key that is there already. -/
def insert (k : κ) (v : β) : Members κ β → Members κ β
  | [] => [(k, v)]
  | (k', v') :: rest => if k' = k then (k', v) :: rest else (k', v') :: insert k v rest

/-- The members of a sequence of pairs, one `insert` after the other: first position, last value. -/
def ofList (pairs : List (κ × β)) : Members κ β :=
  pairs.foldl (fun m p => insert p.1 p.2 m) []

/-- The value of a key. -/
def get? (m : Members κ β) (k : κ) : Option β :=
  (m.find? (fun p => p.1 = k)).map (·.2)

omit [DecidableEq κ] in
/-- The keys in order. -/
def keys (m : Members κ β) : List κ :=
  m.map (·.1)

omit [DecidableEq κ] in
theorem keys_nil : keys ([] : Members κ β) = [] := rfl

omit [DecidableEq κ] in
theorem keys_cons (p : κ × β) (m : Members κ β) : keys (p :: m) = p.1 :: keys m := rfl

/-! ### What insertion does -/

@[simp] theorem get?_nil (k : κ) : get? ([] : Members κ β) k = none := rfl

theorem get?_cons (p : κ × β) (m : Members κ β) (k : κ) :
    get? (p :: m) k = if p.1 = k then some p.2 else get? m k := by
  unfold get?
  rw [List.find?_cons]
  by_cases h : p.1 = k <;> simp [h]

/-- After `insert` the key has the new value and every other key what it had. -/
theorem get?_insert (k : κ) (v : β) (m : Members κ β) (x : κ) :
    get? (insert k v m) x = if k = x then some v else get? m x := by
  induction m with
  | nil => simp [insert, get?_cons]
  | cons p rest ih =>
    obtain ⟨k', v'⟩ := p
    by_cases hk : k' = k
    · subst hk
      by_cases hx : k' = x <;> simp [insert, get?_cons, hx]
    · by_cases hx : k' = x
      · subst hx
        simp [insert, get?_cons, hk, Ne.symm hk]
      · simp [insert, get?_cons, hk, hx, ih]

/-- `insert` leaves the order of the keys alone and puts a new key last. -/
theorem keys_insert (k : κ) (v : β) (m : Members κ β) :
    keys (insert k v m) = if k ∈ keys m then keys m else keys m ++ [k] := by
  induction m with
  | nil => simp [insert, keys]
  | cons p rest ih =>
    obtain ⟨k', v'⟩ := p
    by_cases hk : k' = k
    · simp [insert, keys, hk]
    · have hk' : ¬ k = k' := fun h => hk h.symm
      simp only [keys] at ih
      simp only [insert, hk, if_false, keys, List.map_cons, ih, List.mem_cons, hk', false_or]
      by_cases hm : k ∈ rest.map (·.1) <;> simp [hm]

/-- Keys stay distinct under `insert`. -/
theorem nodup_keys_insert (k : κ) (v : β) {m : Members κ β} (h : (keys m).Nodup) :
    (keys (insert k v m)).Nodup := by
  rw [keys_insert]
  split
  · exact h
  · rename_i hk
    rw [List.nodup_append]
    refine ⟨h, by simp, ?_⟩
    intro a ha b hb
    rw [List.mem_singleton] at hb
    subst hb
    intro hab
    exact hk (hab ▸ ha)

/-- No key appears twice in what `ofList` makes of a sequence. -/
theorem nodup_keys_ofList (pairs : List (κ × β)) : (keys (ofList pairs)).Nodup := by
  suffices ∀ m : Members κ β, (keys m).Nodup →
      (keys (pairs.foldl (fun m p => insert p.1 p.2 m) m)).Nodup from this [] (by simp [keys])
  induction pairs with
  | nil => exact fun m h => h
  | cons p rest ih => exact fun m h => ih _ (nodup_keys_insert _ _ h)

/-! ### What a sequence of pairs leaves -/

/-- A member after `insert` is the new one or was there. -/
theorem mem_insert {k : κ} {v : β} {m : Members κ β} {p : κ × β} (h : p ∈ insert k v m) :
    p = (k, v) ∨ p ∈ m := by
  induction m with
  | nil => exact .inl (List.mem_singleton.mp h)
  | cons q rest ih =>
    obtain ⟨k', v'⟩ := q
    by_cases hk : k' = k
    · subst hk
      rw [insert, if_pos rfl, List.mem_cons] at h
      exact h.imp_right (List.mem_cons_of_mem _)
    · rw [insert, if_neg hk, List.mem_cons] at h
      rcases h with rfl | h
      · exact .inr List.mem_cons_self
      · exact (ih h).imp_right (List.mem_cons_of_mem _)

/-- Every member of `ofList` was one of the pairs. -/
theorem mem_ofList {pairs : List (κ × β)} {p : κ × β} (h : p ∈ ofList pairs) : p ∈ pairs := by
  suffices ∀ m : Members κ β, p ∈ pairs.foldl (fun m p => insert p.1 p.2 m) m →
      p ∈ m ∨ p ∈ pairs from (this [] h).resolve_left List.not_mem_nil
  clear h
  induction pairs with
  | nil => exact fun m h => .inl h
  | cons q rest ih =>
    intro m h
    rcases ih _ h with h | h
    · rcases mem_insert h with rfl | h
      · exact .inr List.mem_cons_self
      · exact .inl h
    · exact .inr (List.mem_cons_of_mem _ h)

/-- `insert` puts a key that is not there behind the others. -/
theorem insert_of_notMem {k : κ} {v : β} {m : Members κ β} (h : k ∉ keys m) :
    insert k v m = m ++ [(k, v)] := by
  induction m with
  | nil => rfl
  | cons p rest ih =>
    obtain ⟨k', v'⟩ := p
    rw [keys, List.map_cons, List.mem_cons, not_or] at h
    rw [insert, if_neg (Ne.symm h.1), ih h.2, List.cons_append]

/-- Pairs of distinct keys are members already: `ofList` leaves them. -/
theorem ofList_of_nodup {m : Members κ β} (h : (keys m).Nodup) : ofList m = m := by
  suffices ∀ front : Members κ β, (keys (front ++ m)).Nodup →
      m.foldl (fun m p => insert p.1 p.2 m) front = front ++ m from this [] h
  clear h
  induction m with
  | nil => simp
  | cons p rest ih =>
    intro front h
    have new : p.1 ∉ keys front := by
      intro hp
      rw [keys, List.map_append, List.nodup_append] at h
      exact h.2.2 p.1 hp p.1 (by simp) rfl
    rw [List.foldl_cons, insert_of_notMem new, ih (front ++ [(p.1, p.2)]) (by simpa using h)]
    simp

/-- The keys of `ofList` are those of the pairs, each once, in the order in which they first come.
    -/
theorem keys_ofList (pairs : List (κ × β)) : keys (ofList pairs) = (keys pairs).eraseDups := by
  suffices ∀ m : Members κ β, keys (pairs.foldl (fun m p => insert p.1 p.2 m) m) =
      keys m ++ ((keys pairs).removeAll (keys m)).eraseDups by
    rw [ofList, this, keys_nil, List.nil_append, List.removeAll_nil]
  induction pairs with
  | nil => simp [keys]
  | cons p rest ih =>
    intro m
    rw [List.foldl_cons, ih, keys_insert, keys_cons, List.cons_removeAll]
    by_cases hp : p.1 ∈ keys m
    · simp [hp]
    · -- what is left of the others is without the new key
      have others : (keys rest).removeAll (keys m ++ [p.1])
          = ((keys rest).removeAll (keys m)).filter fun k => !k == p.1 := by
        simp only [List.removeAll, List.filter_filter]
        refine List.filter_congr fun k _ => ?_
        simp [Bool.and_comm, Bool.beq_eq_decide_eq]
      simp [hp, others, List.eraseDups_cons]

/-- A key of `ofList` has the value of its last pair. -/
theorem get?_ofList (pairs : List (κ × β)) (k : κ) :
    get? (ofList pairs) k = ((pairs.filter fun p => p.1 = k).getLast?).map (·.2) := by
  suffices ∀ m : Members κ β, get? (pairs.foldl (fun m p => insert p.1 p.2 m) m) k =
      (((pairs.filter fun p => p.1 = k).getLast?).map (·.2)).or (get? m k) by
    rw [ofList, this, get?_nil, Option.or_none]
  induction pairs with
  | nil => simp
  | cons p rest ih =>
    intro m
    rw [List.foldl_cons, ih, get?_insert]
    by_cases hp : p.1 = k
    · rw [if_pos hp, List.filter_cons_of_pos (by simpa using hp), List.getLast?_cons]
      cases (rest.filter fun p => p.1 = k).getLast? <;> simp
    · rw [if_neg hp, List.filter_cons_of_neg (by simpa using hp)]

/-! ### Members of distinct keys -/

/-- `get?` has no value exactly for the keys that are not there. -/
theorem get?_eq_none_iff {m : Members κ β} {k : κ} : get? m k = none ↔ k ∉ keys m := by
  induction m with
  | nil => simp [keys]
  | cons p rest ih =>
    rw [get?_cons, keys_cons, List.mem_cons, not_or]
    by_cases hp : p.1 = k
    · simp [hp]
    · simp [hp, Ne.symm hp, ih]

/-- Where no key stands twice, `get?` gives the value of the only member with the key. -/
theorem get?_eq_some_iff {m : Members κ β} (h : (keys m).Nodup) {k : κ} {v : β} :
    get? m k = some v ↔ (k, v) ∈ m := by
  induction m with
  | nil => simp
  | cons p rest ih =>
    obtain ⟨k', v'⟩ := p
    rw [keys_cons, List.nodup_cons] at h
    rw [get?_cons, List.mem_cons, Prod.mk.injEq]
    by_cases hk : k' = k
    · subst hk
      have absent : (k', v) ∉ rest := fun hm => h.1 (List.mem_map.mpr ⟨_, hm, rfl⟩)
      simp [absent, eq_comm]
    · simp [hk, Ne.symm hk, ih h.2]

/-- The order of members does not decide what `get?` gives. -/
theorem get?_perm {m m' : Members κ β} (h : (keys m).Nodup) (perm : m.Perm m') (k : κ) :
    get? m' k = get? m k := by
  have h' : (keys m').Nodup := (perm.map _).nodup_iff.mp h
  refine Option.ext fun v => ?_
  rw [get?_eq_some_iff h', get?_eq_some_iff h, perm.mem_iff]

end Members

end FlowDump
