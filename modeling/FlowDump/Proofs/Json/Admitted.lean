import FlowDump.Proofs.Json.Number

/-!
# What a document can hold

* `Admitted` — the values that a reader with a nesting limit can give: integers fit 64 bits, no
  object has a name twice, and arrays and objects keep within the limit.
* `admitted_of_value` — it gives no others.
* `Json.exact` — whether a value holds integers only, at any depth.
-/

namespace FlowDump.Json

variable {α : Type}

/-- The values that can be read where arrays and objects may be nested `limit` deep. -/
inductive Admitted : Nat → Json → Prop where
  | null {limit : Nat} : Admitted limit .null
  | bool {limit : Nat} (b : Bool) : Admitted limit (.bool b)
  | integer {limit : Nat} {n : Int} (fits : Fits n) : Admitted limit (.number (.integer n))
  | double {limit : Nat} (bits : UInt64) : Admitted limit (.number (.double bits))
  | string {limit : Nat} (s : String) : Admitted limit (.string s)
  | array {limit : Nat} {items : List Json} (inner : ∀ v ∈ items, Admitted limit v) :
      Admitted (limit + 1) (.array items)
  | object {limit : Nat} {members : List (String × Json)} (nodup : (Members.keys members).Nodup)
      (inner : ∀ p ∈ members, Admitted limit p.2) : Admitted (limit + 1) (.object members)

/-! ### The reader gives no others -/

/-- What `scalar` reads is `Admitted` at every depth. -/
theorem admitted_of_scalar {s r : List Char} {v : Json} (limit : Nat)
    (h : scalar s = some (v, r)) : Admitted limit v := by
  unfold scalar at h
  split at h
  · obtain ⟨⟨t, left⟩, -, he⟩ := Option.map_eq_some_iff.mp h
    cases he
    exact .string _
  · obtain ⟨left, -, he⟩ := Option.map_eq_some_iff.mp h
    cases he
    exact .bool true
  · obtain ⟨left, -, he⟩ := Option.map_eq_some_iff.mp h
    cases he
    exact .bool false
  · obtain ⟨left, -, he⟩ := Option.map_eq_some_iff.mp h
    cases he
    exact .null
  · simp only [bind, Option.bind_eq_some_iff, pure] at h
    obtain ⟨⟨numeral, left⟩, -, n, hv, he⟩ := h
    cases he
    cases n with
    | integer n => exact .integer (Numeral.fits_of_value? hv)
    | double bits => exact .double bits

variable {item : List Char → Option (α × List Char)} {P : α → Prop} {close : Char}
  {s r : List Char} {xs : List α}

/-- What holds of every item that can be read holds of all the `items` of a list. -/
theorem forall_of_items (hp : ∀ s x r, item s = some (x, r) → P x) {steps : Nat}
    (h : items item close steps s = some (xs, r)) : ∀ x ∈ xs, P x := by
  -- the induction is on the steps, as in `items`
  induction steps generalizing s xs with
  | zero => cases h
  | succ steps ih =>
    unfold items at h
    split at h
    · cases h
    · rename_i x left hx
      have first := hp s x left hx
      split at h
      · cases h
      · rename_i c left' hc
        split at h
        · cases h
          simpa using first
        · split at h
          · obtain ⟨⟨rest, r'⟩, hrest, he⟩ := Option.map_eq_some_iff.mp h
            cases he
            rw [List.forall_mem_cons]
            exact ⟨first, ih hrest⟩
          · cases h

/-- What holds of every item that can be read holds of all that is `bracketed`. -/
theorem forall_of_bracketed (hp : ∀ s x r, item s = some (x, r) → P x)
    (h : bracketed item close s = some (xs, r)) : ∀ x ∈ xs, P x := by
  unfold bracketed at h
  split at h
  · cases h
  · split at h
    · cases h
      simp
    · exact forall_of_items hp h

/-- What holds of every value that can be read holds of that of a `member`. -/
theorem of_member {p : List Char → Option (Json × List Char)} {P : Json → Prop}
    (hp : ∀ s v r, p s = some (v, r) → P v) {m : String × Json}
    (h : member p s = some (m, r)) : P m.2 := by
  unfold member at h
  split at h
  · split at h
    · cases h
    · split at h
      · obtain ⟨⟨v, left⟩, hv, he⟩ := Option.map_eq_some_iff.mp h
        cases he
        exact hp _ v _ hv
      · cases h
  · cases h

/-- What `value` reads keeps within the limits of a document. -/
theorem admitted_of_value {limit : Nat} {s r : List Char} {v : Json}
    (h : value limit s = some (v, r)) : Admitted limit v := by
  induction limit generalizing s v r with
  | zero => exact admitted_of_scalar 0 h
  | succ limit ih =>
    unfold value at h
    split at h
    · obtain ⟨⟨xs, left⟩, hxs, he⟩ := Option.map_eq_some_iff.mp h
      cases he
      exact .array (forall_of_bracketed (fun s x r hx => ih hx) hxs)
    · obtain ⟨⟨ms, left⟩, hms, he⟩ := Option.map_eq_some_iff.mp h
      cases he
      have inner : ∀ p ∈ ms, Admitted limit p.2 :=
        forall_of_bracketed (fun s x r hx => of_member (fun s v r hv => ih hv) hx) hms
      exact .object (Members.nodup_keys_ofList ms) fun p hp => inner p (Members.mem_ofList hp)
    · exact admitted_of_scalar _ h

/-- What `parse` reads keeps within the limits of a document, and so can be written and read again.
    -/
theorem admitted_of_parse {s : List Char} {limit : Nat} {v : Json}
    (h : parse s limit = some v) : Admitted limit v := by
  unfold parse at h
  split at h
  · rename_i v' r hv
    split at h
    · cases h
      exact admitted_of_value hv
    · cases h
  · cases h

/-! ### Integers only -/

mutual

/-- Whether all numbers of a value are integers, at any depth. -/
def exact : Json → Bool
  | .number (.double _) => false
  | .array items => exactItems items
  | .object members => exactMembers members
  | _ => true

/-- Whether all numbers of some items are integers, by `exact`. -/
def exactItems : List Json → Bool
  | [] => true
  | v :: rest => exact v && exactItems rest

/-- Whether all numbers of some members are integers, by `exact`. -/
def exactMembers : List (String × Json) → Bool
  | [] => true
  | (_, v) :: rest => exact v && exactMembers rest

end

theorem exactItems_iff {items : List Json} :
    exactItems items = true ↔ ∀ v ∈ items, exact v = true := by
  induction items with
  | nil => simp [exactItems]
  | cons v rest ih => simp [exactItems, ih]

theorem exactMembers_iff {members : List (String × Json)} :
    exactMembers members = true ↔ ∀ p ∈ members, exact p.2 = true := by
  induction members with
  | nil => simp [exactMembers]
  | cons p rest ih => simp [exactMembers, ih]

end FlowDump.Json
