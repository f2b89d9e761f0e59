import FlowDump.Proofs.Json.Tokens

/-!
# The texts of a document

What arrays, objects and whole documents look like.  Blanks may stand in front of every value, name
and mark, and a name may come up more than once in an object.

* `Items`, `Bracketed`, `Member` — lists of anything, and members of an object.
* `Value` — values with arrays and objects nested up to a limit.
* `finds_value` — the reader finds the values that a text stands for, and no others.
* `Document`, `Object` — a whole text, and one that is an object with its members one by one.
* `parse_eq_some_iff` — a text is read exactly as what it stands for.
-/

namespace FlowDump.Json.Grammar

variable {α : Type}

/-! ### Lists -/

/-- What stands for one thing at the front of a text. -/
abbrev Relation (α : Type) := List Char → α → List Char → Prop

/-- Items with commas between them, up to the closing mark. -/
inductive Items (Item : Relation α) (close : Char) : Relation (List α) where
  | last {s t r : List Char} {x : α} (h : Item s x t) (blanks : Blanks t (close :: r)) :
      Items Item close s [x] r
  | more {s t u r : List Char} {x : α} {xs : List α} (h : Item s x t) (blanks : Blanks t (',' :: u))
      (rest : Items Item close u xs r) : Items Item close s (x :: xs) r

/-- `Items` from after the opening mark up to the closing one, or none. -/
inductive Bracketed (Item : Relation α) (close : Char) : Relation (List α) where
  | empty {s r : List Char} (blanks : Blanks s (close :: r)) : Bracketed Item close s [] r
  | filled {s r : List Char} {xs : List α} (h : Items Item close s xs r) :
      Bracketed Item close s xs r

/-- A member of an object: a name, a colon and a value. -/
inductive Member (Value : Relation Json) : Relation (String × Json) where
  | intro {s t u w r cs : List Char} {v : Json} (front : Blanks s ('"' :: t))
      (name : Characters t cs u) (back : Blanks u (':' :: w)) (value : Value w v r) :
      Member Value s (String.ofList cs, v) r

/-- A reader that finds what the relation says is there, as long as what follows does not carry on a
    number, and nothing else.  It passes over blanks, and there is nothing before the end of a list.
    This is what `items` asks of the reader of an item. -/
structure Finds (item : List Char → Option (α × List Char)) (Item : Relation α) (close : Char) :
    Prop where
  complete : ∀ {s x r}, Item s x r → EndsNumeral r → item s = some (x, r)
  sound : ∀ {s x r}, item s = some (x, r) → Item s x r
  skip : ∀ s, item (skipBlank s) = item s
  shrinks : Shrinks item
  closed : ∀ r, item (close :: r) = none

section Lists

variable {item : List Char → Option (α × List Char)} {Item : Relation α} {close : Char}

/-- What a list is ended by, with `Blanks` in front, does not carry on a number. -/
theorem endsNumeral_of_mark {c : Char} (hc : c ∈ [',', ']', '}']) {t r : List Char}
    (blanks : Blanks t (c :: r)) : EndsNumeral t := by
  refine blanks.endsNumeral fun c' hc' => ?_
  cases hc'
  simp only [List.mem_cons, List.not_mem_nil, or_false] at hc
  rcases hc with rfl | rfl | rfl <;> decide

/-- `items` reads the `Items` of a list, given a step for each of them. -/
theorem Items.items_eq (finds : Finds item Item close) (hclose : close ∈ [']', '}'])
    {s r : List Char} {xs : List α} (h : Items Item close s xs r) {steps : Nat}
    (enough : xs.length ≤ steps) : items item close steps s = some (xs, r) := by
  have marks : close ∈ [',', ']', '}'] := List.mem_cons_of_mem _ hclose
  have visible : isBlank close = false ∧ close ≠ ',' := by
    simp only [List.mem_cons, List.not_mem_nil, or_false] at hclose
    rcases hclose with rfl | rfl <;> decide
  induction h generalizing steps with
  -- one step is left for each item
  | last h blanks =>
    obtain ⟨steps, rfl⟩ : ∃ n, steps = n + 1 := ⟨steps - 1, by simp at enough; omega⟩
    rw [items, finds.complete h (endsNumeral_of_mark marks blanks)]
    simp only [blanks.skipBlank_cons visible.1, if_true]
  | more h blanks rest ih =>
    obtain ⟨steps, rfl⟩ : ∃ n, steps = n + 1 := ⟨steps - 1, by simp at enough; omega⟩
    have inner := @ih steps (by simpa using enough)
    rw [items, finds.complete h (endsNumeral_of_mark (by decide) blanks)]
    simp only [blanks.skipBlank_cons (show isBlank ',' = false by decide), Ne.symm visible.2,
      if_false, if_true, inner, Option.map_some]

/-- What `items` reads are `Items`. -/
theorem of_items (finds : Finds item Item close) {steps : Nat} {s r : List Char} {xs : List α}
    (h : items item close steps s = some (xs, r)) : Items Item close s xs r := by
  -- the induction is on the steps; each one reads an item, blanks, and a comma or the closing mark
  induction steps generalizing s xs r with
  | zero => cases h
  | succ steps ih =>
    unfold items at h
    split at h
    · cases h
    · rename_i x t hx
      have blanks := blanks_skipBlank t
      split at h
      · cases h
      · rename_i c u hu
        rw [hu] at blanks
        split at h
        · rename_i hc
          cases h
          subst hc
          exact .last (finds.sound hx) blanks
        · split at h
          · rename_i hc
            subst hc
            obtain ⟨⟨rest, r'⟩, hrest, he⟩ := Option.map_eq_some_iff.mp h
            cases he
            exact .more (finds.sound hx) blanks (ih hrest)
          · cases h

/-- `items` passes over blanks in front of the first item, since the item itself passes over them.
    -/
theorem items_skipBlank (finds : Finds item Item close) (steps : Nat) (s : List Char) :
    items item close steps (skipBlank s) = items item close steps s := by
  cases steps with
  | zero => rfl
  | succ steps => rw [items, items, finds.skip]

/-- `bracketed` reads what is `Bracketed`: as many steps as there are characters are enough. -/
theorem Bracketed.bracketed_eq (finds : Finds item Item close) (hclose : close ∈ [']', '}'])
    {s r : List Char} {xs : List α} (h : Bracketed Item close s xs r) :
    bracketed item close s = some (xs, r) := by
  cases h with
  | empty blanks =>
    have visible : isBlank close = false := by
      simp only [List.mem_cons, List.not_mem_nil, or_false] at hclose
      rcases hclose with rfl | rfl <;> decide
    unfold bracketed
    simp only [blanks.skipBlank_cons visible, if_true]
  | filled h =>
    -- every item takes a character, so steps beyond the length of the text change nothing
    have all (more : Nat) :
        items item close ((skipBlank s).length + more) (skipBlank s)
          = items item close (skipBlank s).length (skipBlank s) :=
      (items_enough finds.shrinks close (Nat.le_refl _) (Nat.le_add_right ..)).symm
    have read := h.items_eq finds hclose (Nat.le_add_left xs.length (skipBlank s).length)
    rw [← items_skipBlank finds, all] at read
    unfold bracketed
    generalize skipBlank s = s' at read
    cases s' with
    | nil => cases read
    | cons c s' =>
      -- a list with an item does not start with the closing mark, which no item reads
      have no_close : c ≠ close := by
        rintro rfl
        simp [items, finds.closed] at read
      simp only [no_close, if_false, read]

/-- What `bracketed` reads is `Bracketed`. -/
theorem of_bracketed (finds : Finds item Item close) {s r : List Char} {xs : List α}
    (h : bracketed item close s = some (xs, r)) : Bracketed Item close s xs r := by
  have blanks := blanks_skipBlank s
  unfold bracketed at h
  split at h
  · cases h
  · rename_i c t hs
    split at h
    · rename_i hc
      cases h
      rw [hs, hc] at blanks
      exact .empty blanks
    · rw [← hs, items_skipBlank finds] at h
      exact .filled (of_items finds h)

end Lists

/-! ### Values -/

/-- A `Scalar`, or a list with values inside. -/
inductive Nested (Inner : Relation Json) : Relation Json where
  | scalar {s r : List Char} {v : Json} (h : Scalar s v r) : Nested Inner s v r
  | array {s r : List Char} {xs : List Json} (h : Bracketed Inner ']' s xs r) :
      Nested Inner ('[' :: s) (.array xs) r
  | object {s r : List Char} {pairs : List (String × Json)}
      (h : Bracketed (Member Inner) '}' s pairs r) : Nested Inner ('{' :: s) (ofMembers pairs) r

/-- A value with blanks in front, where arrays and objects may be nested `limit` deep. -/
def Value : (limit : Nat) → Relation Json
  | 0, s, v, r => ∃ t, Blanks s t ∧ Scalar t v r
  | limit + 1, s, v, r => ∃ t, Blanks s t ∧ Nested (Value limit) t v r

theorem skipBlank_skipBlank (s : List Char) : skipBlank (skipBlank s) = skipBlank s :=
  (blanks_skipBlank s).skipBlank_eq.symm

/-- `value` passes over the blanks in front. -/
theorem value_skipBlank (limit : Nat) (s : List Char) :
    value limit (skipBlank s) = value limit s := by
  cases limit <;> rw [value, value, skipBlank_skipBlank]

/-- `value` finds nothing where a list is closed. -/
theorem value_closed {close : Char} (hclose : close ∈ [']', '}']) (limit : Nat) (r : List Char) :
    value limit (close :: r) = none := by
  simp only [List.mem_cons, List.not_mem_nil, or_false] at hclose
  rcases hclose with rfl | rfl
  all_goals
    rw [value_scalar (by decide), scalar_number (by decide)]
    rfl

/-- `member` finds a `Member` where its reader finds values. -/
theorem finds_member {item : List Char → Option (Json × List Char)} {Inner : Relation Json}
    (finds : Finds item Inner '}') : Finds (member item) (Member Inner) '}' where
  complete h ends := by
    -- the name, the colon and the value come one after the other, each behind its blanks
    cases h with
    | intro front name back value =>
      have quote := front.skipBlank_cons (show isBlank '"' = false by decide)
      have colon := back.skipBlank_cons (show isBlank ':' = false by decide)
      simp only [member, quote, stringBody_eq_some_iff.mpr name, colon, finds.complete value ends,
        Option.map_some]
  sound {s x r} h := by
    have front := blanks_skipBlank s
    unfold member at h
    split at h
    · rename_i t hq
      rw [hq] at front
      split at h
      · cases h
      · rename_i name u hn
        have back := blanks_skipBlank u
        split at h
        · rename_i w hc
          rw [hc] at back
          obtain ⟨⟨v, left⟩, hv, he⟩ := Option.map_eq_some_iff.mp h
          cases he
          exact .intro front (stringBody_eq_some_iff.mp hn) back (finds.sound hv)
        · cases h
    · cases h
  skip s := by rw [member, member, skipBlank_skipBlank]
  shrinks := shrinks_member finds.shrinks
  closed r := by rw [member, Json.skipBlank_cons (by decide)]; rfl

/-- **`value` finds the `Value` that a text stands for, and no other**, at every limit. -/
theorem finds_value {close : Char} (hclose : close ∈ [']', '}']) (limit : Nat) :
    Finds (value limit) (Value limit) close := by
  -- the induction is on the limit: what stands inside an array or an object keeps one level less
  induction limit generalizing close with
  | zero =>
    refine ⟨?_, ?_, value_skipBlank 0, shrinks_value 0, value_closed hclose 0⟩
    · rintro s v r ⟨t, blanks, h⟩ ends
      obtain ⟨c, t, rfl, visible⟩ := h.head
      rw [← value_skipBlank, blanks.skipBlank_eq, value_skipBlank,
        value_scalar visible, h.scalar_eq ends]
    · intro s v r h
      exact ⟨_, blanks_skipBlank s, of_scalar h⟩
  | succ limit ih =>
    have arrays : Finds (value limit) (Value limit) ']' := ih (by decide)
    have objects : Finds (member (value limit)) (Member (Value limit)) '}' :=
      finds_member (ih (by decide))
    refine ⟨?_, ?_, value_skipBlank _, shrinks_value _, value_closed hclose _⟩
    · rintro s v r ⟨t, blanks, h⟩ ends
      rw [← value_skipBlank, blanks.skipBlank_eq, value_skipBlank]
      -- the first character that is no blank tells which of the three it is
      cases h with
      | scalar h =>
        obtain ⟨c, t, rfl, visible⟩ := h.head
        rw [value_scalar visible, h.scalar_eq ends]
      | array h =>
        simp only [value, Json.skipBlank_cons (show isBlank '[' = false by decide),
          h.bracketed_eq arrays (by decide), Option.map_some]
      | object h =>
        simp only [value, Json.skipBlank_cons (show isBlank '{' = false by decide),
          h.bracketed_eq objects (by decide), Option.map_some]
    · intro s v r h
      have blanks := blanks_skipBlank s
      unfold value at h
      split at h
      · rename_i t ht
        obtain ⟨⟨xs, left⟩, hxs, he⟩ := Option.map_eq_some_iff.mp h
        cases he
        exact ⟨_, blanks, ht ▸ .array (of_bracketed arrays hxs)⟩
      · rename_i t ht
        obtain ⟨⟨pairs, left⟩, hpairs, he⟩ := Option.map_eq_some_iff.mp h
        cases he
        exact ⟨_, blanks, ht ▸ .object (of_bracketed objects hpairs)⟩
      · exact ⟨_, blanks, .scalar (of_scalar h)⟩

/-! ### Whole texts -/

/-- A text that is one `Value`, with blanks around it. -/
def Document (limit : Nat) (s : List Char) (v : Json) : Prop :=
  ∃ r, Value limit s v r ∧ Blanks r []

/-- A text that is one object, with blanks around it: its members as they stand, with values nested
    `limit` deep. -/
def Object (limit : Nat) (s : List Char) (pairs : List (String × Json)) : Prop :=
  ∃ t r, Blanks s ('{' :: t) ∧ Bracketed (Member (Value limit)) '}' t pairs r ∧ Blanks r []

/-- What is `Blanks` to its end `skipBlank` passes over to its end. -/
theorem blanks_nil_iff {r : List Char} : Blanks r [] ↔ skipBlank r = [] :=
  ⟨Blanks.skipBlank_eq, fun h => h ▸ blanks_skipBlank r⟩

/-- **A text is read exactly as the `Document` that it stands for.** -/
theorem parse_eq_some_iff {limit : Nat} {s : List Char} {v : Json} :
    parse s limit = some v ↔ Document limit s v := by
  have finds : Finds (value limit) (Value limit) ']' := finds_value (by decide) limit
  unfold parse
  constructor
  · intro h
    split at h
    · rename_i v' r hv
      split at h
      · rename_i blank
        cases h
        exact ⟨r, finds.sound hv, blanks_nil_iff.mpr blank⟩
      · cases h
    · cases h
  · rintro ⟨r, hv, blanks⟩
    have ends : EndsNumeral r := blanks.endsNumeral fun c hc => by cases hc
    rw [finds.complete hv ends]
    simp only [blanks_nil_iff.mp blanks, if_true]

/-- A text is that of an `Object` if the members can be read from it. -/
theorem object_of_bracketed {limit : Nat} {s t r : List Char} {pairs : List (String × Json)}
    (front : skipBlank s = '{' :: t)
    (members : bracketed (member (value limit)) '}' t = some (pairs, r))
    (back : skipBlank r = []) : Object limit s pairs :=
  ⟨t, r, front ▸ blanks_skipBlank s,
    of_bracketed (finds_member (finds_value (by decide) limit)) members, blanks_nil_iff.mpr back⟩

/-- `parse` reads the text of an `Object` as its members, those with one name merged. -/
theorem Object.parse_eq {limit : Nat} {s : List Char} {pairs : List (String × Json)}
    (h : Object limit s pairs) : parse s (limit + 1) = some (ofMembers pairs) := by
  obtain ⟨t, r, front, members, back⟩ := h
  exact parse_eq_some_iff.mpr ⟨r, ⟨_, front, .object members⟩, back⟩

/-- Whatever `parse` reads as an object is the text of an `Object`. -/
theorem exists_object {limit : Nat} {s : List Char} {members : Members String Json}
    (h : parse s (limit + 1) = some (.object members)) :
    ∃ pairs, Object limit s pairs ∧ members = Members.ofList pairs := by
  obtain ⟨r, ⟨t, front, hv⟩, back⟩ := parse_eq_some_iff.mp h
  generalize hmembers : Json.object members = v at hv
  cases hv with
  | scalar plain => cases plain <;> cases hmembers
  | array => cases hmembers
  | object inner =>
    cases hmembers
    exact ⟨_, ⟨_, r, front, inner, back⟩, rfl⟩

end FlowDump.Json.Grammar
