import FlowDump.Json.Parser

/-!
# The parts of the JSON reader

Every part of the reader takes some characters from the front of a text and leaves the others.

* `stringBody_escaped`, `stringBody_plain` — what a string begins with.
* `Shrinks` — a reader that leaves no more than it was given; all parts are such readers.
* `items_enough` — the items of a list do not depend on the number of steps, once there is a step
  for each character.
-/

namespace FlowDump.Json

variable {α : Type}

/-! ### Strings -/

/-- `stringBody` at an escape of one letter. -/
theorem stringBody_escaped {e : Char} (he : e ≠ 'u') (rest : List Char) :
    stringBody ('\\' :: e :: rest) = (escaped? e).bind fun c =>
      (stringBody rest).map fun (s, r) => (c :: s, r) := by
  rw [stringBody]
  · cases escaped? e <;> rfl
  · intro a b c d rest' h
    exact absurd h he

/-- `stringBody` at a character that stands for itself, which no control character does. -/
theorem stringBody_plain {c : Char} (hq : c ≠ '"') (hb : c ≠ '\\') (rest : List Char) :
    stringBody (c :: rest) = if c.toNat < 0x20 then none
      else (stringBody rest).map fun (s, r) => (c :: s, r) := by
  rw [stringBody]
  · simp [hb]
  · exact hq
  · intro _ _ _ _ _ h
    exact absurd h hb
  · intro _ _ h
    exact absurd h hb

/-! ### Readers that leave no more than they were given -/

/-- What a reader leaves is no longer than what it was given. -/
def Shrinks (p : List Char → Option (α × List Char)) : Prop :=
  ∀ s v r, p s = some (v, r) → r.length ≤ s.length

theorem length_skipBlank_le (s : List Char) : (skipBlank s).length ≤ s.length :=
  (List.dropWhile_sublist _).length_le

/-- What `Shrinks` does so with something done to its value. -/
theorem shrinks_map {β : Type} {p : List Char → Option (α × List Char)} (h : Shrinks p)
    (f : α → β) {s s' : List Char} (hs : s.length ≤ s'.length) {v : β} {r : List Char}
    (hr : ((p s).map fun (a, left) => (f a, left)) = some (v, r)) : r.length ≤ s'.length := by
  obtain ⟨⟨a, left⟩, ha, he⟩ := Option.map_eq_some_iff.mp hr
  cases he
  exact Nat.le_trans (h s a r ha) hs

theorem shrinks_stringBody : Shrinks stringBody := by
  intro s
  fun_induction stringBody s with
  | case1 | case3 | case4 | case5 | case7 | case8 | case10 | case12 => intro v r h; cases h
  | case2 rest =>
    intro v r h
    cases h
    simp
  | case6 | case9 | case11 | case13 =>
    rename_i ih
    intro v r h
    obtain ⟨⟨t, left⟩, ht, he⟩ := Option.map_eq_some_iff.mp h
    cases he
    have := ih t r ht
    simp only [List.length_cons]
    omega

theorem length_afterWord? {word s r : List Char} (h : afterWord? word s = some r) :
    r.length ≤ s.length := by
  fun_induction afterWord? word s with
  | case1 s => cases h; exact Nat.le_refl _
  | case2 => cases h
  | case3 w word s ih => exact Nat.le_succ_of_le (ih h)
  | case4 => cases h

namespace Numeral

theorem shrinks_digits1? : Shrinks digits1? := by
  intro s v r h
  unfold digits1? at h
  split at h
  · cases h
  · rename_i hd
    cases h
    have : r = s.dropWhile Char.isDigit := (congrArg Prod.snd hd).symm
    rw [this]
    exact (List.dropWhile_sublist _).length_le

theorem shrinks_readWhole? : Shrinks readWhole? := by
  intro s v r h
  unfold readWhole? at h
  split at h
  · cases h
    simp
  · exact shrinks_digits1? s v r h

theorem shrinks_readFraction? : Shrinks readFraction? := by
  intro s v r h
  unfold readFraction? at h
  split at h
  · exact shrinks_map shrinks_digits1? some (Nat.le_succ _) h
  · cases h
    exact Nat.le_refl _

theorem length_readSign_le (s : List Char) : (readSign s).2.length ≤ s.length := by
  unfold readSign
  split <;> simp

theorem shrinks_readExponent? : Shrinks readExponent? := by
  intro s v r h
  unfold readExponent? at h
  split at h
  · rename_i c rest
    split at h
    · exact shrinks_map shrinks_digits1? (fun ds => some ((readSign rest).1, ds))
        (Nat.le_succ_of_le (length_readSign_le rest)) h
    · cases h
      exact Nat.le_refl _
  · cases h
    exact Nat.le_refl _

/-- The sign of a `Numeral`: whether it is negative. -/
def readMinus : List Char → Bool × List Char
  | '-' :: rest => (true, rest)
  | s => (false, s)

/-- `Numeral.read?` part after part: what each of its readers leaves is given to the next one. -/
theorem read?_eq (s : List Char) :
    read? s = (readWhole? (readMinus s).2).bind fun (whole, s') =>
      (readFraction? s').bind fun (fraction, s'') =>
        (readExponent? s'').map fun (exponent, r) =>
          ({ negative := (readMinus s).1, whole, fraction, exponent }, r) := by
  have parts : read? s = (readWhole? (readMinus s).2).bind fun p =>
      (readFraction? p.2).bind fun p' => (readExponent? p'.2).bind fun p'' =>
        some ({ negative := (readMinus s).1, whole := p.1, fraction := p'.1,
                exponent := p''.1 }, p''.2) := rfl
  rw [parts]
  simp only [Option.map_eq_bind, Function.comp_def]

theorem shrinks_read? : Shrinks read? := by
  intro s v r h
  rw [read?_eq] at h
  obtain ⟨⟨whole, s'⟩, hw, h⟩ := Option.bind_eq_some_iff.mp h
  obtain ⟨⟨fraction, s''⟩, hf, h⟩ := Option.bind_eq_some_iff.mp h
  obtain ⟨⟨exponent, r'⟩, he, h⟩ := Option.map_eq_some_iff.mp h
  cases h
  have minus : (readMinus s).2.length ≤ s.length := by
    unfold readMinus
    split <;> simp
  have h1 := shrinks_readWhole? _ _ _ hw
  have h2 := shrinks_readFraction? _ _ _ hf
  have h3 := shrinks_readExponent? _ _ _ he
  omega

end Numeral

/-- For `scalar` a value that begins like no string and no word is a number. -/
theorem scalar_number {c : Char} (h : c ∉ ['"', 't', 'f', 'n']) (rest : List Char) :
    scalar (c :: rest) = (Numeral.read? (c :: rest)).bind fun p =>
      p.1.value?.map fun n => (.number n, p.2) := by
  rw [scalar]
  · cases Numeral.read? (c :: rest) with
    | none => rfl
    | some p => cases hv : p.1.value? <;> simp [hv]
  all_goals
    rintro rest ⟨⟩
    simp at h

/-- What is left behind a word is no longer than what follows its first letter. -/
theorem length_of_word {c : Char} {word rest r : List Char} {value v : Json}
    (h : (afterWord? word rest).map (fun left => (value, left)) = some (v, r)) :
    r.length ≤ (c :: rest).length := by
  obtain ⟨left, hl, he⟩ := Option.map_eq_some_iff.mp h
  cases he
  exact Nat.le_succ_of_le (length_afterWord? hl)

/-- `scalar` leaves no more than it was given. -/
theorem shrinks_scalar : Shrinks scalar := by
  intro s v r h
  unfold scalar at h
  split at h
  · exact shrinks_map shrinks_stringBody (fun s => Json.string (String.ofList s))
      (Nat.le_succ _) h
  · exact length_of_word h
  · exact length_of_word h
  · exact length_of_word h
  · simp only [bind, Option.bind_eq_some_iff, pure] at h
    obtain ⟨⟨numeral, left⟩, hn, n, hv, he⟩ := h
    cases he
    exact Numeral.shrinks_read? _ _ _ hn

/-! ### Items -/

/-- `items` leave no more than they were given if no item does. -/
theorem shrinks_items {item : List Char → Option (α × List Char)} (h : Shrinks item)
    (close : Char) (steps : Nat) : Shrinks (items item close steps) := by
  -- the induction is on the steps, since an item may in principle take no character
  induction steps with
  | zero => intro s v r hr; cases hr
  | succ steps ih =>
    intro s v r hr
    unfold items at hr
    split at hr
    · cases hr
    · rename_i x left hx
      have hl := h s x left hx
      have hb := length_skipBlank_le left
      split at hr
      · cases hr
      · rename_i c left' hc
        rw [hc, List.length_cons] at hb
        split at hr
        · cases hr
          omega
        · split at hr
          · exact shrinks_map ih (x :: ·) (by omega) hr
          · cases hr

/-- With a step for each character `items` misses no step: more of them change nothing. -/
theorem items_enough {item : List Char → Option (α × List Char)} (h : Shrinks item)
    (close : Char) {n m : Nat} {s : List Char} (hn : s.length ≤ n) (hm : n ≤ m) :
    items item close n s = items item close m s := by
  induction n generalizing m s with
  | zero =>
    have hs : s = [] := List.length_eq_zero_iff.mp (Nat.le_zero.mp hn)
    subst hs
    cases m with
    | zero => rfl
    | succ m =>
      unfold items
      split
      · rfl
      · rename_i x left hx
        have hl : left = [] := List.length_eq_zero_iff.mp (Nat.le_zero.mp (h _ _ _ hx))
        subst hl
        rfl
  -- the comma or the mark behind an item takes a character, so the next step has one fewer to read
  | succ n ih =>
    obtain ⟨m, rfl⟩ : ∃ m', m = m' + 1 := ⟨m - 1, by omega⟩
    unfold items
    split
    · rfl
    · rename_i x left hx
      have hl := h s x left hx
      have hb := length_skipBlank_le left
      split
      · rfl
      · rename_i c left' hc
        rw [hc, List.length_cons] at hb
        have enough : items item close n left' = items item close m left' :=
          ih (by omega) (by omega)
        rw [enough]

/-- `bracketed` leaves no more than it was given if no item does. -/
theorem shrinks_bracketed {item : List Char → Option (α × List Char)} (h : Shrinks item)
    (close : Char) : Shrinks (bracketed item close) := by
  intro s v r hr
  have hb := length_skipBlank_le s
  unfold bracketed at hr
  split at hr
  · cases hr
  · rename_i c left hc
    rw [hc] at hb
    split at hr
    · cases hr
      rw [List.length_cons] at hb
      omega
    · exact Nat.le_trans (shrinks_items h close _ _ _ _ hr) hb

/-- A `member` leaves no more than it was given if its value does not. -/
theorem shrinks_member {p : List Char → Option (Json × List Char)} (h : Shrinks p) :
    Shrinks (member p) := by
  intro s v r hr
  have hb := length_skipBlank_le s
  unfold member at hr
  split at hr
  · rename_i left hq
    rw [hq, List.length_cons] at hb
    split at hr
    · cases hr
    · rename_i name left' hn
      have hl := shrinks_stringBody _ _ _ hn
      have hb' := length_skipBlank_le left'
      split at hr
      · rename_i left'' hc
        rw [hc, List.length_cons] at hb'
        exact shrinks_map h (fun v => (String.ofList name, v)) (by omega) hr
      · cases hr
  · cases hr

/-- A `value` leaves no more than it was given. -/
theorem shrinks_value (limit : Nat) : Shrinks (value limit) := by
  induction limit with
  | zero =>
    intro s v r hr
    exact Nat.le_trans (shrinks_scalar _ _ _ hr) (length_skipBlank_le s)
  | succ limit ih =>
    intro s v r hr
    have hb := length_skipBlank_le s
    unfold value at hr
    split at hr
    · rename_i left hc
      rw [hc, List.length_cons] at hb
      exact shrinks_map (shrinks_bracketed ih ']') Json.array (by omega) hr
    · rename_i left hc
      rw [hc, List.length_cons] at hb
      exact shrinks_map (shrinks_bracketed (shrinks_member ih) '}') ofMembers (by omega) hr
    · exact Nat.le_trans (shrinks_scalar _ _ _ hr) hb

end FlowDump.Json
