import FlowDump.Proofs.Json.RoundTrip

/-!
# Strings, numbers and words

What the parts of a document look like that hold no other, as relations between the front of a text,
what it stands for, and what follows it.  A character may be escaped in any way.

* `Blanks` — blanks between the parts.
* `Characters` — strings; `stringBody_eq_some_iff` says that they are read as such.
* `Numeral` — numbers as they are written; `Numeral.read?_eq` and `of_read?` say that they are read
  as such, as long as what follows does not carry them on.
* `Scalar` — values that hold no other, with `Scalar.scalar_eq` and `of_scalar`.
-/

namespace FlowDump.Json.Grammar

/-! ### Blanks -/

/-- Blanks, or none, in front of what follows: what `skipBlank` may pass over. -/
inductive Blanks : List Char → List Char → Prop where
  | none (r : List Char) : Blanks r r
  | more {c : Char} {s r : List Char} (blank : isBlank c = true) (rest : Blanks s r) :
      Blanks (c :: s) r

/-- What `skipBlank` leaves stands behind `Blanks`. -/
theorem blanks_skipBlank (s : List Char) : Blanks s (skipBlank s) := by
  induction s with
  | nil => exact .none []
  | cons c s ih =>
    by_cases blank : isBlank c = true
    · rw [skipBlank, List.dropWhile_cons_of_pos blank]
      exact .more blank ih
    · rw [skipBlank, List.dropWhile_cons_of_neg blank]
      exact .none _

/-- From before `Blanks` and from after them `skipBlank` comes to the same place. -/
theorem Blanks.skipBlank_eq {s r : List Char} (h : Blanks s r) : skipBlank s = skipBlank r := by
  induction h with
  | none r => rfl
  | more blank rest ih => rw [← ih, skipBlank, List.dropWhile_cons_of_pos blank, ← skipBlank]

/-- `Blanks` in front of something else are passed over, up to it. -/
theorem Blanks.skipBlank_cons {s r : List Char} {c : Char} (h : Blanks s (c :: r))
    (visible : isBlank c = false) : skipBlank s = c :: r := by
  rw [h.skipBlank_eq, Json.skipBlank_cons visible]

/-- `Blanks` do not carry on a number: before them a number ends where it ends before what follows
    them. -/
theorem Blanks.endsNumeral {s r : List Char} (h : Blanks s r) (hr : EndsNumeral r) :
    EndsNumeral s := by
  cases h with
  | none r => exact hr
  | more blank rest =>
    intro c hc
    cases hc
    simp only [isBlank, Bool.or_eq_true, decide_eq_true_eq] at blank
    rcases blank with ((rfl | rfl) | rfl) | rfl <;> decide

/-! ### Strings -/

/-- A character of a string: as itself, by one letter, by its number, or by the two numbers of a
    pair. -/
inductive Character : List Char → Char → List Char → Prop where
  | plain {c : Char} {r : List Char} (no_quote : c ≠ '"') (no_backslash : c ≠ '\\')
      (no_control : ¬ c.toNat < 0x20) : Character (c :: r) c r
  | letter {e c : Char} {r : List Char} (h : escaped? e = some c) : Character ('\\' :: e :: r) c r
  | number {a b c d : Char} {n : Nat} {r : List Char} (h : codeUnit? a b c d = some n)
      (no_low : ¬ (0xDC00 ≤ n ∧ n ≤ 0xDFFF)) (no_high : ¬ (0xD800 ≤ n ∧ n ≤ 0xDBFF)) :
      Character ('\\' :: 'u' :: a :: b :: c :: d :: r) (Char.ofNat n) r
  | pair {a b c d a' b' c' d' : Char} {high low : Nat} {r : List Char}
      (h : codeUnit? a b c d = some high) (is_high : 0xD800 ≤ high ∧ high ≤ 0xDBFF)
      (h' : codeUnit? a' b' c' d' = some low) (is_low : 0xDC00 ≤ low ∧ low ≤ 0xDFFF) :
      Character
        ('\\' :: 'u' :: a :: b :: c :: d :: '\\' :: 'u' :: a' :: b' :: c' :: d' :: r)
        (Char.ofNat (0x10000 + (high - 0xD800) * 0x400 + (low - 0xDC00))) r

/-- The characters of a string, one `Character` after the other, from after its opening quote up to
    its closing one. -/
inductive Characters : List Char → List Char → List Char → Prop where
  | done {r : List Char} : Characters ('"' :: r) [] r
  | more {s t r : List Char} {c : Char} {cs : List Char} (first : Character s c t)
      (rest : Characters t cs r) : Characters s (c :: cs) r

/-- `stringBody` takes a `Character` off the front, in whichever of its spellings it stands there.
    -/
theorem Character.stringBody_eq {s t : List Char} {c : Char} (h : Character s c t) :
    stringBody s = (stringBody t).map fun (cs, r) => (c :: cs, r) := by
  cases h with
  | plain no_quote no_backslash no_control =>
    rw [stringBody_plain no_quote no_backslash, if_neg no_control]
  | @letter e c r h =>
    have he : e ≠ 'u' := by
      rintro rfl
      cases h
    rw [stringBody_escaped he, h, Option.bind_some]
  | number h no_low no_high => simp only [stringBody, h, no_low, no_high, if_false]
  | @pair a b c d a' b' c' d' high low r h is_high h' is_low =>
    have no_low : ¬ (0xDC00 ≤ high ∧ high ≤ 0xDFFF) := by omega
    simp only [stringBody, h, h', no_low, is_high, is_low, and_self, if_true, if_false]

/-- **A string is read as its `Characters`**, however they are written. -/
theorem stringBody_eq_some_iff {s cs r : List Char} :
    stringBody s = some (cs, r) ↔ Characters s cs r := by
  constructor
  · intro h
    fun_induction stringBody s generalizing cs r with
    | case1 | case3 | case4 | case5 | case7 | case8 | case10 | case12 => cases h
    | case2 rest =>
      cases h
      exact .done
    -- a pair of surrogates, a number, a letter behind a backslash, or a plain character comes first
    | case6 a b c d unit hu hl hh a' b' c' d' rest low hu' hl' ih =>
      obtain ⟨⟨t, left⟩, ht, he⟩ := Option.map_eq_some_iff.mp h
      cases he
      exact .more (.pair hu hh hu' hl') (ih ht)
    | case9 a b c d rest unit hu hl hh ih =>
      obtain ⟨⟨t, left⟩, ht, he⟩ := Option.map_eq_some_iff.mp h
      cases he
      exact .more (.number hu hl hh) (ih ht)
    | case11 e rest hn c he ih =>
      obtain ⟨⟨t, left⟩, ht, he'⟩ := Option.map_eq_some_iff.mp h
      cases he'
      exact .more (.letter he) (ih ht)
    | case13 c rest hq _ hb hc ih =>
      obtain ⟨⟨t, left⟩, ht, he⟩ := Option.map_eq_some_iff.mp h
      cases he
      rw [not_or] at hc
      exact .more (.plain hq hc.1 hc.2) (ih ht)
  · intro h
    induction h with
    | done => rfl
    | more first rest ih => rw [first.stringBody_eq, ih, Option.map_some]

/-! ### Numbers -/

/-- Digits, one at least. -/
structure Digits (s ds r : List Char) : Prop where
  eq : s = ds ++ r
  digits : ∀ c ∈ ds, c.isDigit
  ne_nil : ds ≠ []

/-- A whole number: a zero alone, or `Digits` that do not start with one. -/
inductive Whole : List Char → List Char → List Char → Prop where
  | zero {r : List Char} : Whole ('0' :: r) ['0'] r
  | digits {s ds r : List Char} (h : Digits s ds r) (first : s.head? ≠ some '0') : Whole s ds r

/-- A point and `Digits`, or no fraction. -/
inductive Fraction : List Char → Option (List Char) → List Char → Prop where
  | absent {r : List Char} : Fraction r none r
  | present {s ds r : List Char} (h : Digits s ds r) : Fraction ('.' :: s) (some ds) r

/-- The sign of an exponent, or none: whether it is negative. -/
inductive Sign : List Char → Bool → List Char → Prop where
  | absent {r : List Char} : Sign r false r
  | plus {r : List Char} : Sign ('+' :: r) false r
  | minus {r : List Char} : Sign ('-' :: r) true r

/-- A mark, a `Sign` and `Digits`, or no exponent. -/
inductive Exponent : List Char → Option (Bool × List Char) → List Char → Prop where
  | absent {r : List Char} : Exponent r none r
  | present {mark : Char} {s t ds r : List Char} {negative : Bool}
      (is_mark : mark = 'e' ∨ mark = 'E')
      (sign : Sign s negative t) (h : Digits t ds r) : Exponent (mark :: s) (some (negative, ds)) r

/-- A number as it is written: a minus or none, and then `Whole`, `Fraction` and `Exponent`. -/
inductive Numeral : List Char → Json.Numeral → List Char → Prop where
  | positive {s t u r whole : List Char} {fraction : Option (List Char)}
      {exponent : Option (Bool × List Char)} (hw : Whole s whole t) (hf : Fraction t fraction u)
      (he : Exponent u exponent r) : Numeral s ⟨false, whole, fraction, exponent⟩ r
  | negative {s t u r whole : List Char} {fraction : Option (List Char)}
      {exponent : Option (Bool × List Char)} (hw : Whole s whole t) (hf : Fraction t fraction u)
      (he : Exponent u exponent r) : Numeral ('-' :: s) ⟨true, whole, fraction, exponent⟩ r

section Numerals

open Json.Numeral

/-- `digits1?` reads `Digits` up to where no digit follows. -/
theorem Digits.digits1?_eq {s ds r : List Char} (h : Digits s ds r) (ends : EndsDigits r) :
    digits1? s = some (ds, r) := by
  rw [h.eq, digits1?_append h.digits h.ne_nil ends]

theorem of_digits1? {s ds r : List Char} (h : digits1? s = some (ds, r)) : Digits s ds r := by
  unfold digits1? digits at h
  split at h
  · cases h
  · rename_i d ds' rest hd
    cases h
    obtain ⟨taken, left⟩ := Prod.mk.injEq .. ▸ hd
    refine ⟨?_, fun c hc => ?_, List.cons_ne_nil d ds'⟩
    · rw [← taken, ← left, List.takeWhile_append_dropWhile]
    · rw [← taken] at hc
      exact List.all_eq_true.mp List.all_takeWhile c hc

/-- `Digits` start with a digit. -/
theorem Digits.head {s ds r : List Char} (h : Digits s ds r) :
    ∃ d t, s = d :: t ∧ d.isDigit = true := by
  obtain ⟨d, ds, rfl⟩ := List.exists_cons_of_ne_nil h.ne_nil
  exact ⟨d, ds ++ r, h.eq, h.digits d List.mem_cons_self⟩

/-- A `Whole` number starts with a digit. -/
theorem Whole.head {s ds r : List Char} (h : Whole s ds r) :
    ∃ d t, s = d :: t ∧ d.isDigit = true := by
  cases h with
  | zero => exact ⟨'0', r, rfl, rfl⟩
  | digits h first => exact h.head

/-- `readWhole?` reads a `Whole` number up to where no digit follows. -/
theorem Whole.readWhole?_eq {s ds r : List Char} (h : Whole s ds r) (ends : EndsDigits r) :
    readWhole? s = some (ds, r) := by
  cases h with
  | zero => rfl
  | digits h first =>
    rw [readWhole?, h.digits1?_eq ends]
    rintro rest rfl
    exact first rfl

theorem of_readWhole? {s ds r : List Char} (h : readWhole? s = some (ds, r)) : Whole s ds r := by
  unfold readWhole? at h
  split at h
  · cases h
    exact .zero
  · rename_i no_zero
    refine .digits (of_digits1? h) fun first => ?_
    cases s with
    | nil => cases first
    | cons c s =>
      cases first
      exact no_zero s rfl

/-- A text that carries on neither the digits before it nor their fraction. -/
def EndsFraction (s : List Char) : Prop := ∀ c ∈ s.head?, c.isDigit = false ∧ c ≠ '.'

/-- An `Exponent`, or what comes instead of it, does not carry on a fraction. -/
theorem Exponent.endsFraction {s r : List Char} {exponent : Option (Bool × List Char)}
    (h : Exponent s exponent r) (ends : EndsNumeral r) : EndsFraction s := by
  cases h with
  | absent => exact fun c hc => ⟨(ends c hc).1, (ends c hc).2.1⟩
  | present is_mark =>
    intro c hc
    cases hc
    rcases is_mark with rfl | rfl <;> decide

/-- A `Fraction`, or what comes instead of it, does not carry on the digits before it. -/
theorem Fraction.endsDigits {s r : List Char} {fraction : Option (List Char)}
    (h : Fraction s fraction r) (ends : EndsFraction r) : EndsDigits s := by
  cases h with
  | absent => exact fun c hc => (ends c hc).1
  | present =>
    intro c hc
    cases hc
    rfl

/-- `readFraction?` reads a `Fraction` up to where it is not carried on. -/
theorem Fraction.readFraction?_eq {s r : List Char} {fraction : Option (List Char)}
    (h : Fraction s fraction r) (ends : EndsFraction r) :
    readFraction? s = some (fraction, r) := by
  cases h with
  | absent =>
    unfold readFraction?
    split
    · exact absurd rfl (ends _ rfl).2
    · rfl
  | present h =>
    rw [readFraction?, h.digits1?_eq fun c hc => (ends c hc).1]
    rfl

theorem of_readFraction? {s r : List Char} {fraction : Option (List Char)}
    (h : readFraction? s = some (fraction, r)) : Fraction s fraction r := by
  unfold readFraction? at h
  split at h
  · obtain ⟨⟨ds, left⟩, hd, he⟩ := Option.map_eq_some_iff.mp h
    cases he
    exact .present (of_digits1? hd)
  · cases h
    exact .absent

/-- `readSign` reads a `Sign` in front of `Digits`; without the digits a missing sign could not be
    told from a plus. -/
theorem Sign.readSign_eq {s t ds r : List Char} {negative : Bool} (h : Sign s negative t)
    (digits : Digits t ds r) : readSign s = (negative, t) := by
  cases h with
  | absent =>
    obtain ⟨d, t, rfl, digit⟩ := digits.head
    unfold readSign
    split
    · rename_i he
      cases he
      cases digit
    · rename_i he
      cases he
      cases digit
    · rfl
  | plus => rfl
  | minus => rfl

/-- What `readSign` passes over is a `Sign`, be it none. -/
theorem sign_readSign (s : List Char) : Sign s (readSign s).1 (readSign s).2 := by
  unfold readSign
  split
  · exact .plus
  · exact .minus
  · exact .absent

/-- `readExponent?` reads an `Exponent` up to where no number is carried on. -/
theorem Exponent.readExponent?_eq {s r : List Char} {exponent : Option (Bool × List Char)}
    (h : Exponent s exponent r) (ends : EndsNumeral r) :
    readExponent? s = some (exponent, r) := by
  cases h with
  | absent => exact readExponent?_of_ends ends
  | present is_mark sign h =>
    rw [readExponent?, if_pos is_mark, sign.readSign_eq h, h.digits1?_eq fun c hc => (ends c hc).1]
    rfl

theorem of_readExponent? {s r : List Char} {exponent : Option (Bool × List Char)}
    (h : readExponent? s = some (exponent, r)) : Exponent s exponent r := by
  unfold readExponent? at h
  split at h
  · split at h
    · rename_i is_mark
      obtain ⟨⟨ds, left⟩, hd, he⟩ := Option.map_eq_some_iff.mp h
      cases he
      exact .present is_mark (sign_readSign _) (of_digits1? hd)
    · cases h
      exact .absent
  · cases h
    exact .absent

/-- `Numeral.read?` reads a `Numeral` up to where it is not carried on. -/
theorem Numeral.read?_eq {s r : List Char} {n : Json.Numeral} (h : Numeral s n r)
    (ends : EndsNumeral r) : read? s = some (n, r) := by
  cases h with
  | @positive s t u r whole fraction exponent hw hf he =>
    have fraction_ends := he.endsFraction ends
    obtain ⟨d, t', rfl, digit⟩ := hw.head
    have no_minus : readMinus (d :: t') = (false, d :: t') := by
      unfold readMinus
      split
      · rename_i heq
        cases heq
        cases digit
      · rfl
    rw [Json.Numeral.read?_eq, no_minus]
    simp [hw.readWhole?_eq (hf.endsDigits fraction_ends), hf.readFraction?_eq fraction_ends,
      he.readExponent?_eq ends]
  | negative hw hf he =>
    have fraction_ends := he.endsFraction ends
    rw [Json.Numeral.read?_eq, readMinus]
    simp [hw.readWhole?_eq (hf.endsDigits fraction_ends), hf.readFraction?_eq fraction_ends,
      he.readExponent?_eq ends]

/-- What `Numeral.read?` reads is a `Numeral`. -/
theorem of_read? {s r : List Char} {n : Json.Numeral} (h : read? s = some (n, r)) :
    Numeral s n r := by
  rw [Json.Numeral.read?_eq] at h
  obtain ⟨⟨whole, t⟩, hw, h⟩ := Option.bind_eq_some_iff.mp h
  obtain ⟨⟨fraction, u⟩, hf, h⟩ := Option.bind_eq_some_iff.mp h
  obtain ⟨⟨exponent, r'⟩, he, h⟩ := Option.map_eq_some_iff.mp h
  cases h
  unfold readMinus at hw ⊢
  split at hw
  · exact .negative (of_readWhole? hw) (of_readFraction? hf) (of_readExponent? he)
  · exact .positive (of_readWhole? hw) (of_readFraction? hf) (of_readExponent? he)

/-- A `Numeral` starts with a minus or a digit. -/
theorem Numeral.head {s r : List Char} {n : Json.Numeral} (h : Numeral s n r) :
    ∃ c t, s = c :: t ∧ (c = '-' ∨ c.isDigit) := by
  cases h with
  | positive hw =>
    obtain ⟨d, t, rfl, digit⟩ := hw.head
    exact ⟨d, t, rfl, .inr digit⟩
  | negative => exact ⟨'-', _, rfl, .inl rfl⟩

end Numerals

/-! ### Words, numbers and strings -/

/-- A value that holds no other: a string, a number, or one of three words. -/
inductive Scalar : List Char → Json → List Char → Prop where
  | null {r : List Char} : Scalar ('n' :: 'u' :: 'l' :: 'l' :: r) .null r
  | true {r : List Char} : Scalar ('t' :: 'r' :: 'u' :: 'e' :: r) (.bool true) r
  | false {r : List Char} : Scalar ('f' :: 'a' :: 'l' :: 's' :: 'e' :: r) (.bool false) r
  | string {s cs r : List Char} (h : Characters s cs r) :
      Scalar ('"' :: s) (.string (String.ofList cs)) r
  | number {s r : List Char} {numeral : Json.Numeral} {n : Number} (h : Numeral s numeral r)
      (value : numeral.value? = some n) : Scalar s (.number n) r

/-- A `Scalar` starts with no blank and no bracket, so that `value` gets to it. -/
theorem Scalar.head {s r : List Char} {v : Json} (h : Scalar s v r) :
    ∃ c t, s = c :: t ∧ c ∉ [' ', '\t', '\n', '\r', '[', '{'] := by
  cases h with
  | null | true | false | string => exact ⟨_, _, rfl, by decide⟩
  | number h =>
    obtain ⟨c, t, rfl, starts⟩ := h.head
    exact ⟨c, t, rfl, notMem_of_startsNumber starts (by decide)⟩

/-- `scalar` reads a `Scalar`; only a number needs that nothing carries it on. -/
theorem Scalar.scalar_eq {s r : List Char} {v : Json} (h : Scalar s v r) (ends : EndsNumeral r) :
    scalar s = some (v, r) := by
  cases h with
  | null => rfl
  | true => rfl
  | false => rfl
  | string h => rw [scalar, stringBody_eq_some_iff.mpr h, Option.map_some]
  | number h value =>
    have read := h.read?_eq ends
    obtain ⟨c, t, rfl, starts⟩ := h.head
    rw [scalar_number (notMem_of_startsNumber starts (by decide)), read, Option.bind_some, value,
      Option.map_some]

/-- What `afterWord?` passes over is the word. -/
theorem eq_append_of_afterWord? {word s r : List Char} (h : afterWord? word s = some r) :
    s = word ++ r := by
  fun_induction afterWord? word s with
  | case1 s =>
    cases h
    rfl
  | case2 => cases h
  | case3 w word s ih => rw [ih h, List.cons_append]
  | case4 => cases h

/-- What `scalar` reads is a `Scalar`. -/
theorem of_scalar {s r : List Char} {v : Json} (h : scalar s = some (v, r)) : Scalar s v r := by
  unfold scalar at h
  split at h
  · obtain ⟨⟨t, left⟩, ht, he⟩ := Option.map_eq_some_iff.mp h
    cases he
    exact .string (stringBody_eq_some_iff.mp ht)
  · obtain ⟨left, hl, he⟩ := Option.map_eq_some_iff.mp h
    cases he
    rw [eq_append_of_afterWord? hl]
    exact .true
  · obtain ⟨left, hl, he⟩ := Option.map_eq_some_iff.mp h
    cases he
    rw [eq_append_of_afterWord? hl]
    exact .false
  · obtain ⟨left, hl, he⟩ := Option.map_eq_some_iff.mp h
    cases he
    rw [eq_append_of_afterWord? hl]
    exact .null
  · simp only [bind, Option.bind_eq_some_iff, pure] at h
    obtain ⟨⟨numeral, left⟩, hn, n, hv, he⟩ := h
    cases he
    exact .number (of_read? hn) hv

end FlowDump.Json.Grammar
