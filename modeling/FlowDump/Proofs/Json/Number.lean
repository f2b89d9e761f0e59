import FlowDump.Proofs.Decimal
import FlowDump.Proofs.Json.Reader

/-!
# Integers are read as they are written

* `Fits` — the integers that a document holds exactly: those of 64 bits, with a sign or without.
* `EndsDigits`, `EndsNumeral` — a text that does not carry on the digits, or the number, before it.
* `scalar_renderSigned` — an integer that fits is read back, and what follows it is left.
* `fits_of_value?` — every integer that is read fits.
-/

namespace FlowDump.Json

/-- The integers that a document holds exactly. -/
def Fits (n : Int) : Prop := -(1 <<< 63) ≤ n ∧ n ≤ (1 <<< 64) - 1

/-- A text that does not carry on the digits before it. -/
def EndsDigits (rest : List Char) : Prop := ∀ c ∈ rest.head?, c.isDigit = false

/-- A text that does not carry on a number before it. -/
def EndsNumeral (rest : List Char) : Prop :=
  ∀ c ∈ rest.head?, c.isDigit = false ∧ c ≠ '.' ∧ c ≠ 'e' ∧ c ≠ 'E'

namespace Numeral

/-! ### Digits -/

/-- `digits1?` reads digits to their end. -/
theorem digits1?_append {ds rest : List Char} (hd : ∀ c ∈ ds, c.isDigit) (some_digit : ds ≠ [])
    (hr : EndsDigits rest) : digits1? (ds ++ rest) = some (ds, rest) := by
  have all : digits (ds ++ rest) = (ds, rest) := by
    unfold digits
    rw [List.takeWhile_append_of_pos hd, List.dropWhile_append_of_pos hd]
    cases rest with
    | nil => simp
    | cons c rest => simp [hr c rfl]
  cases ds with
  | nil => exact absurd rfl some_digit
  | cons d ds => rw [digits1?, all]

/-- `Nat.toDigits` starts no positive number with a zero. -/
theorem head_toDigits {n : Nat} (h : 0 < n) :
    ∃ d ds, Nat.toDigits 10 n = d :: ds ∧ d ≠ '0' := by
  induction n using Nat.strongRecOn with
  | ind n ih =>
    by_cases hn : n < 10
    · exact ⟨n.digitChar, [], Nat.toDigits_of_lt_base hn,
        fun hz => Nat.ne_of_gt h (Nat.digitChar_eq_zero.mp hz)⟩
    · obtain ⟨d, ds, hds, hd⟩ := ih (n / 10) (by omega) (by omega)
      refine ⟨d, ds ++ [(n % 10).digitChar], ?_, hd⟩
      rw [Nat.toDigits_of_base_le (by decide) (by omega), hds, List.cons_append]

/-- `readWhole?` reads the digits of a number, which has no zero in front unless it is zero. -/
theorem readWhole?_toDigits (n : Nat) {rest : List Char} (hr : EndsNumeral rest) :
    readWhole? (Nat.toDigits 10 n ++ rest) = some (Nat.toDigits 10 n, rest) := by
  by_cases hn : n = 0
  · subst hn
    rw [Nat.toDigits_zero]
    rfl
  · obtain ⟨d, ds, hds, hd⟩ := head_toDigits (Nat.pos_of_ne_zero hn)
    have all : ∀ c ∈ d :: ds, c.isDigit := fun c hc => Decimal.isDigit_of_mem (hds ▸ hc)
    rw [hds, List.cons_append, readWhole?, ← List.cons_append,
      digits1?_append all (List.cons_ne_nil d ds) fun c hc => (hr c hc).1]
    rintro rest' ⟨⟩
    exact hd rfl

/-- `readFraction?` reads none where a number ends. -/
theorem readFraction?_of_ends {rest : List Char} (hr : EndsNumeral rest) :
    readFraction? rest = some (none, rest) := by
  unfold readFraction?
  split
  · exact absurd rfl (hr _ rfl).2.1
  · rfl

/-- `readExponent?` reads none where a number ends. -/
theorem readExponent?_of_ends {rest : List Char} (hr : EndsNumeral rest) :
    readExponent? rest = some (none, rest) := by
  unfold readExponent?
  split
  · obtain ⟨-, -, he, hE⟩ := hr _ rfl
    rw [if_neg (by simp [he, hE])]
  · rfl

/-- `Numeral.read?` reads digits with or without a minus to their end. -/
theorem read?_toDigits {s rest : List Char} {negative : Bool} {n : Nat}
    (hs : readMinus s = (negative, Nat.toDigits 10 n ++ rest)) (hr : EndsNumeral rest) :
    read? s = some ({ negative, whole := Nat.toDigits 10 n, fraction := none, exponent := none },
      rest) := by
  rw [read?_eq, hs]
  simp [readWhole?_toDigits n hr, readFraction?_of_ends hr, readExponent?_of_ends hr]

/-! ### Their value -/

/-- `gather` takes all digits of a number that fits 64 bits. -/
theorem gather_of_le {ds : List Char} {significand : Nat}
    (h : Nat.ofDigitChars 10 ds significand ≤ maxNatural) :
    gather significand ds = (Nat.ofDigitChars 10 ds significand, ds.length) := by
  induction ds generalizing significand with
  | nil => rfl
  | cons d ds ih =>
    rw [Nat.ofDigitChars_cons, Nat.mul_comm] at h
    have fits := Nat.le_trans (Decimal.le_ofDigitChars ds _) h
    simp only [gather, if_pos fits, ih h, Nat.ofDigitChars_cons, Nat.mul_comm 10, List.length_cons]

/-- The significand that `gather` makes never outgrows 64 bits. -/
theorem gather_le {ds : List Char} {significand : Nat} (h : significand ≤ maxNatural) :
    (gather significand ds).1 ≤ maxNatural := by
  induction ds generalizing significand with
  | nil => exact h
  | cons d ds ih =>
    simp only [gather]
    split
    · rename_i fits
      exact ih fits
    · exact h

/-- A numeral without a fraction and without an exponent, up to `maxNatural`, is an integer. -/
theorem value?_toDigits (negative : Bool) {n : Nat} (h : n ≤ maxNatural) :
    value? { negative, whole := Nat.toDigits 10 n, fraction := none, exponent := none }
      = some (integer negative n) := by
  have all : gather 0 (Nat.toDigits 10 n) = (n, (Nat.toDigits 10 n).length) := by
    rw [gather_of_le (by rw [Nat.ofDigitChars_ten_toDigits]; exact h),
      Nat.ofDigitChars_ten_toDigits]
  simp [value?, all]

/-- `double?` never makes an integer. -/
theorem double?_ne_integer {negative : Bool} {significand : Nat} {shift : Int}
    {exponent : Option (Bool × List Char)} {n : Int} :
    double? negative significand shift exponent ≠ some (.integer n) := by
  unfold double? signed
  split
  · simp
  · dsimp only
    split
    · split <;> simp
    · simp

/-- Every integer that a `Numeral` stands for fits 64 bits. -/
theorem fits_of_value? {numeral : Numeral} {n : Int} (h : numeral.value? = some (.integer n)) :
    Fits n := by
  have bound : (gather 0 numeral.whole).1 ≤ maxNatural := gather_le (by decide)
  unfold value? at h
  dsimp only at h
  split at h
  · split at h
    · simp only [Option.some.injEq] at h
      generalize (gather 0 numeral.whole).1 = size at h bound
      have : maxNatural = (1 <<< 64) - 1 := rfl
      unfold integer at h
      split at h
      · cases h
        exact ⟨by omega, by omega⟩
      · split at h
        · cases h
        · cases h
          exact ⟨by omega, by omega⟩
    · exact absurd h double?_ne_integer
  · exact absurd h double?_ne_integer

end Numeral

/-! ### Reading back -/

/-- `Decimal.renderSigned` starts with a minus or a digit. -/
theorem head_renderSigned (n : Int) :
    ∃ c s, Decimal.renderSigned n = c :: s ∧ (c = '-' ∨ c.isDigit) := by
  unfold Decimal.renderSigned
  split
  · exact ⟨_, _, rfl, .inl rfl⟩
  · cases hd : Nat.toDigits 10 n.natAbs with
    | nil => exact absurd hd Nat.toDigits_ne_nil
    | cons d ds => exact ⟨d, ds, rfl, .inr (Decimal.isDigit_of_mem (hd ▸ List.mem_cons_self))⟩

/-- What starts a number starts nothing else. -/
theorem notMem_of_startsNumber {c : Char} (h : c = '-' ∨ c.isDigit) {others : List Char}
    (ho : others.all fun d => d != '-' && !d.isDigit) : c ∉ others := by
  intro hmem
  have other := List.all_eq_true.mp ho c hmem
  rcases h with rfl | h
  · simp at other
  · simp [h] at other

/-- `readMinus` takes the minus off a negative number. -/
theorem readMinus_renderSigned (n : Int) (rest : List Char) :
    Numeral.readMinus (Decimal.renderSigned n ++ rest)
      = (decide (n < 0), Nat.toDigits 10 n.natAbs ++ rest) := by
  unfold Decimal.renderSigned
  by_cases hn : n < 0
  · simp [hn, Numeral.readMinus]
  · rw [if_neg hn, decide_eq_false hn]
    unfold Numeral.readMinus
    split
    · rename_i left hleft
      cases hd : Nat.toDigits 10 n.natAbs with
      | nil => exact absurd hd Nat.toDigits_ne_nil
      | cons d ds =>
        -- the minus would be a digit
        rw [hd] at hleft
        cases hleft
        have : Char.isDigit '-' := Decimal.isDigit_of_mem (hd ▸ List.mem_cons_self)
        exact absurd this (by decide)
    · rfl

/-- An integer that `Fits` is not made a double. -/
theorem integer_natAbs {n : Int} (h : Fits n) :
    Numeral.integer (decide (n < 0)) n.natAbs = .integer n := by
  obtain ⟨low, high⟩ := h
  unfold Numeral.integer
  by_cases hn : n < 0
  · rw [if_neg (by simp [hn]), if_neg (by omega)]
    congr
    omega
  · rw [if_pos (by simp [hn])]
    congr
    omega

/-- **`scalar` reads the integers that `Decimal.renderSigned` writes**, up to the limits of 64 bits
    on both sides. -/
theorem scalar_renderSigned {n : Int} (h : Fits n) {rest : List Char} (hr : EndsNumeral rest) :
    scalar (Decimal.renderSigned n ++ rest) = some (.number (.integer n), rest) := by
  obtain ⟨c, s, hs, hc⟩ := head_renderSigned n
  have number : c ∉ ['"', 't', 'f', 'n'] := notMem_of_startsNumber hc (by decide)
  have size : n.natAbs ≤ Numeral.maxNatural := by
    have max : Numeral.maxNatural = (1 <<< 64) - 1 := rfl
    obtain ⟨low, high⟩ := h
    omega
  rw [hs, List.cons_append, scalar_number number, ← List.cons_append, ← hs,
    Numeral.read?_toDigits (readMinus_renderSigned n rest) hr]
  simp only [Option.bind_some, Numeral.value?_toDigits _ size, integer_natAbs h, Option.map_some]

end FlowDump.Json
