import FlowDump.Decimal.Unsigned
import Mathlib.Tactic.MkIffOfInductiveProp

/-!
# Digits and their values

The value of a run of digits has no bound.  A reader with a bound gives that value as long as it
keeps within the bound, however many zeros lead.

* `isDigit_of_mem` — a number is written in digits.
* `le_ofDigitChars` — the value of digits only grows with the digits that follow.
* `readDigits?_eq_some_iff`, `readUnsigned?_eq_some_iff` — what is read, without a sign and with
  one.
* `readUnsigned?_digits` — what a reader makes of a text of digits.
* `readUnsigned?_toDigits` — a number within the bound is read back from its digits.
* `Canonical` — digits without leading zeros; `toDigits_ofDigitChars` says that a number is written
  in one way only with such digits.
* `padded` — digits with zeros in front; `exists_padded` says that all digits are of this form.
* `accumulateWord?_eq` — words of 64 bits come to the same values.
-/

namespace FlowDump.Decimal

variable {max acc n : Nat} {ds : List Char}

theorem isDigit_of_mem {c : Char} (h : c ∈ Nat.toDigits 10 n) : c.isDigit :=
  Nat.isDigit_of_mem_toDigits (by decide) (by decide) h

/-- The value only grows with the digits that follow. -/
theorem le_ofDigitChars (ds : List Char) (n : Nat) : n ≤ Nat.ofDigitChars 10 ds n := by
  rw [Nat.ofDigitChars_eq_ofDigitChars_zero]
  have : 1 * n ≤ 10 ^ ds.length * n := Nat.mul_le_mul_right n (Nat.one_le_pow _ _ (by decide))
  omega

/-- `accumulate?` takes digits to their value, as long as it keeps within the bound. -/
theorem accumulate?_eq (digits : ∀ c ∈ ds, c.isDigit) (within : acc ≤ max) :
    accumulate? max acc ds =
      if Nat.ofDigitChars 10 ds acc ≤ max then some (Nat.ofDigitChars 10 ds acc) else none := by
  induction ds generalizing acc with
  | nil => simp [accumulate?, within]
  | cons d ds ih =>
    rw [List.forall_mem_cons] at digits
    rw [accumulate?, if_pos digits.1, Nat.ofDigitChars_cons, Nat.mul_comm 10]
    by_cases next : acc * 10 + (d.toNat - '0'.toNat) ≤ max
    · rw [if_pos next, ih digits.2 next]
    · -- the digits that follow take it no lower
      have grows := le_ofDigitChars ds (acc * 10 + (d.toNat - '0'.toNat))
      rw [if_neg next, if_neg (by omega)]

/-- Nothing but digits is accumulated by `accumulate?`. -/
theorem isDigit_of_accumulate? (h : accumulate? max acc ds = some n) : ∀ c ∈ ds, c.isDigit := by
  induction ds generalizing acc with
  | nil => exact fun _ hc => absurd hc List.not_mem_nil
  | cons d ds ih =>
    by_cases first : d.isDigit
    · rw [accumulate?, if_pos first, Option.ite_none_right_eq_some] at h
      exact List.forall_mem_cons.mpr ⟨first, ih h.2⟩
    · rw [accumulate?, if_neg first] at h
      cases h

/-- What `readDigits?` reads to a number within the bound: digits of that value, one at least. -/
theorem readDigits?_eq_some_iff :
    readDigits? max ds = some n ↔
      ds ≠ [] ∧ (∀ c ∈ ds, c.isDigit) ∧ Nat.ofDigitChars 10 ds 0 = n ∧ n ≤ max := by
  by_cases empty : ds = []
  · simp [readDigits?, empty]
  · rw [readDigits?, if_neg empty]
    constructor
    · intro h
      have digits := isDigit_of_accumulate? h
      rw [accumulate?_eq digits (Nat.zero_le max), Option.ite_none_right_eq_some,
        Option.some_inj] at h
      obtain ⟨within, rfl⟩ := h
      exact ⟨empty, digits, rfl, within⟩
    · rintro ⟨-, digits, rfl, within⟩
      rw [accumulate?_eq digits (Nat.zero_le max), if_pos within]

/-- Digits have no sign in front, so that `readUnsigned?` reads all of them. -/
theorem readUnsigned?_eq_readDigits? (digits : ∀ c ∈ ds, c.isDigit) :
    readUnsigned? max ds = readDigits? max ds := by
  unfold readUnsigned?
  split
  · exact absurd (digits '+' List.mem_cons_self) (by decide)
  · rfl

theorem readUnsigned?_plus : readUnsigned? max ('+' :: ds) = readDigits? max ds := rfl

/-- What `readUnsigned?` reads, where a sign may come first. -/
theorem readUnsigned?_eq_some_iff {s : List Char} :
    readUnsigned? max s = some n ↔
      ∃ ds, (s = ds ∨ s = '+' :: ds) ∧ readDigits? max ds = some n := by
  constructor
  · unfold readUnsigned?
    split
    · exact fun h => ⟨_, .inr rfl, h⟩
    · exact fun h => ⟨_, .inl rfl, h⟩
  · rintro ⟨ds, rfl | rfl, h⟩
    · rw [readUnsigned?_eq_readDigits? (readDigits?_eq_some_iff.mp h).2.1, h]
    · rw [readUnsigned?_plus, h]

/-- `readUnsigned?` reads a text of digits to its value, as long as that keeps within the bound. -/
theorem readUnsigned?_digits (max : Nat) (digits : ∀ c ∈ ds, c.isDigit) (some_digit : ds ≠ []) :
    readUnsigned? max ds =
      if Nat.ofDigitChars 10 ds 0 ≤ max then some (Nat.ofDigitChars 10 ds 0) else none := by
  rw [readUnsigned?_eq_readDigits? digits, readDigits?, if_neg some_digit,
    accumulate?_eq digits (Nat.zero_le max)]

/-- `readUnsigned?` reads a number within the bound back from its digits. -/
theorem readUnsigned?_toDigits (h : n ≤ max) :
    readUnsigned? max (Nat.toDigits 10 n) = some n := by
  rw [readUnsigned?_digits max (fun _ => isDigit_of_mem) Nat.toDigits_ne_nil,
    Nat.ofDigitChars_ten_toDigits, if_pos h]

/-! ### Leading zeros -/

/-- Digits as a number is written: a zero comes first only where it stands alone. -/
@[mk_iff] structure Canonical (ds : List Char) : Prop where
  digits : ∀ c ∈ ds, c.isDigit
  ne_nil : ds ≠ []
  no_leading_zero : ds.head? = some '0' → ds = ['0']

-- the digits are gone through, not all characters
instance (ds : List Char) : Decidable (Canonical ds) :=
  decidable_of_iff
    (ds.all Char.isDigit = true ∧ ds ≠ [] ∧ (ds.head? = some '0' → ds = ['0']))
    (by rw [canonical_iff, List.all_eq_true])

/-- `Nat.digitChar` writes the number of a digit again. -/
theorem exists_digitChar {d : Char} (h : d.isDigit) :
    ∃ k < 10, d.toNat - '0'.toNat = k ∧ k.digitChar = d := by
  have each : ∀ k < 10, Char.ofNat ('0'.toNat + k) = k.digitChar := by decide
  obtain ⟨low, high⟩ := Char.isDigit_iff_toNat.mp h
  have top : '9'.toNat = '0'.toNat + 9 := rfl
  refine ⟨d.toNat - '0'.toNat, by omega, rfl, ?_⟩
  rw [← each _ (by omega), Nat.add_sub_cancel' low, Char.ofNat_toNat]

/-- `Nat.toDigits` writes the digits behind a positive number as they stand. -/
theorem toDigits_ofDigitChars_of_pos (digits : ∀ c ∈ ds, c.isDigit) (pos : 0 < acc) :
    Nat.toDigits 10 (Nat.ofDigitChars 10 ds acc) = Nat.toDigits 10 acc ++ ds := by
  induction ds generalizing acc with
  | nil => simp
  | cons d ds ih =>
    obtain ⟨first, rest⟩ := List.forall_mem_cons.mp digits
    obtain ⟨k, small, value, written⟩ := exists_digitChar first
    rw [Nat.ofDigitChars_cons, value, ih rest (by omega),
      ← Nat.toDigits_append_toDigits (by decide) pos small, Nat.toDigits_of_lt_base small, written,
      List.append_assoc, List.singleton_append]

/-- **A number is written in one way only without leading zeros**: `Canonical` digits are those of
    their value. -/
theorem toDigits_ofDigitChars (h : Canonical ds) :
    Nat.toDigits 10 (Nat.ofDigitChars 10 ds 0) = ds := by
  obtain ⟨digits, ne_nil, no_leading_zero⟩ := h
  cases ds with
  | nil => exact absurd rfl ne_nil
  | cons d ds =>
    obtain ⟨first, rest⟩ := List.forall_mem_cons.mp digits
    obtain ⟨k, small, value, written⟩ := exists_digitChar first
    rw [Nat.ofDigitChars_cons, value, Nat.mul_zero, Nat.zero_add]
    by_cases zero : k = 0
    · have alone := no_leading_zero (by rw [← written, zero]; rfl)
      cases alone
      rw [zero]
      rfl
    · rw [toDigits_ofDigitChars_of_pos rest (by omega), Nat.toDigits_of_lt_base small, written,
        List.singleton_append]

/-- A number with zeros in front. -/
def padded (zeros n : Nat) : List Char :=
  List.replicate zeros '0' ++ Nat.toDigits 10 n

theorem isDigit_of_mem_padded {zeros : Nat} : ∀ c ∈ padded zeros n, c.isDigit := by
  intro c hc
  rcases List.mem_append.mp hc with zero | digit
  · rw [List.eq_of_mem_replicate zero]
    rfl
  · exact isDigit_of_mem digit

/-- Zeros in front do not change the value of `padded` digits. -/
theorem ofDigitChars_padded (zeros n : Nat) : Nat.ofDigitChars 10 (padded zeros n) 0 = n := by
  rw [padded, Nat.ofDigitChars_append, Nat.ofDigitChars_replicate_zero, Nat.mul_zero,
    Nat.ofDigitChars_ten_toDigits]

/-- Digits are their value, `padded`. -/
theorem exists_padded (digits : ∀ c ∈ ds, c.isDigit) (ne_nil : ds ≠ []) :
    ∃ zeros, ds = padded zeros (Nat.ofDigitChars 10 ds 0) := by
  induction ds with
  | nil => exact absurd rfl ne_nil
  | cons d ds ih =>
    by_cases zero : d = '0'
    · subst zero
      by_cases alone : ds = []
      · exact ⟨0, by rw [alone]; rfl⟩
      · obtain ⟨zeros, rest⟩ := ih (List.forall_mem_cons.mp digits).2 alone
        have value : Nat.ofDigitChars 10 ('0' :: ds) 0 = Nat.ofDigitChars 10 ds 0 :=
          Nat.ofDigitChars_cons
        refine ⟨zeros + 1, ?_⟩
        rw [value, padded, List.replicate_succ, List.cons_append, ← padded, ← rest]
    · -- no zero in front, and so the value is written with these digits
      have canonical : Canonical (d :: ds) :=
        ⟨digits, ne_nil, fun h => absurd (Option.some_inj.mp h) zero⟩
      exact ⟨0, (toDigits_ofDigitChars canonical).symm⟩

/-! ### Words of 64 bits -/

/-- A digit behind a word: ten times the word and the digit on top.  It is given up where the
    product or the sum has more than 64 bits, so that neither is cut down to a smaller number. -/
def appendDigit? (acc digit : UInt64) : Option UInt64 :=
  if BitVec.umulOverflow acc.toBitVec (10 : UInt64).toBitVec then none
  else if BitVec.uaddOverflow (acc * 10).toBitVec digit.toBitVec then none
  else some (acc * 10 + digit)

/-- Digits behind a word, one `appendDigit?` after the other. -/
def accumulateWord? (acc : UInt64) : List Char → Option UInt64
  | [] => some acc
  | d :: rest =>
    if d.isDigit then
      (appendDigit? acc (UInt64.ofNat (d.toNat - '0'.toNat))).bind fun next =>
        accumulateWord? next rest
    else none

/-- `appendDigit?` gives up a digit exactly where the number does not fit. -/
theorem appendDigit?_eq (acc digit : UInt64) :
    (appendDigit? acc digit).map UInt64.toNat =
      if acc.toNat * 10 + digit.toNat ≤ max64 then some (acc.toNat * 10 + digit.toNat)
      else none := by
  have max : max64 = 2 ^ 64 - 1 := rfl
  have product : BitVec.umulOverflow acc.toBitVec (10 : UInt64).toBitVec
      = decide (2 ^ 64 ≤ acc.toNat * 10) := rfl
  have sum : BitVec.uaddOverflow (acc * 10).toBitVec digit.toBitVec
      = decide (2 ^ 64 ≤ (acc * 10).toNat + digit.toNat) := rfl
  rw [appendDigit?, product, sum]
  -- the product or the sum may overflow; in both cases the number does not fit
  by_cases long : 2 ^ 64 ≤ acc.toNat * 10
  · rw [if_pos (decide_eq_true long), if_neg (by omega), Option.map_none]
  · have times_ten : (acc * 10).toNat = acc.toNat * 10 := by
      rw [UInt64.toNat_mul]
      exact Nat.mod_eq_of_lt (Nat.not_le.mp long)
    rw [if_neg (by simpa using long), times_ten]
    by_cases carry : 2 ^ 64 ≤ acc.toNat * 10 + digit.toNat
    · rw [if_pos (decide_eq_true carry), if_neg (by omega), Option.map_none]
    · rw [if_neg (by simpa using carry), if_pos (by omega), Option.map_some, UInt64.toNat_add,
        times_ten, Nat.mod_eq_of_lt (by omega)]

/-- **Words do not wrap.**  `accumulateWord?` takes digits behind a word, however many, to their
    value as long as it has 64 bits. -/
theorem accumulateWord?_eq (acc : UInt64) :
    (accumulateWord? acc ds).map UInt64.toNat = accumulate? max64 acc.toNat ds := by
  induction ds generalizing acc with
  | nil => rfl
  | cons d ds ih =>
    rw [accumulateWord?, accumulate?]
    by_cases digit : d.isDigit
    · obtain ⟨k, small, value, -⟩ := exists_digitChar digit
      have word : (UInt64.ofNat k).toNat = k := by
        rw [UInt64.toNat_ofNat']
        exact Nat.mod_eq_of_lt (by omega)
      have step := appendDigit?_eq acc (UInt64.ofNat k)
      rw [word] at step
      rw [if_pos digit, if_pos digit, value]
      -- a digit that does not fit ends both readings
      by_cases within : acc.toNat * 10 + k ≤ max64
      · rw [if_pos within] at step ⊢
        obtain ⟨next, appended, hnext⟩ := Option.map_eq_some_iff.mp step
        rw [appended, Option.bind_some, ih, hnext]
      · rw [if_neg within] at step ⊢
        rw [Option.map_eq_none_iff.mp step, Option.bind_none, Option.map_none]
    · rw [if_neg digit, if_neg digit, Option.map_none]

end FlowDump.Decimal
