import FlowDump.Proofs.Flow.Names
import FlowDump.Proofs.Text.Utf8

/-!
# Fields that are written as numbers

A field that consists of digits is the number of an attribute.  Its value has no bound, but it is
read into a word of 64 bits; a number that does not fit is given up, so that none comes under the
name of a smaller one.  A text that is no number is not looked up, even where the lookup would take
it: a sign may stand in front of the digits there.

* `isNumber_iff_bytes` — a field is a number by its bytes as by its characters.
* `IsNumber.exists_numeral` — a number is its value with zeros in front.
* `IsNumber.attributeName?_word` — words of 64 bits are enough to look a number up.
* `attributeName?_eq_some_iff` — what the lookup of attributes takes.
* `relabel_numbers` — numbers come under the name of their attribute, and nothing else does.
-/

namespace FlowDump.Flow

/-! ### Numbers and their values -/

/-- `IsNumber` says that a field has bytes and that all of them are bytes of digits. -/
theorem isNumber_iff_bytes {key : String} :
    IsNumber key ↔ Utf8.encode key ≠ [] ∧ ∀ b ∈ Utf8.encode key, 0x30 ≤ b ∧ b ≤ 0x39 := by
  have bytes : Utf8.encode key = key.toList.flatMap String.utf8EncodeChar := by
    rw [← Utf8.encode_ofList, String.ofList_toList]
  rw [bytes, List.forall_mem_flatMap]
  constructor
  · rintro ⟨ne_empty, digits⟩
    refine ⟨fun no_bytes => ?_, fun c hc => Utf8.isDigit_iff_bytes.mp (digits c hc)⟩
    obtain ⟨c, hc⟩ := List.exists_mem_of_ne_nil _ (mt String.toList_eq_nil_iff.mp ne_empty)
    exact String.utf8EncodeChar_ne_nil (List.flatMap_eq_nil_iff.mp no_bytes c hc)
  · rintro ⟨some_byte, digits⟩
    exact ⟨fun he => some_byte (by rw [he]; rfl),
      fun c hc => Utf8.isDigit_iff_bytes.mpr (digits c hc)⟩

/-- A number as a field, `Decimal.padded` with zeros in front. -/
def numeral (zeros n : Nat) : String :=
  String.ofList (Decimal.padded zeros n)

/-- A `numeral` is a number. -/
theorem isNumber_numeral (zeros n : Nat) : IsNumber (numeral zeros n) where
  ne_empty he := Nat.toDigits_ne_nil
    (List.append_eq_nil_iff.mp (String.ofList_eq_empty_iff.mp he)).2
  digits := by
    rw [numeral, String.toList_ofList]
    exact Decimal.isDigit_of_mem_padded

/-- Zeros in front do not change what `numberOf` says. -/
theorem numberOf_numeral (zeros n : Nat) : numberOf (numeral zeros n) = n := by
  rw [numberOf, numeral, String.toList_ofList, Decimal.ofDigitChars_padded]

/-- A number is its value with zeros in front, a `numeral`. -/
theorem IsNumber.exists_numeral {key : String} (h : IsNumber key) :
    ∃ zeros, key = numeral zeros (numberOf key) := by
  obtain ⟨zeros, digits⟩ :=
    Decimal.exists_padded h.digits (mt String.toList_eq_nil_iff.mp h.ne_empty)
  exact ⟨zeros, by rw [numeral, numberOf, ← digits, String.ofList_toList]⟩

/-! ### Looking numbers up -/

theorem toList_plus (code : String) : ("+" ++ code).toList = '+' :: code.toList := by
  rw [String.toList_append]
  rfl

/-- `relabel` shows a number under the name at its place in `attributeNames`, and leaves it as it is
    beyond the table. -/
theorem IsNumber.relabel_eq {key : String} (h : IsNumber key) :
    relabel key = if known : numberOf key < attributeNames.length
      then attributeNames[numberOf key] else key := by
  rw [relabel_of_number h]
  by_cases known : numberOf key < attributeNames.length
  · rw [dif_pos known, List.getElem?_eq_getElem known, Option.getD_some]
  · rw [dif_neg known, List.getElem?_eq_none (Nat.not_lt.mp known), Option.getD_none]

/-- `attributeName?` looks a number up with words of 64 bits, in which neither product nor sum
    wraps. -/
theorem IsNumber.attributeName?_word {key : String} (h : IsNumber key) :
    attributeName? key =
      (Decimal.accumulateWord? 0 key.toList).bind fun n => attributeNames[n.toNat]? := by
  have some_digit : key.toList ≠ [] := mt String.toList_eq_nil_iff.mp h.ne_empty
  have word : (Decimal.accumulateWord? 0 key.toList).map UInt64.toNat =
      Decimal.accumulate? Decimal.max64 0 key.toList :=
    Decimal.accumulateWord?_eq 0
  rw [attributeName?, Decimal.readUnsigned?_eq_readDigits? h.digits, Decimal.readDigits?,
    if_neg some_digit, ← word, Option.bind_map]
  rfl

/-- A sign in front of a number does not change what `attributeName?` finds. -/
theorem IsNumber.attributeName?_plus {code : String} (h : IsNumber code) :
    attributeName? ("+" ++ code) = attributeName? code := by
  rw [attributeName?, attributeName?, toList_plus, Decimal.readUnsigned?_plus,
    Decimal.readUnsigned?_eq_readDigits? h.digits]

/-- `attributeName?` takes the numbers of the table, and these with a plus sign. -/
theorem attributeName?_eq_some_iff {key name : String} :
    attributeName? key = some name ↔
      ∃ code, (key = code ∨ key = "+" ++ code) ∧ IsNumber code ∧
        attributeNames[numberOf code]? = some name := by
  constructor
  · intro h
    obtain ⟨n, read, place⟩ := Option.bind_eq_some_iff.mp h
    -- a number is read with a plus sign or without, and its digits are the code
    obtain ⟨ds, spelled, digits⟩ := Decimal.readUnsigned?_eq_some_iff.mp read
    obtain ⟨ne_nil, all_digits, rfl, -⟩ := Decimal.readDigits?_eq_some_iff.mp digits
    refine ⟨String.ofList ds, ?_, ⟨?_, ?_⟩, ?_⟩
    · rw [← String.toList_inj, ← String.toList_inj, toList_plus, String.toList_ofList]
      exact spelled
    · exact mt String.ofList_eq_empty_iff.mp ne_nil
    · rwa [String.toList_ofList]
    · rwa [numberOf, String.toList_ofList]
  · rintro ⟨code, rfl | rfl, number, place⟩
    · rw [number.attributeName?_eq, place]
    · rw [number.attributeName?_plus, number.attributeName?_eq, place]

/-! ### What is no number -/

/-- `relabel` leaves what is no number as it is, or takes it for an abbreviation. -/
theorem eq_self_or_abbreviation {key : String} (h : ¬ IsNumber key) :
    relabel key = key ∨ (key, relabel key) ∈ keyAbbreviations := by
  rcases relabel_cases key with ⟨-, means⟩ | same
  · cases means with
    | itself he => exact .inl he.symm
    | abbreviation mem => exact .inr mem
    | number isNumber _ => exact absurd isNumber h
  · exact .inl same

/-- What is no number `relabel` shows under the name of an attribute only where it is that name. -/
theorem relabel_eq_self_of_mem_attributeNames {key : String} (h : ¬ IsNumber key)
    (mem_names : relabel key ∈ attributeNames) : relabel key = key := by
  rcases eq_self_or_abbreviation h with same | mem
  · exact same
  · exact absurd mem_names (notMem_attributeNames _ mem)

/-- Nothing in the tables has a plus sign in front. -/
theorem head?_ne_plus : ∀ name ∈ longNames ++ keyAbbreviations.map (·.1),
    name.toList.head? ≠ some '+' := by
  decide +kernel

/-- `relabel` leaves what has a sign in front as it is. -/
theorem relabel_plus (code : String) : relabel ("+" ++ code) = "+" ++ code := by
  have signed : ("+" ++ code).toList.head? = some '+' := by rw [toList_plus, List.head?_cons]
  have other : ¬ IsNumber ("+" ++ code) := fun number =>
    absurd (number.digits _ (List.mem_of_head? signed)) (by decide)
  rcases eq_self_or_abbreviation other with same | mem
  · exact same
  · exact absurd signed (head?_ne_plus _ (List.mem_append_right _ (List.mem_map_of_mem mem)))

/-- `relabel` does not show what is no number under the name that `attributeName?` would find. -/
theorem relabel_of_attributeName? {key name : String} (h : ¬ IsNumber key)
    (found : attributeName? key = some name) : relabel key = key ∧ key ≠ name := by
  obtain ⟨code, rfl | rfl, number, place⟩ := attributeName?_eq_some_iff.mp found
  · exact absurd number h
  · refine ⟨relabel_plus code, ?_⟩
    rintro rfl
    have long : "+" ++ code ∈ longNames := List.mem_append_left _ (List.mem_of_getElem? place)
    exact head?_ne_plus _ (List.mem_append_left _ long) (by rw [toList_plus, List.head?_cons])

/-- **Numbers come under the name of their attribute, and nothing else does.**  There are 34
    attributes.  A field is a number if all its bytes are digits and there is one, that is, if it is
    the decimal form of its value with any zeros in front; every value has such fields, however
    large it is.  By `relabel` a number comes under the name at its place of the table, or stays as
    it is where the table has no such place, and its value is read in words of 64 bits without
    wrapping.  The lookup would also take a plus sign in front, and that is all.  But what is no
    number is not looked up: it comes under the name of which it is the abbreviation, or stays as it
    is, and it comes under the name of an attribute only where it is that name. -/
theorem relabel_numbers :
    attributeNames.length = 34 ∧
    (∀ key : String, IsNumber key ↔
      Utf8.encode key ≠ [] ∧ ∀ b ∈ Utf8.encode key, 0x30 ≤ b ∧ b ≤ 0x39) ∧
    (∀ zeros n : Nat, IsNumber (numeral zeros n) ∧ numberOf (numeral zeros n) = n) ∧
    (∀ key : String, IsNumber key →
      (∃ zeros, key = numeral zeros (numberOf key)) ∧
      (relabel key = if known : numberOf key < attributeNames.length
        then attributeNames[numberOf key] else key) ∧
      attributeName? key =
        (Decimal.accumulateWord? 0 key.toList).bind fun n => attributeNames[n.toNat]?) ∧
    (∀ key name : String, attributeName? key = some name ↔
      ∃ code, (key = code ∨ key = "+" ++ code) ∧ IsNumber code ∧
        attributeNames[numberOf code]? = some name) ∧
    ∀ key : String, ¬ IsNumber key →
      relabel key = (expandAbbreviation? key).getD key ∧
      (relabel key ∈ attributeNames → relabel key = key) ∧
      ∀ name, attributeName? key = some name → relabel key = key ∧ key ≠ name := by
  refine ⟨rfl, fun key => isNumber_iff_bytes,
    fun zeros n => ⟨isNumber_numeral zeros n, numberOf_numeral zeros n⟩,
    fun key number => ⟨number.exists_numeral, number.relabel_eq, number.attributeName?_word⟩,
    fun key name => attributeName?_eq_some_iff, fun key other => ⟨?_, ?_, ?_⟩⟩
  · exact relabel_of_not_number other
  · exact relabel_eq_self_of_mem_attributeNames other
  · exact fun name found => relabel_of_attributeName? other found

/-- The last attribute with zeros in front; 2 to the 64th, which a word would take for the first
    attribute; a sign that the lookup would take; and an empty text, a blank, a digit beyond ASCII
    and another sign. -/
theorem relabel_numbers_twoToThe64th :
    (IsNumber "000000000000000000000033" ∧
      relabel "000000000000000000000033" = "FLOW_DATA_PB") ∧
    (IsNumber "18446744073709551616" ∧
      relabel "18446744073709551616" = "18446744073709551616") ∧
    (¬ IsNumber "+5" ∧ attributeName? "+5" = some "IS_UNIDIRECTIONAL_FLOW" ∧
      relabel "+5" = "+5") ∧
    ∀ key ∈ ["", " 5", "\u0665", "-1"], ¬ IsNumber key ∧ relabel key = key := by
  obtain ⟨-, -, -, numbers, lookup, others⟩ := relabel_numbers
  have padded : IsNumber "000000000000000000000033" := by decide +kernel
  have long : IsNumber "18446744073709551616" := by decide +kernel
  have signed : ¬ IsNumber "+5" := by decide +kernel
  have found : attributeName? "+5" = some "IS_UNIDIRECTIONAL_FLOW" :=
    (lookup _ _).mpr ⟨"5", .inr rfl, by decide +kernel, by decide +kernel⟩
  have plain : ∀ key ∈ ["", " 5", "\u0665", "-1"],
      ¬ IsNumber key ∧ expandAbbreviation? key = none := by
    decide +kernel
  refine ⟨⟨padded, (numbers _ padded).2.1.trans (by decide +kernel)⟩,
    ⟨long, (numbers _ long).2.1.trans (by decide +kernel)⟩,
    ⟨signed, found, ((others _ signed).2.2 _ found).1⟩, fun key hkey => ?_⟩
  obtain ⟨no_number, no_name⟩ := plain key hkey
  exact ⟨no_number, (others key no_number).1.trans (by rw [no_name, Option.getD_none])⟩

end FlowDump.Flow
