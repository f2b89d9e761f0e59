import FlowDump.Flow.Record
import FlowDump.Proofs.Decimal
import Mathlib.Data.List.Nodup

/-!
# Which fields come under one name

A field is shown under a long name if it is written as that name, as its abbreviation or as its
number, with any zeros in front.  Two fields come under one name only in this way, since the tables
have no name twice.

* `longNames` — the names of both tables, and `nodup_longNames` says that they are distinct.
* `Means` — how a field may be written that is shown under a long name.
* `relabel_eq_iff` — it is shown under that name exactly if it is written so.
* `relabel_relabel` — a name that is shown is shown as it is.
* `relabel_merges` — when two fields come under one name.
-/

namespace FlowDump.Flow

/-! ### The tables -/

/-- The long names of both tables: `attributeNames` and those of `keyAbbreviations`. -/
def longNames : List String := attributeNames ++ keyAbbreviations.map (·.2)

/-- No name stands twice in `longNames`. -/
theorem nodup_longNames : longNames.Nodup := by decide +kernel

/-- No long name is a number or an abbreviation, so that `relabel` leaves it. -/
theorem relabel_longName : ∀ name ∈ longNames, relabel name = name := by decide +kernel

/-- `relabel` shows an abbreviation under its name. -/
theorem relabel_abbreviation : ∀ p ∈ keyAbbreviations, relabel p.1 = p.2 := by decide +kernel

/-- No name of `keyAbbreviations` stands in `attributeNames`. -/
theorem notMem_attributeNames : ∀ p ∈ keyAbbreviations, p.2 ∉ attributeNames := by
  decide +kernel

/-! ### Numbers -/

/-- A field that is written as a number. -/
structure IsNumber (key : String) : Prop where
  ne_empty : key ≠ ""
  digits : ∀ c ∈ key.toList, c.isDigit

/-- The number that digits stand for, however many they are. -/
def numberOf (key : String) : Nat := Nat.ofDigitChars 10 key.toList 0

/-- `isNumericCode` tells the fields that are written as numbers. -/
theorem isNumericCode_iff {key : String} : isNumericCode key = true ↔ IsNumber key := by
  rw [isNumericCode, Bool.and_eq_true, decide_eq_true_eq, List.all_eq_true]
  exact ⟨fun ⟨ne, digits⟩ => ⟨ne, digits⟩, fun ⟨ne, digits⟩ => ⟨ne, digits⟩⟩

/-- A number means the attribute at its place in `attributeNames`.  Numbers of more than 64 bits,
    which are not read, are beyond the table. -/
theorem IsNumber.attributeName?_eq {key : String} (h : IsNumber key) :
    attributeName? key = attributeNames[numberOf key]? := by
  have some_digit : key.toList ≠ [] := fun he => h.ne_empty (String.toList_eq_nil_iff.mp he)
  have table : attributeNames.length ≤ Decimal.max64 := by decide
  rw [attributeName?, Decimal.readUnsigned?_digits _ h.digits some_digit, numberOf]
  split
  · rfl
  · rw [Option.bind_none, List.getElem?_eq_none (by omega)]

/-- `relabel` of a number is the attribute at its place, or the number itself beyond the table. -/
theorem relabel_of_number {key : String} (h : IsNumber key) :
    relabel key = attributeNames[numberOf key]?.getD key := by
  rw [relabel, if_pos (isNumericCode_iff.mpr h), h.attributeName?_eq]

/-- `relabel` of what is no number is the name of an abbreviation, or the field itself. -/
theorem relabel_of_not_number {key : String} (h : ¬ IsNumber key) :
    relabel key = (expandAbbreviation? key).getD key := by
  rw [relabel, if_neg fun code => h (isNumericCode_iff.mp code)]

instance (key : String) : Decidable (IsNumber key) :=
  decidable_of_iff _ isNumericCode_iff

/-! ### What comes under a name -/

/-- How a field may be written that `relabel` shows under a name. -/
inductive Means (key name : String) : Prop where
  /-- As the name itself. -/
  | itself (h : key = name)
  | abbreviation (h : (key, name) ∈ keyAbbreviations)
  /-- As the number of an attribute, zeros in front or not. -/
  | number (isNumber : IsNumber key) (h : attributeNames[numberOf key]? = some name)

/-- A field either is written in one of the ways of its long name, or `relabel` leaves it as it is.
    -/
theorem relabel_cases (key : String) :
    (relabel key ∈ longNames ∧ Means key (relabel key)) ∨ relabel key = key := by
  by_cases h : IsNumber key
  · rw [relabel_of_number h]
    cases hn : attributeNames[numberOf key]? with
    | none => exact .inr rfl
    | some name =>
      exact .inl ⟨List.mem_append_left _ (List.mem_of_getElem? hn), .number h hn⟩
  · rw [relabel_of_not_number h]
    cases ha : expandAbbreviation? key with
    | none => exact .inr rfl
    | some name =>
      obtain ⟨⟨short, long⟩, found, rfl⟩ := Option.map_eq_some_iff.mp ha
      obtain rfl : short = key := by simpa using List.find?_some found
      have mem := List.mem_of_find?_eq_some found
      exact .inl ⟨List.mem_append_right _ (List.mem_map_of_mem mem), .abbreviation mem⟩

/-- **`relabel` shows a field under a long name exactly if it is written as that name, as its
    abbreviation or as its number.** -/
theorem relabel_eq_iff {key name : String} (long : name ∈ longNames) :
    relabel key = name ↔ Means key name := by
  constructor
  · rintro rfl
    rcases relabel_cases key with ⟨-, means⟩ | same
    · exact means
    · exact .itself same.symm
  · intro means
    cases means with
    | itself h => rw [h, relabel_longName name long]
    | abbreviation h => exact relabel_abbreviation _ h
    | number isNumber h => rw [relabel_of_number isNumber, h, Option.getD_some]

/-- What `relabel` shows it leaves as it is: neither a long name nor one that has none changes. -/
theorem relabel_relabel (key : String) : relabel (relabel key) = relabel key := by
  rcases relabel_cases key with ⟨long, -⟩ | same
  · exact relabel_longName _ long
  · rw [same, same]

/-- Fields that `relabel` shows alike are one field, or they are written in two of the ways of one
    long name. -/
theorem eq_or_means {key key' : String} (h : relabel key = relabel key') :
    key = key' ∨ ∃ name ∈ longNames, Means key name ∧ Means key' name := by
  by_cases long : relabel key ∈ longNames
  · exact .inr ⟨_, long, (relabel_eq_iff long).mp rfl, (relabel_eq_iff long).mp h.symm⟩
  · refine .inl ?_
    have unchanged : ∀ k, relabel k = relabel key → k = relabel key := by
      intro k hk
      rcases relabel_cases k with ⟨long', -⟩ | same
      · exact absurd (hk ▸ long') long
      · exact same.symm.trans hk
    exact (unchanged key rfl).trans (unchanged key' h.symm).symm

/-! ### Fields that do not merge -/

/-- A field that is written in short: no long name, and no number with zeros in front. -/
@[mk_iff] structure Short (key : String) : Prop where
  not_long : key ∉ longNames
  canonical : IsNumber key → Decimal.Canonical key.toList

instance (key : String) : Decidable (Short key) :=
  decidable_of_iff _ (short_iff key).symm

/-- A long name has one `Short` form. -/
theorem Short.eq_of_means {key key' name : String} (short : Short key) (short' : Short key')
    (long : name ∈ longNames) (h : Means key name) (h' : Means key' name) : key = key' := by
  have abbreviations : ∀ p ∈ keyAbbreviations, ∀ p' ∈ keyAbbreviations,
      p.2 = p'.2 → p.1 = p'.1 := by
    decide +kernel
  cases h with
  | itself he => exact absurd (he ▸ long) short.not_long
  | abbreviation hp =>
    cases h' with
    | itself he => exact absurd (he ▸ long) short'.not_long
    | abbreviation hp' => exact abbreviations _ hp _ hp' rfl
    | number _ hn' => exact absurd (List.mem_of_getElem? hn') (notMem_attributeNames _ hp)
  | number isNumber hn =>
    cases h' with
    | itself he => exact absurd (he ▸ long) short'.not_long
    | abbreviation hp' => exact absurd (List.mem_of_getElem? hn) (notMem_attributeNames _ hp')
    | number isNumber' hn' =>
      -- the same place in the table, and one way to write its number
      have distinct : attributeNames.Nodup := (List.nodup_append.mp nodup_longNames).1
      obtain ⟨bound, at_place⟩ := List.getElem?_eq_some_iff.mp hn
      obtain ⟨bound', at_place'⟩ := List.getElem?_eq_some_iff.mp hn'
      have place : numberOf key = numberOf key' :=
        (distinct.getElem_inj_iff).mp (at_place.trans at_place'.symm)
      refine String.toList_inj.mp ?_
      rw [← Decimal.toDigits_ofDigitChars (short.canonical isNumber), ← numberOf, place, numberOf,
        Decimal.toDigits_ofDigitChars (short'.canonical isNumber')]

/-- `relabel` takes two `Short` fields apart. -/
theorem Short.relabel_inj {key key' : String} (short : Short key) (short' : Short key')
    (h : relabel key = relabel key') : key = key' := by
  rcases eq_or_means h with same | ⟨name, long, means, means'⟩
  · exact same
  · exact short.eq_of_means short' long means means'

/-- Where no two fields come under one name, `Record.ofMembers` has the fields of the object, in
    their order. -/
theorem Record.fields_ofMembers {raw : Members String Json}
    (distinct : (raw.map fun p => relabel p.1).Nodup) :
    (Record.ofMembers raw).fields = raw.map fun p => (relabel p.1, p.2) := by
  refine Members.ofList_of_nodup ?_
  rw [Members.keys, List.map_map]
  exact distinct

/-- `Record.ofMembers` leaves a record under long names as it is. -/
theorem Record.ofMembers_fields {r : Record} (nodup : r.keys.Nodup)
    (names : ∀ p ∈ r.fields, relabel p.1 = p.1) : Record.ofMembers r.fields = r := by
  have same : r.fields.map (fun p => (relabel p.1, p.2)) = r.fields.map id :=
    List.map_congr_left fun p hp => by rw [names p hp, id]
  rw [Record.ofMembers, same, List.map_id, Members.ofList_of_nodup nodup]

/-- A record has as many fields as an object of `Short` ones. -/
theorem Record.length_ofMembers {raw : Members String Json} (nodup : (Members.keys raw).Nodup)
    (short : ∀ key ∈ Members.keys raw, Short key) :
    (Record.ofMembers raw).fields.length = raw.length := by
  have distinct : ((Members.keys raw).map relabel).Nodup :=
    List.Nodup.map_on (fun key hk key' hk' => (short key hk).relabel_inj (short key' hk')) nodup
  rw [Members.keys, List.map_map] at distinct
  rw [Record.fields_ofMembers distinct, List.length_map]

/-- **When two fields come under one name of `relabel`**: exactly if each of them is the same long
    name, its abbreviation or its number.  So no long name stands twice in the tables, a field that
    is none of these comes under one name with no other, and an object without long names and
    without zeros in front of its numbers keeps the number of its fields. -/
theorem relabel_merges :
    (∀ key key' : String, key ≠ key' →
      (relabel key = relabel key' ↔ ∃ name ∈ longNames, Means key name ∧ Means key' name)) ∧
    longNames.Nodup ∧
    (∀ key : String, (∀ name ∈ longNames, ¬ Means key name) →
      ∀ key' : String, relabel key = relabel key' → key = key') ∧
    ∀ raw : Members String Json, (Members.keys raw).Nodup →
      (∀ key ∈ Members.keys raw, Short key) →
      (Record.ofMembers raw).fields.length = raw.length := by
  refine ⟨fun key key' ne => ⟨fun h => (eq_or_means h).resolve_left ne, ?_⟩, nodup_longNames,
    fun key unknown key' h => ?_, fun raw => Record.length_ofMembers⟩
  · rintro ⟨name, long, means, means'⟩
    rw [(relabel_eq_iff long).mpr means, (relabel_eq_iff long).mpr means']
  · rcases eq_or_means h with same | ⟨name, long, means, -⟩
    · exact same
    · exact absurd means (unknown name long)

/-- Three ways to write one name; a number beyond the table, of more than 64 bits; and an object
    with one field of each kind. -/
theorem relabel_merges_respelled :
    (relabel "0007" = "REVERSE_FLOW_ENI_MAC" ∧ relabel "7" = relabel "0007" ∧
      relabel "7" = relabel "REVERSE_FLOW_ENI_MAC") ∧
    (∀ key' : String, relabel "18446744073709551623" = relabel key' →
      "18446744073709551623" = key') ∧
    (Record.ofMembers [("7", .null), ("si", .null), ("0", .null), ("40", .null),
      ("note", .null)]).fields.length = 5 := by
  have number : ∀ key ∈ ["7", "0007"], Means key "REVERSE_FLOW_ENI_MAC" := by
    have isNumber : ∀ key ∈ ["7", "0007"], IsNumber key := by decide +kernel
    have place : ∀ key ∈ ["7", "0007"],
        attributeNames[numberOf key]? = some "REVERSE_FLOW_ENI_MAC" := by decide +kernel
    exact fun key hk => .number (isNumber key hk) (place key hk)
  have long : "REVERSE_FLOW_ENI_MAC" ∈ longNames := by decide +kernel
  have unknown : ∀ name ∈ longNames, ¬ Means "18446744073709551623" name := by
    intro name hname means
    have shown : relabel "18446744073709551623" = "18446744073709551623" := by decide +kernel
    have no_name : "18446744073709551623" ∉ longNames := by decide +kernel
    exact no_name (shown ▸ (relabel_eq_iff hname).mpr means ▸ hname)
  refine ⟨⟨by decide +kernel, ?_, ?_⟩, relabel_merges.2.2.1 _ unknown,
    relabel_merges.2.2.2 _ (by decide +kernel) (by decide +kernel)⟩
  · exact (relabel_merges.1 "7" "0007" (by decide)).mpr
      ⟨_, long, number "7" (by decide), number "0007" (by decide)⟩
  · exact (relabel_merges.1 "7" _ (by decide)).mpr ⟨_, long, number "7" (by decide), .itself rfl⟩

end FlowDump.Flow
