import FlowDump.Session
import FlowDump.Text.Hex
import Mathlib.Algebra.Group.Nat.Defs

/-!
# Names of sessions

A generated name is `flow_dump_` and the 32 digits of a fresh identifier.  The digits say which
identifier it was, so that two identifiers give one name only where all their bits agree.

* `Uuid.hexNumber?_hexDigits` — `Text.hexNumber?` reads the digits of `Uuid.hexDigits` back.
* `Uuid.toNat_eq` — the number of an identifier, bit field by bit field.
* `SessionName.NamedAfter` — what a name made of an identifier looks like;
  `generate_namedAfter` says that `SessionName.generate` makes such names, and `generate_eq_iff`
  which of them are the same.
-/

namespace FlowDump

/-! ### Digits -/

namespace Uuid

/-- `Uuid.hexDigits` gives as many digits as it is asked for. -/
@[simp] theorem length_hexDigits (width n : Nat) : (hexDigits width n).length = width := by
  induction width generalizing n with
  | zero => rfl
  | succ width ih => simp [hexDigits, ih]

/-- The digit of a number below 16 is a figure or one of the first six small letters, and
    `Text.hexValue?` reads it back. -/
theorem digitChar_spec (d : Fin 16) :
    Nat.digitChar d ∈ "0123456789abcdef".toList ∧ Text.hexValue? (Nat.digitChar d) = some d := by
  revert d
  decide

/-- All digits of `Uuid.hexDigits` are in lower case. -/
theorem mem_of_mem_hexDigits {width n : Nat} {c : Char} (h : c ∈ hexDigits width n) :
    c ∈ "0123456789abcdef".toList := by
  induction width generalizing n with
  | zero => cases h
  | succ width ih =>
    rcases List.mem_append.mp h with leading | last
    · exact ih leading
    · rw [List.mem_singleton.mp last]
      exact (digitChar_spec ⟨n % 16, Nat.mod_lt n (by decide)⟩).1

/-- `Text.hexNumber?` reads the digits of `Uuid.hexDigits` back, as far as they reach. -/
theorem hexNumber?_hexDigits (width n : Nat) :
    Text.hexNumber? (hexDigits width n) = some (n % 16 ^ width) := by
  induction width generalizing n with
  | zero => simp [hexDigits, Text.hexNumber?, Nat.mod_one]
  | succ width ih =>
    have last := (digitChar_spec ⟨n % 16, Nat.mod_lt n (by decide)⟩).2
    have leading := ih (n / 16)
    rw [Text.hexNumber?] at leading
    rw [hexDigits, Text.hexNumber?, List.foldlM_append, leading]
    simp only [Option.bind_eq_bind, Option.bind_some, List.foldlM_cons, List.foldlM_nil, last,
      Option.map_some, Option.pure_def]
    rw [Nat.pow_succ', Nat.mod_mul, Nat.add_comm, Nat.mul_comm]

/-- `Uuid.toNat` bit field by bit field: 48 bits of the time, the version 7, 12 random ones, the
    variant 2 and the other 62 random ones. -/
theorem toNat_eq (u : Uuid) :
    u.toNat = u.millis % 2 ^ 48 * 2 ^ 80 + 7 * 2 ^ 76 + u.randomHigh % 2 ^ 12 * 2 ^ 64 + 2 * 2 ^ 62
      + u.randomLow % 2 ^ 62 := by
  simp only [toNat, Nat.shiftLeft_eq, Nat.one_mul]

/-- `Uuid.toNat` needs no more than 32 digits. -/
theorem toNat_lt (u : Uuid) : u.toNat < 16 ^ 32 := by
  rw [toNat_eq]
  omega

end Uuid

/-! ### Names -/

namespace SessionName

/-- A name that was made of an identifier: `flow_dump_`, and its bits in 32 digits. -/
structure NamedAfter (s : SessionName) (u : Uuid) (digits : List Char) : Prop where
  text_eq : s.text = "flow_dump_" ++ .ofList digits
  length_eq : digits.length = 32
  lower : ∀ c ∈ digits, c ∈ "0123456789abcdef".toList
  /-- The 48 bits of the time, the version 7, 12 random bits, the variant 2 and 62 random bits. -/
  bits : Text.hexNumber? digits = some
    (u.millis % 2 ^ 48 * 2 ^ 80 + 7 * 2 ^ 76 + u.randomHigh % 2 ^ 12 * 2 ^ 64 + 2 * 2 ^ 62
      + u.randomLow % 2 ^ 62)

/-- `SessionName.generate` names a session after its identifier. -/
theorem generate_namedAfter (u : Uuid) :
    (generate u).NamedAfter u (Uuid.hexDigits 32 u.toNat) where
  text_eq := rfl
  length_eq := Uuid.length_hexDigits 32 u.toNat
  lower _ := Uuid.mem_of_mem_hexDigits
  bits := by rw [Uuid.hexNumber?_hexDigits, Nat.mod_eq_of_lt u.toNat_lt, Uuid.toNat_eq]

/-- Two identifiers give one name by `SessionName.generate` only if all their bits agree. -/
theorem generate_eq_iff {u u' : Uuid} : generate u = generate u' ↔ u.toNat = u'.toNat := by
  refine ⟨fun same => ?_, fun same => by rw [generate, generate, Uuid.hex, Uuid.hex, same]⟩
  have text_eq : stem ++ u.hex = stem ++ u'.hex := congrArg SessionName.text same
  have digits_eq : Uuid.hexDigits 32 u.toNat = Uuid.hexDigits 32 u'.toNat := by
    simpa [Uuid.hex, ← String.toList_inj] using text_eq
  have read := congrArg Text.hexNumber? digits_eq
  rwa [Uuid.hexNumber?_hexDigits, Uuid.hexNumber?_hexDigits, Option.some.injEq,
    Nat.mod_eq_of_lt u.toNat_lt, Nat.mod_eq_of_lt u'.toNat_lt] at read

end SessionName

end FlowDump
