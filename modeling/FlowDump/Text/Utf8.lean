/-!
# UTF-8

Texts as bytes and back.

* `Utf8.encode` — the bytes of a text.
* `Utf8.decode?` — the text of a byte string, if the bytes are well-formed UTF-8 throughout.
* `Utf8.decodeLossy` — a text for every byte string: each maximal ill-formed part becomes one
  U+FFFD.
* `decode?_encode` and `decode?_eq_some_iff` — the strict reader accepts exactly what the writer
  produces.
-/

namespace FlowDump.Utf8

/-! ### Strict reading -/

/-- The bytes of a text. -/
def encode (s : String) : List UInt8 :=
  s.toByteArray.data.toList

/-- The text of well-formed bytes. -/
def decode? (bytes : List UInt8) : Option String :=
  String.fromUTF8? ⟨bytes.toArray⟩

/-- `decode?` reads back what `encode` writes. -/
@[simp] theorem decode?_encode (s : String) : decode? (encode s) = some s := by
  simp [decode?, encode, String.fromUTF8?, s.isValidUTF8, String.fromUTF8]

/-- `decode?` accepts exactly what `encode` produces. -/
theorem decode?_eq_some_iff {bytes : List UInt8} {s : String} :
    decode? bytes = some s ↔ bytes = encode s := by
  constructor
  · intro h
    simp only [decode?, String.fromUTF8?] at h
    split at h
    · cases h
      simp [encode, String.fromUTF8]
    · cases h
  · rintro rfl
    exact decode?_encode s

/-- `encode` of two texts one after the other is that of the joined text. -/
@[simp] theorem encode_append (s t : String) : encode (s ++ t) = encode s ++ encode t := by
  simp [encode]

/-! ### Lossy reading -/

/-- What a first byte announces: how many bytes follow, the bounds of the next one, and the bits
    it carries itself.  `none` where no character starts with this byte. -/
def lead? (b : UInt8) : Option (Nat × UInt8 × UInt8 × Nat) :=
  if b < 0x80 then some (0, 0, 0, b.toNat)
  else if 0xC2 ≤ b ∧ b ≤ 0xDF then some (1, 0x80, 0xBF, b.toNat - 0xC0)
  else if b = 0xE0 then some (2, 0xA0, 0xBF, 0)
  else if b = 0xED then some (2, 0x80, 0x9F, 0xD)
  else if 0xE1 ≤ b ∧ b ≤ 0xEF then some (2, 0x80, 0xBF, b.toNat - 0xE0)
  else if b = 0xF0 then some (3, 0x90, 0xBF, 0)
  else if 0xF1 ≤ b ∧ b ≤ 0xF3 then some (3, 0x80, 0xBF, b.toNat - 0xF0)
  else if b = 0xF4 then some (3, 0x80, 0x8F, 4)
  else none

/-- Read the `owed` bytes that complete a character, the first of them between `low` and `high`.
    Gives the character, or U+FFFD in place of what was read, and the bytes left. -/
def complete : (owed : Nat) → (low high : UInt8) → (bits : Nat) → List UInt8 → Char × List UInt8
  | 0, _, _, bits, rest => (Char.ofNat bits, rest)
  | _ + 1, _, _, _, [] => ('\uFFFD', [])
  | owed + 1, low, high, bits, b :: rest =>
    if low ≤ b ∧ b ≤ high then complete owed 0x80 0xBF (bits * 64 + b.toNat % 64) rest
    else ('\uFFFD', b :: rest)

/-- `complete` never gives bytes back. -/
theorem length_complete_le (owed : Nat) (low high : UInt8) (bits : Nat) (bytes : List UInt8) :
    (complete owed low high bits bytes).2.length ≤ bytes.length := by
  induction bytes generalizing owed low high bits with
  | nil => cases owed <;> simp [complete]
  | cons b rest ih =>
    cases owed with
    | zero => simp [complete]
    | succ owed =>
      simp only [complete]
      split
      · exact Nat.le_succ_of_le (ih ..)
      · simp

/-- The characters of any byte string, by `lead?` and `complete`; each maximal ill-formed part
    counts as one U+FFFD. -/
def lossyChars : List UInt8 → List Char
  | [] => []
  | b :: rest =>
    match lead? b with
    | none => '\uFFFD' :: lossyChars rest
    | some (owed, low, high, bits) =>
      (complete owed low high bits rest).1 :: lossyChars (complete owed low high bits rest).2
  termination_by bytes => bytes.length
  decreasing_by
    all_goals simp only [List.length_cons]
    · omega
    · have := length_complete_le owed low high bits rest
      omega

/-- A text for every byte string: that of `lossyChars`. -/
def decodeLossy (bytes : List UInt8) : String :=
  String.ofList (lossyChars bytes)

end FlowDump.Utf8
