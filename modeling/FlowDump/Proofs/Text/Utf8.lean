import FlowDump.Text.Utf8

/-!
# ASCII in UTF-8

A character of ASCII is one byte, and that byte stands for nothing else, neither alone nor inside
another character.  So bytes may be cut at it without looking at the characters.

* `toNat_eq_of_mem` — a byte of ASCII stands in the bytes of a character only if it is the
  character.
* `isDigit_iff_bytes` — the bytes of digits are the bytes of no other characters.
* `mem_encode_iff` — it stands in the bytes of a text only where the text has that character.
* `exists_eq_append` — bytes that start with those of a text are those of a text that starts so.
* `decode?_append_lineFeed` — a line feed at the end is read as one, and is all that changes.
-/

namespace FlowDump.Utf8

/-- `encode` gives the bytes of a text character by character. -/
theorem encode_ofList (s : List Char) :
    encode (String.ofList s) = s.flatMap String.utf8EncodeChar := by
  simp [encode, List.utf8Encode]

/-! ### Bytes of ASCII -/

/-- A byte of ASCII is among the bytes of `String.utf8EncodeChar` only if it is that character. -/
theorem toNat_eq_of_mem {c : Char} {b : UInt8} (ascii : b.toNat < 0x80)
    (h : b ∈ String.utf8EncodeChar c) : c.toNat = b.toNat := by
  have toNat {n : Nat} (e : b = UInt8.ofNat n) : n % 256 = b.toNat := by
    have := congrArg UInt8.toNat e
    simpa using this.symm
  unfold String.utf8EncodeChar at h
  simp only at h
  split at h
  · have := toNat (List.mem_singleton.mp h)
    show c.val.toNat = b.toNat
    omega
  · -- all bytes of a longer form have their highest bit set
    exfalso
    split at h
    · simp only [List.mem_cons, List.not_mem_nil, or_false] at h
      rcases h with h | h <;> have := toNat h <;> omega
    · split at h
      · simp only [List.mem_cons, List.not_mem_nil, or_false] at h
        rcases h with h | h | h <;> have := toNat h <;> omega
      · simp only [List.mem_cons, List.not_mem_nil, or_false] at h
        rcases h with h | h | h | h <;> have := toNat h <;> omega

/-- `String.utf8EncodeChar` gives one byte for a character of ASCII. -/
theorem utf8EncodeChar_of_ascii {c : Char} (ascii : c.toNat < 0x80) :
    String.utf8EncodeChar c = [c.toUInt8] := by
  have short : c.val.toNat ≤ 0x7F := Nat.le_of_lt_succ ascii
  unfold String.utf8EncodeChar
  simp only [short, if_true]
  rfl

theorem toNat_toUInt8_of_ascii {c : Char} (ascii : c.toNat < 0x80) :
    c.toUInt8.toNat = c.toNat := by
  rw [Char.toUInt8, UInt32.toNat_toUInt8]
  exact Nat.mod_eq_of_lt (Nat.lt_trans ascii (by decide))

/-- The byte of a character of ASCII stands in what `encode` gives only where the text has that
    character. -/
theorem mem_encode_iff {c : Char} (ascii : c.toNat < 0x80) (s : List Char) :
    c.toUInt8 ∈ encode (String.ofList s) ↔ c ∈ s := by
  have toNat_byte := toNat_toUInt8_of_ascii ascii
  rw [encode_ofList, List.mem_flatMap]
  constructor
  · rintro ⟨c', hc', hb⟩
    have same := toNat_eq_of_mem (by omega) hb
    rw [toNat_byte] at same
    rwa [← Char.ofNat_toNat c, ← same, Char.ofNat_toNat]
  · intro h
    exact ⟨c, h, by rw [utf8EncodeChar_of_ascii ascii, List.mem_singleton]⟩

/-- A character is a digit exactly if all bytes of `String.utf8EncodeChar` are bytes of digits. -/
theorem isDigit_iff_bytes {c : Char} :
    c.isDigit ↔ ∀ b ∈ String.utf8EncodeChar c, 0x30 ≤ b ∧ b ≤ 0x39 := by
  have first : '0'.toNat = 0x30 := rfl
  have last : '9'.toNat = 0x39 := rfl
  rw [Char.isDigit_iff_toNat, first, last]
  constructor
  · rintro ⟨low, high⟩ b hb
    have ascii : c.toNat < 0x80 := by omega
    rw [utf8EncodeChar_of_ascii ascii, List.mem_singleton] at hb
    rw [hb, UInt8.le_iff_toNat_le, UInt8.le_iff_toNat_le, toNat_toUInt8_of_ascii ascii]
    exact ⟨low, high⟩
  · intro h
    obtain ⟨b, hb⟩ := List.exists_mem_of_ne_nil _ (String.utf8EncodeChar_ne_nil (c := c))
    obtain ⟨low, high⟩ := h b hb
    have low : 0x30 ≤ b.toNat := UInt8.le_iff_toNat_le.mp low
    have high : b.toNat ≤ 0x39 := UInt8.le_iff_toNat_le.mp high
    rw [toNat_eq_of_mem (by omega) hb]
    exact ⟨low, high⟩

/-- Only a line feed has the byte of one among those of `String.utf8EncodeChar`. -/
theorem eq_lineFeed_of_mem {c : Char} (h : 0x0A ∈ String.utf8EncodeChar c) : c = '\n' := by
  rw [← Char.ofNat_toNat c, toNat_eq_of_mem (by decide) h]
  rfl

theorem utf8EncodeChar_lineFeed : String.utf8EncodeChar '\n' = [0x0A] := by rfl

/-- The byte of a line feed stands in what `encode` gives only where the text has one. -/
theorem lineFeed_mem_encode_iff (s : List Char) :
    0x0A ∈ encode (String.ofList s) ↔ '\n' ∈ s :=
  mem_encode_iff (c := '\n') (by decide) s

/-! ### Texts in bytes -/

/-- Where `encode` of a text starts with that of another text, the text starts so. -/
theorem exists_eq_append {s t : String} {bytes : List UInt8} (h : encode t = encode s ++ bytes) :
    ∃ rest, t = s ++ rest := by
  have joined : s.toList.utf8Encode ++ (⟨bytes.toArray⟩ : ByteArray) = t.toList.utf8Encode := by
    rw [String.utf8Encode_toList, String.utf8Encode_toList]
    refine ByteArray.ext (Array.toList_inj.mp ?_)
    simpa [encode] using h.symm
  obtain ⟨rest, rest_eq⟩ := List.isPrefix_of_utf8Encode_append_eq_utf8Encode _ joined
  refine ⟨String.ofList rest, String.toList_inj.mp ?_⟩
  rw [String.toList_append, String.toList_ofList, rest_eq]

/-- `decode?` reads a line feed after some bytes as a line feed after their text. -/
theorem decode?_append_lineFeed (bytes : List UInt8) :
    decode? (bytes ++ [0x0A]) = (decode? bytes).map (· ++ "\n") := by
  have newline : encode "\n" = [0x0A] := by rfl
  cases h : decode? bytes with
  | some s =>
    rw [decode?_eq_some_iff] at h
    rw [h, ← newline, ← encode_append, decode?_encode]
    rfl
  | none =>
    cases h' : decode? (bytes ++ [0x0A]) with
    | none => rfl
    | some t =>
      -- the last character of that text is a line feed, so the rest was well-formed
      rw [decode?_eq_some_iff] at h'
      obtain ⟨s, rfl⟩ : ∃ s, t = String.ofList s := ⟨t.toList, by simp⟩
      rw [encode_ofList] at h'
      rcases List.eq_nil_or_concat s with rfl | ⟨init, c, rfl⟩
      · simp at h'
      · rw [List.concat_eq_append, List.flatMap_append, List.flatMap_singleton] at h'
        have last : 0x0A ∈ String.utf8EncodeChar c := by
          have hl := congrArg List.getLast? h'
          rw [List.getLast?_concat, List.getLast?_append] at hl
          cases hc : (String.utf8EncodeChar c).getLast? with
          | none => simp [String.utf8EncodeChar_ne_nil] at hc
          | some b =>
            rw [hc] at hl
            cases hl
            exact List.mem_of_getLast? hc
        rw [eq_lineFeed_of_mem last, utf8EncodeChar_lineFeed, List.append_cancel_right_eq,
          ← encode_ofList] at h'
        rw [h', decode?_encode] at h
        cases h

end FlowDump.Utf8
