import FlowDump.Json.Printer
import FlowDump.Proofs.Json.Admitted

/-!
# Documents are read as they are written

A value that a document can hold, written on one line, is read back as it was.  Doubles are left
out: they are written with the fewest digits and read by an arithmetic of their own.

* `stringBody_escape` — a character is read as it was, however it is escaped.
* `items_intercalate` — items with commas between them are read one by one.
* `value_compact` — a value is read back, and what follows it is left.
* `parse_compact` — a document is read back.
* `lineFeed_notMem_compact` — a document on one line has no line feed.
-/

namespace FlowDump.Json

variable {α : Type}

/-! ### Strings -/

/-- `codeUnit?` reads the four digits of a control character. -/
theorem codeUnit?_control :
    ∀ n < 32, codeUnit? '0' '0' (hexDigit (n / 16)) (hexDigit n) = some n := by
  decide

/-- `stringBody` reads a character as it was, however `escape` writes it. -/
theorem stringBody_escape (c : Char) (rest : List Char) :
    stringBody (escape c ++ rest) = (stringBody rest).map fun (s, r) => (c :: s, r) := by
  unfold escape
  split
  case h_8 hq hb _ _ _ _ _ =>
    split
    · rename_i hc
      -- a control character is no half of a pair
      have low : ¬ (0xDC00 ≤ c.toNat ∧ c.toNat ≤ 0xDFFF) := by omega
      have high : ¬ (0xD800 ≤ c.toNat ∧ c.toNat ≤ 0xDBFF) := by omega
      simp only [List.cons_append, List.nil_append, stringBody, codeUnit?_control _ hc, low, high,
        if_false, Char.ofNat_toNat]
    · rename_i hc
      rw [List.singleton_append, stringBody_plain hq hb, if_neg hc]
  -- the escapes of one letter
  all_goals exact stringBody_escaped (by decide) rest

/-- `stringBody` reads a string from after its opening quote. -/
theorem stringBody_flatMap_escape (s rest : List Char) :
    stringBody (s.flatMap escape ++ '"' :: rest) = some (s, rest) := by
  induction s with
  | nil => rfl
  | cons c s ih =>
    rw [List.flatMap_cons, List.append_assoc, stringBody_escape, ih]
    rfl

/-- `scalar` reads back what `quoted` writes. -/
theorem scalar_quoted (s : String) (rest : List Char) :
    scalar (quoted s ++ rest) = some (.string s, rest) := by
  have body := stringBody_flatMap_escape s.toList rest
  simp only [quoted, scalar, List.cons_append, List.append_assoc, List.nil_append, body,
    Option.map_some, String.ofList_toList]

/-! ### Lists -/

theorem skipBlank_cons {c : Char} (h : isBlank c = false) (s : List Char) :
    skipBlank (c :: s) = c :: s :=
  List.dropWhile_cons_of_neg (by simp [h])

/-- `compactItems` puts a comma between items. -/
theorem compactItems_eq (items : List Json) :
    compactItems items = [','].intercalate (items.map compact) := by
  induction items with
  | nil => rfl
  | cons v rest ih =>
    cases rest with
    | nil => simp [compactItems]
    | cons w rest =>
      rw [compactItems, ih]
      simp

/-- A member on one line, with its value by `compact`. -/
def compactMember (p : String × Json) : List Char :=
  quoted p.1 ++ ':' :: compact p.2

/-- The members of an object on one line are `compactMember`s with a comma between them. -/
theorem compactMembers_eq (members : List (String × Json)) :
    compactMembers members = [','].intercalate (members.map compactMember) := by
  induction members with
  | nil => rfl
  | cons p rest ih =>
    cases rest with
    | nil => simp [compactMembers, compactMember]
    | cons m rest =>
      rw [compactMembers, ih]
      simp [compactMember]

/-- There are no more items than separators and one. -/
theorem length_le_intercalate {sep : List Char} (hsep : sep ≠ []) (xs : List (List Char)) :
    xs.length ≤ (sep.intercalate xs).length + 1 := by
  have := List.length_pos_iff.mpr hsep
  induction xs with
  | nil => exact Nat.zero_le _
  | cons x xs ih =>
    cases xs with
    | nil => simp
    | cons y xs =>
      rw [List.intercalate_cons_cons]
      simp only [List.length_cons, List.length_append] at ih ⊢
      omega

theorem skipBlank_append {blanks : List Char} (h : ∀ c ∈ blanks, isBlank c = true)
    (s : List Char) : skipBlank (blanks ++ s) = skipBlank s :=
  List.dropWhile_append_of_pos h

section Lists

variable {item : List Char → Option (α × List Char)} {write : α → List Char} {close : Char}
  {xs : List α}

/-- What may stand after an item of a list: a comma, the closing mark, or a blank. -/
def Follows (close c : Char) : Prop :=
  c = ',' ∨ c = close ∨ isBlank c = true

/-- What `Follows` the last item is the closing mark, with blanks in front of it or without. -/
theorem exists_follows {last : List Char} (hlast : ∀ c ∈ last, isBlank c = true) (close : Char)
    (rest : List Char) :
    ∃ c s, last ++ close :: rest = c :: s ∧ Follows close c := by
  cases last with
  | nil => exact ⟨close, rest, rfl, .inr (.inl rfl)⟩
  | cons c last => exact ⟨c, last ++ close :: rest, rfl, .inr (.inr (hlast c List.mem_cons_self))⟩

/-- `items` reads items with commas between them one by one, where the blanks after a comma are
    passed over. -/
theorem items_intercalate (gap last : List Char) (hcomma : close ≠ ',')
    (hblank : isBlank close = false) (hlast : ∀ c ∈ last, isBlank c = true)
    (skip : ∀ s, item (gap ++ s) = item s) {steps : Nat}
    (read : ∀ x ∈ xs, ∀ c rest, Follows close c →
      item (write x ++ c :: rest) = some (x, c :: rest))
    (some_item : xs ≠ []) (hs : xs.length ≤ steps) (rest : List Char) :
    items item close steps
        ((',' :: gap).intercalate (xs.map write) ++ (last ++ close :: rest))
      = some (xs, rest) := by
  -- the last item is followed by the closing mark, every other one by a comma and the gap
  induction xs generalizing steps with
  | nil => exact absurd rfl some_item
  | cons x xs ih =>
    obtain ⟨steps, rfl⟩ : ∃ n, steps = n + 1 := ⟨steps - 1, by simp at hs; omega⟩
    obtain ⟨hx, hxs⟩ := List.forall_mem_cons.mp read
    cases xs with
    | nil =>
      obtain ⟨c, s, hend, hc⟩ := exists_follows hlast close rest
      have final := hx c s hc
      rw [← hend] at final
      simp [items, final, skipBlank_append hlast, skipBlank_cons hblank]
    | cons y xs =>
      have enough : (y :: xs).length ≤ steps := Nat.le_of_succ_le_succ hs
      have inner := ih hxs (List.cons_ne_nil y xs) enough
      obtain ⟨steps, rfl⟩ : ∃ n, steps = n + 1 := ⟨steps - 1, by simp at enough; omega⟩
      have skipped : ∀ s,
          items item close (steps + 1) (gap ++ s) = items item close (steps + 1) s := by
        intro s
        rw [items, items, skip]
      rw [List.map_cons, List.map_cons, List.intercalate_cons_cons, List.append_assoc,
        List.append_assoc, List.cons_append, items, hx ',' _ (.inl rfl)]
      simp only [skipBlank_cons (show isBlank ',' = false by decide), Ne.symm hcomma, if_false,
        if_true, ← List.map_cons (f := write), skipped, inner, Option.map_some]

/-- `bracketed` reads a whole list in brackets, where no item starts with a blank or the closing
    one. -/
theorem bracketed_intercalate (gap last : List Char) (hcomma : close ≠ ',')
    (hblank : isBlank close = false) (hlast : ∀ c ∈ last, isBlank c = true)
    (skip : ∀ s, item (gap ++ s) = item s)
    (read : ∀ x ∈ xs, ∀ c rest, Follows close c →
      item (write x ++ c :: rest) = some (x, c :: rest))
    (head : ∀ x ∈ xs, ∃ c s, write x = c :: s ∧ isBlank c = false ∧ c ≠ close)
    (rest : List Char) :
    bracketed item close ((',' :: gap).intercalate (xs.map write) ++ (last ++ close :: rest))
      = some (xs, rest) := by
  cases xs with
  | nil => simp [bracketed, skipBlank_append hlast, skipBlank_cons hblank]
  | cons x xs =>
    -- the first item shows that the list is neither empty nor blank in front
    obtain ⟨c, s, hw, hc, hne⟩ := head x List.mem_cons_self
    obtain ⟨s', hs'⟩ : ∃ s', (',' :: gap).intercalate ((x :: xs).map write) ++
        (last ++ close :: rest) = c :: s' := by
      cases xs with
      | nil => exact ⟨s ++ (last ++ close :: rest), by simp [hw]⟩
      | cons y xs =>
        rw [List.map_cons, List.map_cons, List.intercalate_cons_cons, hw]
        exact ⟨_, rfl⟩
    -- each item and its comma take a character at least, so there are steps enough
    have enough : (x :: xs).length ≤ (c :: s').length := by
      have := length_le_intercalate (List.cons_ne_nil ',' gap) ((x :: xs).map write)
      rw [← hs', List.length_append, List.length_append, List.length_cons (a := close)]
      rw [List.length_map] at this
      omega
    unfold bracketed
    rw [hs', skipBlank_cons hc]
    simp only [hne, if_false]
    rw [← hs'] at enough ⊢
    exact items_intercalate gap last hcomma hblank hlast skip read (List.cons_ne_nil x xs) enough
      rest

end Lists

/-! ### Values -/

theorem isBlank_eq_false {c : Char} (h : c ∉ [' ', '\t', '\n', '\r']) : isBlank c = false := by
  simpa [isBlank, and_assoc] using h

/-- A `value` that opens no list is a `scalar` at every depth. -/
theorem value_scalar {c : Char} (h : c ∉ [' ', '\t', '\n', '\r', '[', '{']) (limit : Nat)
    (s : List Char) : value limit (c :: s) = scalar (c :: s) := by
  have blank : isBlank c = false :=
    isBlank_eq_false fun hmem => h (List.mem_append_left ['[', '{'] hmem)
  cases limit with
  | zero => rw [value, skipBlank_cons blank]
  | succ limit =>
    unfold value
    rw [skipBlank_cons blank]
    split
    · rename_i heq
      cases heq
      exact absurd (by decide) h
    · rename_i heq
      cases heq
      exact absurd (by decide) h
    · rfl

/-- `compact` starts no value with a blank or a closing bracket. -/
theorem head_compact {v : Json} (h : exact v = true) :
    ∃ c s, compact v = c :: s ∧ isBlank c = false ∧ c ≠ ']' := by
  cases v with
  | null => exact ⟨'n', _, rfl, by decide, by decide⟩
  | bool b => cases b <;> exact ⟨_, _, rfl, by decide, by decide⟩
  | number n =>
    cases n with
    | double bits => simp [exact] at h
    | integer n =>
      obtain ⟨c, s, hs, hc⟩ := head_renderSigned n
      have no_bracket : c ∉ [']'] := notMem_of_startsNumber hc (by decide)
      exact ⟨c, s, hs, isBlank_eq_false (notMem_of_startsNumber hc (by decide)),
        List.ne_of_not_mem_cons no_bracket⟩
  | string s => exact ⟨'"', _, rfl, by decide, by decide⟩
  | array items => exact ⟨'[', _, rfl, by decide, by decide⟩
  | object members => exact ⟨'{', _, rfl, by decide, by decide⟩

/-- What `Follows` an item does not carry on a number. -/
theorem endsNumeral_of_follows {close c : Char} (hclose : close ∈ [']', '}'])
    (h : Follows close c) (rest : List Char) : EndsNumeral (c :: rest) := by
  intro c' hc'
  cases hc'
  rcases h with rfl | rfl | h
  · decide
  · simp only [List.mem_cons, List.not_mem_nil, or_false] at hclose
    rcases hclose with rfl | rfl <;> decide
  · simp only [isBlank, Bool.or_eq_true, decide_eq_true_eq] at h
    rcases h with ((rfl | rfl) | rfl) | rfl <;> decide

/-- A `member` is read back if its value is. -/
theorem member_quoted {p : List Char → Option (Json × List Char)} (name : String)
    {s rest : List Char} {v : Json} (h : p s = some (v, rest)) :
    member p (quoted name ++ ':' :: s) = some ((name, v), rest) := by
  have body := stringBody_flatMap_escape name.toList (':' :: s)
  have colon := skipBlank_cons (show isBlank ':' = false by decide) s
  simp only [quoted, member, List.cons_append, List.append_assoc, List.nil_append,
    skipBlank_cons (show isBlank '"' = false by decide), body, colon, h, Option.map_some,
    String.ofList_toList]

/-- **`value` reads what `compact` writes**, whatever it holds and whatever follows. -/
theorem value_compact {limit : Nat} {v : Json} (h : Admitted limit v) (he : exact v = true)
    {rest : List Char} (hr : EndsNumeral rest) :
    value limit (compact v ++ rest) = some (v, rest) := by
  -- the induction is on what is admitted, so that a value inside keeps one level less
  induction h generalizing rest with
  | null => exact value_scalar (by decide) _ _
  | bool b => cases b <;> exact value_scalar (by decide) _ _
  | @integer limit n fits =>
    obtain ⟨c, s, hs, hc⟩ := head_renderSigned n
    show value limit (Decimal.renderSigned n ++ rest) = _
    rw [← scalar_renderSigned fits hr, hs, List.cons_append]
    exact value_scalar (notMem_of_startsNumber hc (by decide)) limit (s ++ rest)
  | double bits => simp [exact] at he
  | string s =>
    rw [compact, ← scalar_quoted s rest]
    exact value_scalar (by decide) _ _
  | @array limit items inner ih =>
    rw [exact, exactItems_iff] at he
    have read : ∀ v ∈ items, ∀ c rest, Follows ']' c →
        value limit (compact v ++ c :: rest) = some (v, c :: rest) :=
      fun v hv c rest hc => ih v hv (he v hv) (endsNumeral_of_follows (by decide) hc rest)
    have list := bracketed_intercalate [] [] (by decide) (by decide) (by simp) (fun s => rfl)
      read (fun v hv => head_compact (he v hv)) rest
    rw [List.nil_append] at list
    rw [compact, compactItems_eq, List.cons_append, List.cons_append, List.append_assoc,
      List.singleton_append]
    simp only [value, skipBlank_cons (show isBlank '[' = false by decide), list, Option.map_some]
  | @object limit members nodup inner ih =>
    rw [exact, exactMembers_iff] at he
    have read : ∀ m ∈ members, ∀ c rest, Follows '}' c →
        member (value limit) (compactMember m ++ c :: rest) = some (m, c :: rest) := by
      intro m hm c rest hc
      rw [compactMember, List.append_assoc, List.cons_append]
      exact member_quoted m.1 (ih m hm (he m hm) (endsNumeral_of_follows (by decide) hc rest))
    have list := bracketed_intercalate [] [] (by decide) (by decide) (by simp) (fun s => rfl)
      read (fun m hm => ⟨'"', _, rfl, by decide, by decide⟩) rest
    rw [List.nil_append] at list
    rw [compact, compactMembers_eq, List.cons_append, List.cons_append, List.append_assoc,
      List.singleton_append]
    simp only [value, skipBlank_cons (show isBlank '{' = false by decide), list, Option.map_some,
      ofMembers, Members.ofList_of_nodup nodup]

/-- **`parse` reads what `compact` writes.** -/
theorem parse_compact {limit : Nat} {v : Json} (h : Admitted limit v) (he : exact v = true) :
    parse (compact v) limit = some v := by
  have ends : EndsNumeral [] := fun c hc => by cases hc
  have read := value_compact h he ends
  rw [List.append_nil] at read
  rw [parse, read]
  rfl

/-! ### Line feeds -/

theorem hexDigit_ne_lineFeed : ∀ n < 16, hexDigit n ≠ '\n' := by
  decide

/-- `escape` writes no line feed, not even for a line feed. -/
theorem lineFeed_notMem_escape (c : Char) : '\n' ∉ escape c := by
  unfold escape
  split
  case h_8 hn _ _ =>
    split
    · have first := hexDigit_ne_lineFeed (c.toNat / 16) (by omega)
      have second : hexDigit c.toNat ≠ '\n' := by
        rw [hexDigit, ← Nat.mod_mod]
        exact hexDigit_ne_lineFeed (c.toNat % 16) (by omega)
      simp [Ne.symm first, Ne.symm second]
    · simpa using Ne.symm hn
  all_goals decide

/-- `quoted` writes no line feed. -/
theorem lineFeed_notMem_quoted (s : String) : '\n' ∉ quoted s := by
  simp [quoted, lineFeed_notMem_escape]

theorem lineFeed_notMem_intercalate {xs : List (List Char)} (h : ∀ x ∈ xs, '\n' ∉ x) :
    '\n' ∉ [','].intercalate xs := by
  induction xs with
  | nil => exact List.not_mem_nil
  | cons x xs ih =>
    obtain ⟨hx, hxs⟩ := List.forall_mem_cons.mp h
    cases xs with
    | nil => simpa using hx
    | cons y xs =>
      rw [List.intercalate_cons_cons]
      simp [hx, ih hxs]

/-- A document as `compact` writes it has no line feed, since those in its strings are escaped. -/
theorem lineFeed_notMem_compact {limit : Nat} {v : Json} (h : Admitted limit v)
    (he : exact v = true) : '\n' ∉ compact v := by
  induction h with
  | null => decide
  | bool b => cases b <;> decide
  | @integer limit n fits =>
    show '\n' ∉ Decimal.renderSigned n
    -- a number is written in digits, with a minus in front if it is negative
    have digits : '\n' ∉ Nat.toDigits 10 n.natAbs := fun hmem => by
      simpa using Decimal.isDigit_of_mem hmem
    unfold Decimal.renderSigned
    split <;> simp [digits]
  | double bits => simp [exact] at he
  | string s => exact lineFeed_notMem_quoted s
  | array inner ih =>
    rw [exact, exactItems_iff] at he
    rw [compact, compactItems_eq]
    have items := lineFeed_notMem_intercalate
      (List.forall_mem_map.mpr fun v hv => ih v hv (he v hv))
    simp [items]
  | @object limit members nodup inner ih =>
    rw [exact, exactMembers_iff] at he
    rw [compact, compactMembers_eq]
    have each : ∀ m ∈ members, '\n' ∉ compactMember m := fun m hm => by
      simp [compactMember, lineFeed_notMem_quoted, ih m hm (he m hm)]
    have all := lineFeed_notMem_intercalate (List.forall_mem_map.mpr each)
    simp [all]

end FlowDump.Json
