import FlowDump.Proofs.Json.Reader

/-!
# A line feed after a document

A reader of lines may hand on the line feed with the line: a line feed that follows a text changes
nothing in what is read of the text, since no value, no string and no number takes it in.

* `Trails` — a reader that leaves a line feed at the end of a text where it is; all parts of the
  JSON reader are such readers.
* `parse_append_lineFeed` — a document may end with a line feed.
-/

namespace FlowDump.Json

variable {α : Type}

/-- A line feed after a text stays behind what a reader leaves. -/
def Trails (p : List Char → Option (α × List Char)) : Prop :=
  ∀ s, p (s ++ ['\n']) = (p s).map fun (v, r) => (v, r ++ ['\n'])

/-! ### Strings and words -/

theorem codeUnit?_lineFeed (a b c : Char) : codeUnit? a b c '\n' = none := by
  have h : Text.hexValue? '\n' = none := by decide
  simp [codeUnit?, Text.hexNumber?, List.foldlM_cons, h]

/-- `stringBody` takes no line feed in: it would have to be escaped. -/
theorem trails_stringBody : Trails stringBody := by
  intro s
  fun_induction stringBody s with
  | case1 => rfl
  | case2 rest => simp [stringBody]
  | case3 a b c d rest hu => simp [stringBody, hu]
  | case4 a b c d rest unit hu hl => simp [stringBody, hu, hl]
  | case5 a b c d unit hu hl hh a' b' c' d' rest hu' => simp [stringBody, hu, hl, hh, hu']
  | case6 a b c d unit hu hl hh a' b' c' d' rest low hu' hl' ih =>
    simp [stringBody, hu, hl, hh, hu', hl', ih, Function.comp_def]
  | case7 a b c d unit hu hl hh a' b' c' d' rest low hu' hl' =>
    simp [stringBody, hu, hl, hh, hu', hl']
  | case8 a b c d rest unit hu hl hh hn =>
    simp only [List.cons_append, stringBody, hu, hl, hh, and_self, if_false, if_true,
      Option.map_none]
    split
    · rename_i a' b' c' d' rest' heq
      rcases List.eq_nil_or_concat rest' with rfl | ⟨init, x, rfl⟩
      · -- the line feed would be the last digit
        have last : rest ++ ['\n'] = ['\\', 'u', a', b', c'] ++ [d'] := heq
        cases (List.append_inj' last rfl).2
        rw [codeUnit?_lineFeed]
      · have inner : rest ++ ['\n'] = '\\' :: 'u' :: a' :: b' :: c' :: d' :: init ++ [x] := by
          simpa using heq
        exact (hn a' b' c' d' init (List.append_inj' inner rfl).1).elim
    · rfl
  | case9 a b c d rest unit hu hl hh ih =>
    simp [stringBody, hu, hl, hh, ih, Function.comp_def]
  | case10 e rest hn he =>
    by_cases hu : e = 'u'
    · subst hu
      -- the line feed may be the fourth digit of an escape that has three
      rcases rest with _ | ⟨a, _ | ⟨b, _ | ⟨c, _ | ⟨d, rest⟩⟩⟩⟩
      · rfl
      · rfl
      · rfl
      · simp [stringBody, codeUnit?_lineFeed]
      · exact absurd rfl (hn a b c d rest rfl)
    · simp [stringBody_escaped hu, he]
  | case11 e rest hn c he ih =>
    have hu : e ≠ 'u' := by
      rintro rfl
      simp [escaped?] at he
    simp [stringBody_escaped hu, he, ih, Function.comp_def]
  | case12 c rest hq _ hb hc =>
    by_cases hs : c = '\\'
    · subst hs
      cases rest with
      | nil => rfl
      | cons e rest => exact (hb e rest rfl rfl).elim
    · simp [stringBody_plain hq hs, hc.resolve_left hs]
  | case13 c rest hq _ hb hc ih =>
    rw [not_or] at hc
    simp [stringBody_plain hq hc.1, hc.2, ih, Function.comp_def]

/-- `afterWord?` leaves a line feed at the end alone where the word has none in it. -/
theorem afterWord?_append_lineFeed {word : List Char} (h : '\n' ∉ word) (s : List Char) :
    afterWord? word (s ++ ['\n']) = (afterWord? word s).map (· ++ ['\n']) := by
  induction word generalizing s with
  | nil => rfl
  | cons w word ih =>
    rw [List.mem_cons, not_or] at h
    cases s with
    | nil => simp [afterWord?, Ne.symm h.1]
    | cons c s =>
      simp only [List.cons_append, afterWord?]
      split
      · exact ih h.2 s
      · rfl

/-! ### Numbers -/

namespace Numeral

/-- The `digits` at the front of a text end where a line feed stands. -/
theorem digits_append_lineFeed (s : List Char) :
    digits (s ++ ['\n']) = ((digits s).1, (digits s).2 ++ ['\n']) := by
  have hn : Char.isDigit '\n' = false := by decide
  unfold digits
  induction s with
  | nil => simp [hn]
  | cons c s ih =>
    simp only [Prod.mk.injEq] at ih
    by_cases hc : c.isDigit = true
    · simp [hc, ih]
    · simp [hc]

theorem trails_digits1? : Trails digits1? := by
  intro s
  unfold digits1?
  rw [digits_append_lineFeed]
  rcases digits s with ⟨_ | ⟨d, ds⟩, rest⟩ <;> rfl

/-- A line feed after `readWhole?` is behind the digits, be it after a zero or not. -/
theorem trails_readWhole? : Trails readWhole? := by
  intro s
  rcases s with _ | ⟨c, rest⟩
  · rfl
  · by_cases hc : c = '0'
    · subst hc
      rfl
    · have whole (t : List Char) : readWhole? (c :: t) = digits1? (c :: t) := by
        rw [readWhole?]
        rintro rest ⟨⟩
        exact hc rfl
      rw [List.cons_append, whole, whole, ← List.cons_append, trails_digits1?]

/-- A line feed after `readFraction?` is behind the fraction; a point that it follows is an error as
    one at the end is. -/
theorem trails_readFraction? : Trails readFraction? := by
  intro s
  rcases s with _ | ⟨c, rest⟩
  · rfl
  · by_cases hc : c = '.'
    · subst hc
      simp [readFraction?, trails_digits1? rest, Function.comp_def]
    · have whole (t : List Char) : readFraction? (c :: t) = some (none, c :: t) := by
        rw [readFraction?]
        rintro rest ⟨⟩
        exact hc rfl
      rw [List.cons_append, whole, whole]
      rfl

theorem readSign_append_lineFeed (s : List Char) :
    readSign (s ++ ['\n']) = ((readSign s).1, (readSign s).2 ++ ['\n']) := by
  rcases s with _ | ⟨c, rest⟩
  · rfl
  · unfold readSign
    split <;> simp_all

/-- A line feed after `readExponent?` is behind the exponent. -/
theorem trails_readExponent? : Trails readExponent? := by
  intro s
  rcases s with _ | ⟨c, rest⟩
  · rfl
  · simp only [List.cons_append, readExponent?, readSign_append_lineFeed, trails_digits1? _]
    split <;> simp [Function.comp_def]

theorem readMinus_append_lineFeed (s : List Char) :
    readMinus (s ++ ['\n']) = ((readMinus s).1, (readMinus s).2 ++ ['\n']) := by
  rcases s with _ | ⟨c, rest⟩
  · rfl
  · unfold readMinus
    split <;> simp_all

/-- `Numeral.read?` takes no line feed in. -/
theorem trails_read? : Trails read? := by
  intro s
  rw [read?_eq, read?_eq, readMinus_append_lineFeed, trails_readWhole? _]
  cases readWhole? (readMinus s).2 with
  | none => rfl
  | some p =>
    simp only [Option.map_some, Option.bind_some, trails_readFraction? _]
    cases readFraction? p.2 with
    | none => rfl
    | some p' =>
      simp only [Option.map_some, Option.bind_some, trails_readExponent? _]
      cases readExponent? p'.2 <;> rfl

end Numeral

/-! ### Values -/

/-- For `skipBlank` a line feed after a text is one more blank: it goes where the whole text is
    blank. -/
theorem skipBlank_append_lineFeed (s : List Char) :
    skipBlank (s ++ ['\n']) = if skipBlank s = [] then [] else skipBlank s ++ ['\n'] := by
  have hb : isBlank '\n' = true := by decide
  unfold skipBlank
  rw [List.dropWhile_append]
  cases s.dropWhile isBlank <;> simp [hb]

/-- A line feed after `scalar` is behind the value, whatever value it is. -/
theorem trails_scalar : Trails scalar := by
  intro s
  rcases s with _ | ⟨c, rest⟩
  · rfl
  by_cases h : c ∈ ['"', 't', 'f', 'n']
  · simp only [List.mem_cons, List.not_mem_nil, or_false] at h
    rcases h with rfl | rfl | rfl | rfl
    · simp [scalar, trails_stringBody rest, Function.comp_def]
    · have word : '\n' ∉ ['r', 'u', 'e'] := by decide
      simp [scalar, afterWord?_append_lineFeed word rest, Function.comp_def]
    · have word : '\n' ∉ ['a', 'l', 's', 'e'] := by decide
      simp [scalar, afterWord?_append_lineFeed word rest, Function.comp_def]
    · have word : '\n' ∉ ['u', 'l', 'l'] := by decide
      simp [scalar, afterWord?_append_lineFeed word rest, Function.comp_def]
  · rw [List.cons_append, scalar_number h, scalar_number h, ← List.cons_append,
      Numeral.trails_read? (c :: rest)]
    cases Numeral.read? (c :: rest) with
    | none => rfl
    | some p =>
      simp only [Option.map_some, Option.bind_some]
      cases p.1.value? <;> rfl

/-- `items` leave a line feed alone if each item does. -/
theorem trails_items {item : List Char → Option (α × List Char)} (h : Trails item)
    (close : Char) (steps : Nat) : Trails (items item close steps) := by
  induction steps with
  | zero => intro s; rfl
  | succ steps ih =>
    intro s
    unfold items
    rw [h s]
    cases item s with
    | none => rfl
    | some p =>
      simp only [Option.map_some, skipBlank_append_lineFeed]
      cases hb : skipBlank p.2 with
      | nil => rfl
      | cons c left =>
        simp only [reduceCtorEq, if_false, List.cons_append]
        split
        · rfl
        · split
          · rw [ih left]
            cases items item close steps left <;> rfl
          · rfl

/-- `bracketed` leaves a line feed alone; the text has a character more, and `items_enough` says
    that the step more that it gives changes nothing. -/
theorem trails_bracketed {item : List Char → Option (α × List Char)} (h : Trails item)
    (shrinks : Shrinks item) (close : Char) : Trails (bracketed item close) := by
  intro s
  unfold bracketed
  rw [skipBlank_append_lineFeed]
  cases skipBlank s with
  | nil => rfl
  | cons c left =>
    simp only [reduceCtorEq, if_false, List.cons_append]
    split
    · rfl
    · -- the line feed brings one more step, which is not needed
      have enough : items item close (c :: left).length (c :: left) =
          items item close (c :: (left ++ ['\n'])).length (c :: left) :=
        items_enough shrinks close (Nat.le_refl _) (by simp)
      rw [enough, ← trails_items h close]
      rfl

/-- A `member` leaves a line feed alone if its value does. -/
theorem trails_member {p : List Char → Option (Json × List Char)} (h : Trails p) :
    Trails (member p) := by
  intro s
  unfold member
  -- blanks, name, colon and value each leave the line feed behind what they take
  rw [skipBlank_append_lineFeed]
  cases skipBlank s with
  | nil => rfl
  | cons c left =>
    simp only [reduceCtorEq, if_false, List.cons_append]
    by_cases hq : c = '"'
    · subst hq
      simp only [trails_stringBody left]
      cases stringBody left with
      | none => rfl
      | some q =>
        simp only [Option.map_some, skipBlank_append_lineFeed]
        cases skipBlank q.2 with
        | nil => rfl
        | cons c' left' =>
          simp only [reduceCtorEq, if_false, List.cons_append]
          by_cases hc : c' = ':'
          · subst hc
            simp only [h left']
            cases p left' <;> rfl
          · simp [hc]
    · simp [hq]

/-- `value` takes no line feed in, however deep the value is nested. -/
theorem trails_value (limit : Nat) : Trails (value limit) := by
  induction limit with
  | zero =>
    intro s
    simp only [value, skipBlank_append_lineFeed]
    cases hs : skipBlank s with
    | nil => rfl
    | cons c left => exact trails_scalar (c :: left)
  -- what is inside the brackets has one level less, and a scalar has no inside
  | succ limit ih =>
    intro s
    unfold value
    rw [skipBlank_append_lineFeed]
    cases hs : skipBlank s with
    | nil => rfl
    | cons c left =>
      simp only [reduceCtorEq, if_false, List.cons_append]
      by_cases ha : c = '['
      · subst ha
        simp [trails_bracketed ih (shrinks_value limit) ']' left, Function.comp_def]
      · by_cases ho : c = '{'
        · subst ho
          simp [trails_bracketed (trails_member ih) (shrinks_member (shrinks_value limit)) '}'
            left, Function.comp_def]
        · simpa [ha, ho] using trails_scalar (c :: left)

/-- **A document may end with a line feed.**  For `parse` it changes nothing, whether the text is a
    document or not. -/
theorem parse_append_lineFeed (s : List Char) (limit : Nat) :
    parse (s ++ ['\n']) limit = parse s limit := by
  unfold parse
  rw [trails_value limit s]
  cases value limit s with
  | none => rfl
  | some p =>
    simp only [Option.map_some, skipBlank_append_lineFeed]
    by_cases h : skipBlank p.2 = [] <;> simp [h]

end FlowDump.Json
