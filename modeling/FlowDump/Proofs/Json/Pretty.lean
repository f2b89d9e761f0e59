import FlowDump.Proofs.Json.RoundTrip

/-!
# Documents over several lines are read as they are written

The new lines and the spaces that `Json.pretty` puts between the parts of a value are passed over by
the reader, so that the value is the one that was written.

* `value_skip`, `member_skip` — blanks in front of a value or a member are passed over.
* `value_prettyAt` — a value is read back at every level, and what follows it is left.
* `parse_pretty` — a document is read back.
-/

namespace FlowDump.Json

/-! ### Blanks in front -/

theorem isBlank_of_mem_newline {level : Nat} : ∀ c ∈ newline level, isBlank c = true := by
  intro c hc
  rcases List.mem_cons.mp hc with rfl | hc
  · decide
  · rw [List.eq_of_mem_replicate hc]
    decide

/-- `value` passes over blanks in front of it. -/
theorem value_skip {blanks : List Char} (h : ∀ c ∈ blanks, isBlank c = true) (limit : Nat)
    (s : List Char) : value limit (blanks ++ s) = value limit s := by
  cases limit with
  | zero => rw [value, value, skipBlank_append h]
  | succ limit => rw [value, value, skipBlank_append h]

theorem member_skip {blanks : List Char} (h : ∀ c ∈ blanks, isBlank c = true)
    (p : List Char → Option (Json × List Char)) (s : List Char) :
    member p (blanks ++ s) = member p s := by
  rw [member, member, skipBlank_append h]

theorem bracketed_skip {α : Type} {blanks : List Char} (h : ∀ c ∈ blanks, isBlank c = true)
    (item : List Char → Option (α × List Char)) (close : Char) (s : List Char) :
    bracketed item close (blanks ++ s) = bracketed item close s := by
  rw [bracketed, bracketed, skipBlank_append h]

/-! ### Lists -/

/-- The items of a list over several lines have a comma and a `newline` between them. -/
theorem prettyItems_eq (level : Nat) (items : List Json) :
    prettyItems level items = (',' :: newline level).intercalate (items.map (prettyAt level)) := by
  induction items with
  | nil => rfl
  | cons v rest ih =>
    cases rest with
    | nil => simp [prettyItems]
    | cons w rest =>
      rw [prettyItems, ih]
      simp

/-- A member on a line of its own, with its value by `prettyAt`. -/
def prettyMember (level : Nat) (p : String × Json) : List Char :=
  quoted p.1 ++ ':' :: ' ' :: prettyAt level p.2

/-- The members of an object over several lines are `prettyMember`s with a comma and a `newline`
    between them. -/
theorem prettyMembers_eq (level : Nat) (members : List (String × Json)) :
    prettyMembers level members
      = (',' :: newline level).intercalate (members.map (prettyMember level)) := by
  induction members with
  | nil => rfl
  | cons p rest ih =>
    cases rest with
    | nil => simp [prettyMembers, prettyMember]
    | cons m rest =>
      rw [prettyMembers, ih]
      simp [prettyMember]

/-! ### Values -/

/-- A value that holds no other is on one line, as `compact` writes it. -/
theorem prettyAt_eq_compact {v : Json} (level : Nat) (items : ∀ xs, v ≠ .array xs)
    (members : ∀ ms, v ≠ .object ms) : prettyAt level v = compact v := by
  cases v with
  | null => rfl
  | bool b => cases b <;> rfl
  | number n => rfl
  | string s => rfl
  | array xs => exact absurd rfl (items xs)
  | object ms => exact absurd rfl (members ms)

/-- `prettyAt` starts no value with a blank or a closing bracket. -/
theorem head_prettyAt {v : Json} (level : Nat) (h : exact v = true) :
    ∃ c s, prettyAt level v = c :: s ∧ isBlank c = false ∧ c ≠ ']' := by
  cases v with
  | array items => cases items <;> exact ⟨'[', _, rfl, by decide, by decide⟩
  | object members => cases members <;> exact ⟨'{', _, rfl, by decide, by decide⟩
  | _ =>
    rw [prettyAt_eq_compact level (by simp) (by simp)]
    exact head_compact h

/-- **`value` reads what `prettyAt` writes**, at every level and whatever follows. -/
theorem value_prettyAt {limit : Nat} {v : Json} (h : Admitted limit v) (he : exact v = true)
    (level : Nat) {rest : List Char} (hr : EndsNumeral rest) :
    value limit (prettyAt level v ++ rest) = some (v, rest) := by
  induction h generalizing level rest with
  | @array limit items inner ih =>
    cases items with
    | nil => rfl
    | cons first items =>
      rw [exact, exactItems_iff] at he
      have read : ∀ v ∈ first :: items, ∀ c rest, Follows ']' c →
          value limit (prettyAt (level + 1) v ++ c :: rest) = some (v, c :: rest) :=
        fun v hv c rest hc => ih v hv (he v hv) _ (endsNumeral_of_follows (by decide) hc rest)
      have list := bracketed_intercalate (newline (level + 1)) (newline level) (by decide)
        (by decide) isBlank_of_mem_newline (value_skip isBlank_of_mem_newline limit) read
        (fun v hv => head_prettyAt _ (he v hv)) rest
      rw [prettyAt, prettyItems_eq]
      simp only [value, List.cons_append, List.append_assoc, List.nil_append,
        skipBlank_cons (show isBlank '[' = false by decide),
        bracketed_skip isBlank_of_mem_newline, list, Option.map_some]
  | @object limit members nodup inner ih =>
    cases members with
    | nil => rfl
    | cons first members =>
      rw [exact, exactMembers_iff] at he
      -- a single space stands between the colon and the value
      have space : ∀ c ∈ [' '], isBlank c = true := List.forall_mem_singleton.mpr (by decide)
      have read : ∀ m ∈ first :: members, ∀ c rest, Follows '}' c →
          member (value limit) (prettyMember (level + 1) m ++ c :: rest) = some (m, c :: rest) := by
        intro m hm c rest hc
        have inside := ih m hm (he m hm) (level + 1) (endsNumeral_of_follows (by decide) hc rest)
        rw [← value_skip space, List.singleton_append] at inside
        rw [prettyMember, List.append_assoc, List.cons_append, List.cons_append]
        exact member_quoted m.1 inside
      have list := bracketed_intercalate (newline (level + 1)) (newline level) (by decide)
        (by decide) isBlank_of_mem_newline (member_skip isBlank_of_mem_newline (value limit)) read
        (fun m hm => ⟨'"', _, rfl, by decide, by decide⟩) rest
      rw [prettyAt, prettyMembers_eq]
      simp only [value, List.cons_append, List.append_assoc, List.nil_append,
        skipBlank_cons (show isBlank '{' = false by decide),
        bracketed_skip isBlank_of_mem_newline, list, Option.map_some, ofMembers,
        Members.ofList_of_nodup nodup]
  | null => exact value_compact .null he hr
  | bool b => cases b <;> exact value_compact (.bool _) he hr
  | integer fits => exact value_compact (.integer fits) he hr
  | double bits => simp [exact] at he
  | string s => exact value_compact (.string s) he hr

/-- **`parse` reads what `pretty` writes.** -/
theorem parse_pretty {limit : Nat} {v : Json} (h : Admitted limit v) (he : exact v = true) :
    parse (pretty v) limit = some v := by
  have ends : EndsNumeral [] := fun c hc => by cases hc
  have read := value_prettyAt h he 0 ends
  rw [List.append_nil] at read
  rw [parse, pretty, read]
  rfl

end FlowDump.Json
