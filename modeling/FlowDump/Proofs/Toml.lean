import FlowDump.Toml.Parser

/-!
# The names of a document are distinct

Whatever a statement of a document defines, it inserts one entry into the tables that were there.
So no name stands twice in the table of a document, in whatever order its statements come.

* `descend_inserts`, `define_inserts` — a step of the construction inserts one entry.
* `nodup_keys_parse` — the names of the table of a document are distinct.
-/

namespace FlowDump.Toml

/-- A change of entries inserts one of them. -/
def Inserts (change : Entries → Option Entries) : Prop :=
  ∀ es es', change es = some es' → ∃ k e, es' = Members.insert k e es

/-! ### Steps of the construction -/

/-- A change below a table `Inserts` one entry in the table. -/
theorem descend_inserts {change : Entries → Option Entries} (h : Inserts change)
    (path : List String) : Inserts (descend path change) := by
  intro es es' he
  cases path with
  | nil => exact h es es' he
  | cons k path =>
    unfold descend at he
    split at he
    · obtain ⟨sub, -, rfl⟩ := Option.map_eq_some_iff.mp he
      exact ⟨k, _, rfl⟩
    · cases he
    · obtain ⟨sub, -, rfl⟩ := Option.map_eq_some_iff.mp he
      exact ⟨k, _, rfl⟩
    · split at he
      · cases he
      · obtain ⟨sub, -, rfl⟩ := Option.map_eq_some_iff.mp he
        exact ⟨k, _, rfl⟩

/-- `define` is a change that `Inserts` an entry, under the first name of its path. -/
theorem define_inserts (v : Value) (path : List String) : Inserts (define v path) := by
  intro es es' he
  match path with
  | [] => cases he
  | [k] =>
    unfold define at he
    split at he
    · cases he
      exact ⟨k, _, rfl⟩
    · cases he
  | k :: next :: path =>
    unfold define at he
    split at he
    · obtain ⟨sub, -, rfl⟩ := Option.map_eq_some_iff.mp he
      exact ⟨k, _, rfl⟩
    · cases he
    · obtain ⟨sub, -, rfl⟩ := Option.map_eq_some_iff.mp he
      exact ⟨k, _, rfl⟩
    · cases he

theorem openHeader_inserts (k : String) : Inserts (openHeader k) := by
  intro es es' he
  unfold openHeader at he
  split at he
  · cases he
    exact ⟨k, _, rfl⟩
  · cases he
    exact ⟨k, _, rfl⟩
  · cases he

theorem push_inserts (k : String) : Inserts (push k) := by
  intro es es' he
  unfold push at he
  split at he
  · cases he
    exact ⟨k, _, rfl⟩
  · cases he
    exact ⟨k, _, rfl⟩
  · cases he

/-- `atLast` is a change that `Inserts` one entry if the change of the last name does. -/
theorem atLast_inserts {change : String → Entries → Option Entries} (h : ∀ k, Inserts (change k))
    (path : List String) : Inserts (atLast path change) := by
  intro es es' he
  unfold atLast at he
  split at he
  · cases he
  · exact descend_inserts (h _) _ es es' he

/-! ### Whole documents -/

/-- Entries stay distinct under a change that `Inserts` one. -/
theorem Inserts.nodup {change : Entries → Option Entries} (h : Inserts change) {es es' : Entries}
    (he : change es = some es') (nodup : (Members.keys es).Nodup) : (Members.keys es').Nodup := by
  obtain ⟨k, e, rfl⟩ := h es es' he
  exact Members.nodup_keys_insert k e nodup

/-- `construct` makes no name stand twice, statement after statement. -/
theorem nodup_construct {statements : List Statement} {current : List String} {es es' : Entries}
    (h : construct current es statements = some es') (nodup : (Members.keys es).Nodup) :
    (Members.keys es').Nodup := by
  induction statements generalizing current es with
  | nil =>
    cases h
    exact nodup
  | cons s rest ih =>
    -- each statement makes one change and goes on with the others
    cases s with
    | pair path v =>
      obtain ⟨next, hn, later⟩ := Option.bind_eq_some_iff.mp h
      exact ih later ((descend_inserts (define_inserts v path) current).nodup hn nodup)
    | header path =>
      obtain ⟨next, hn, later⟩ := Option.bind_eq_some_iff.mp h
      exact ih later ((atLast_inserts openHeader_inserts path).nodup hn nodup)
    | arrayHeader path =>
      obtain ⟨next, hn, later⟩ := Option.bind_eq_some_iff.mp h
      exact ih later ((atLast_inserts push_inserts path).nodup hn nodup)

/-- `finishEntries` leaves the names as they were. -/
theorem keys_finishEntries (es : Entries) :
    Members.keys (finishEntries es) = Members.keys es := by
  induction es with
  | nil => rfl
  | cons p rest ih =>
    obtain ⟨k, e⟩ := p
    rw [finishEntries, Members.keys_cons, Members.keys_cons, ih]

/-- **No name stands twice in the table that `Toml.parse` gives.** -/
theorem nodup_keys_parse {text : String} {table : Table} (h : parse text = some table) :
    (Members.keys table).Nodup := by
  obtain ⟨statements, -, built⟩ := Option.bind_eq_some_iff.mp h
  obtain ⟨es, constructed, rfl⟩ := Option.map_eq_some_iff.mp built
  rw [keys_finishEntries]
  exact nodup_construct constructed List.nodup_nil

/-- A document is what `build?` makes of its statements, where it starts with no mark of its byte
    order. -/
theorem parse_of_statements {text : String} {size : Nat} {made : List Statement}
    (unmarked : skipByteOrderMark text.toList = text.toList) (length_eq : text.toList.length = size)
    (read : statements (size + 1) text.toList = some made) : parse text = build? made := by
  simp only [parse, unmarked, length_eq, read, Option.bind_some]

end FlowDump.Toml
