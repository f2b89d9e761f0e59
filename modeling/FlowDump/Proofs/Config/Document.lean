import FlowDump.Config.Document
import FlowDump.Proofs.Toml
import Mathlib.Logic.ExistsUnique

/-!
# What a document changes in a configuration

A document replaces the fields that it names and leaves the defaults of all others.  Each field has
a name and a kind of contents, and can be read from a configuration and put into one.  All that has
to be known of a single field is that it holds what was put there last, and that it does not touch
the others.

* `Kind` — the kinds of contents; `Kind.Admits` says which values stand for them.
* `Field` — the ten fields, with `Field.read` and `Field.put`.
* `Overrides` — a configuration is another one with the fields of a table in place.
* `ofTable?_eq_some_iff` — the configuration of a table is the defaults with its fields in place.
* `check_of_load` — every configuration that is loaded passes the check.
* `parse_overrides` — which documents are accepted, and what comes of each.
-/

namespace FlowDump.Config

/-! ### Kinds of contents -/

/-- What a field holds. -/
inductive Kind where
  | text
  | texts
  /-- A number of 32 bits. -/
  | count32
  /-- A number of 64 bits. -/
  | count64
  deriving DecidableEq, Repr

namespace Kind

/-- The contents of a `Kind`. -/
def Content : Kind → Type
  | text => String
  | texts => List String
  | count32 => UInt32
  | count64 => UInt64

/-- The values that are of a `Kind`. -/
def Admits : Kind → Toml.Value → Prop
  | text, v => ∃ s, v = .string s
  | texts, v => ∃ items, v = .array items ∧ ∀ item ∈ items, ∃ s, item = .string s
  | count32, v => ∃ n, v = .integer n ∧ 0 ≤ n ∧ n < UInt32.size
  | count64, v => ∃ n, v = .integer n ∧ 0 ≤ n ∧ n < UInt64.size

/-- The value that stands for a content. -/
def valueOf : (k : Kind) → k.Content → Toml.Value
  | text, (s : String) => .string s
  | texts, (l : List String) => .array (l.map .string)
  | count32, (n : UInt32) => .integer n.toNat
  | count64, (n : UInt64) => .integer n.toNat

/-- The content that a value stands for, by the reader of its `Kind`. -/
def read? : (k : Kind) → Toml.Value → Option k.Content
  | text => text?
  | texts => texts?
  | count32 => count32?
  | count64 => count64?

end Kind

theorem text?_eq_some_iff {v : Toml.Value} {s : String} : text? v = some s ↔ v = .string s := by
  cases v <;> simp [text?]

theorem texts?_eq_some_iff {v : Toml.Value} {l : List String} :
    texts? v = some l ↔ v = .array (l.map .string) := by
  have items_iff : ∀ items : List Toml.Value,
      items.mapM text? = some l ↔ items = l.map .string := by
    intro items
    induction items generalizing l with
    | nil => cases l <;> simp
    | cons item items ih =>
      simp only [List.mapM_cons, bind, pure, Option.bind_eq_some_iff, Option.some.injEq,
        text?_eq_some_iff, ih]
      cases l with
      | nil => simp
      | cons s l => simp
  cases v <;> simp [texts?, items_iff]

/-- `count?` gives the integers from zero up to its bound. -/
theorem count?_eq_some_iff {max n : Nat} {v : Toml.Value} :
    count? max v = some n ↔ v = .integer n ∧ n ≤ max := by
  cases v with
  | integer i =>
    simp only [count?, Option.ite_none_right_eq_some, Option.some.injEq, Toml.Value.integer.injEq]
    omega
  | _ => simp [count?]

theorem count32?_eq_some_iff {v : Toml.Value} {n : UInt32} :
    count32? v = some n ↔ v = .integer n.toNat := by
  rw [count32?, Option.map_eq_some_iff]
  constructor
  · rintro ⟨m, counted, rfl⟩
    obtain ⟨rfl, within⟩ := count?_eq_some_iff.mp counted
    rw [UInt32.toNat_ofNat_of_lt' (Nat.lt_of_le_pred (by decide) within)]
  · rintro rfl
    exact ⟨n.toNat, count?_eq_some_iff.mpr ⟨rfl, Nat.le_sub_one_of_lt n.toNat_lt⟩,
      UInt32.ofNat_toNat⟩

theorem count64?_eq_some_iff {v : Toml.Value} {n : UInt64} :
    count64? v = some n ↔ v = .integer n.toNat := by
  rw [count64?, Option.map_eq_some_iff]
  constructor
  · rintro ⟨m, counted, rfl⟩
    obtain ⟨rfl, within⟩ := count?_eq_some_iff.mp counted
    rw [UInt64.toNat_ofNat_of_lt' (Nat.lt_of_le_pred (by decide) within)]
  · rintro rfl
    exact ⟨n.toNat, count?_eq_some_iff.mpr ⟨rfl, Nat.le_sub_one_of_lt n.toNat_lt⟩,
      UInt64.ofNat_toNat⟩

/-- `Kind.read?` reads a value as the content that it stands for. -/
theorem Kind.read?_eq_some_iff {k : Kind} {v : Toml.Value} {x : k.Content} :
    k.read? v = some x ↔ v = k.valueOf x := by
  cases k with
  | text => exact text?_eq_some_iff
  | texts => exact texts?_eq_some_iff
  | count32 => exact count32?_eq_some_iff
  | count64 => exact count64?_eq_some_iff

/-- The values that `Kind.Admits` are those that stand for something. -/
theorem Kind.admits_iff {k : Kind} {v : Toml.Value} : k.Admits v ↔ ∃ x, v = k.valueOf x := by
  cases k with
  | text => exact Iff.rfl
  | texts =>
    constructor
    · rintro ⟨items, rfl, texts⟩
      -- the texts of the items are collected one by one
      have read : ∃ l : List String, items = l.map .string := by
        induction items with
        | nil => exact ⟨[], rfl⟩
        | cons item items ih =>
          obtain ⟨⟨s, rfl⟩, later⟩ := List.forall_mem_cons.mp texts
          obtain ⟨l, rfl⟩ := ih later
          exact ⟨s :: l, rfl⟩
      obtain ⟨l, rfl⟩ := read
      exact ⟨l, rfl⟩
    · rintro ⟨l, rfl⟩
      refine ⟨_, rfl, fun item hitem => ?_⟩
      obtain ⟨s, -, rfl⟩ := List.mem_map.mp hitem
      exact ⟨s, rfl⟩
  | count32 =>
    constructor
    · rintro ⟨n, rfl, nonneg, within⟩
      have fits : n.toNat < UInt32.size := by omega
      refine ⟨UInt32.ofNat n.toNat, ?_⟩
      rw [valueOf, UInt32.toNat_ofNat_of_lt' fits, Int.toNat_of_nonneg nonneg]
    · rintro ⟨n, rfl⟩
      exact ⟨_, rfl, Int.natCast_nonneg _, Int.ofNat_lt.mpr n.toNat_lt⟩
  | count64 =>
    constructor
    · rintro ⟨n, rfl, nonneg, within⟩
      have fits : n.toNat < UInt64.size := by omega
      refine ⟨UInt64.ofNat n.toNat, ?_⟩
      rw [valueOf, UInt64.toNat_ofNat_of_lt' fits, Int.toNat_of_nonneg nonneg]
    · rintro ⟨n, rfl⟩
      exact ⟨_, rfl, Int.natCast_nonneg _, Int.ofNat_lt.mpr n.toNat_lt⟩

/-! ### Fields -/

/-- The fields of a `Config`. -/
inductive Field where
  | requestPath
  | applyCommand
  | requestTable
  | stateTable
  | stateDbUrl
  | stateDbIndex
  | configDbUrl
  | expectedSwitchType
  | gracePeriodSecs
  | pollIntervalMillis
  deriving DecidableEq, Repr

namespace Field

/-- The name of a field in a document. -/
def name : Field → String
  | requestPath => "request_path"
  | applyCommand => "apply_command"
  | requestTable => "request_table"
  | stateTable => "state_table"
  | stateDbUrl => "state_db_url"
  | stateDbIndex => "state_db_index"
  | configDbUrl => "config_db_url"
  | expectedSwitchType => "expected_switch_type"
  | gracePeriodSecs => "grace_period_secs"
  | pollIntervalMillis => "poll_interval_ms"

/-- What a field holds: the `Kind` of its content. -/
def kind : Field → Kind
  | requestPath => .text
  | applyCommand => .texts
  | requestTable => .text
  | stateTable => .text
  | stateDbUrl => .text
  | stateDbIndex => .count32
  | configDbUrl => .text
  | expectedSwitchType => .text
  | gracePeriodSecs => .count64
  | pollIntervalMillis => .count64

/-- The content of a field. -/
def read : (f : Field) → Config → f.kind.Content
  | requestPath, c => c.requestPath
  | applyCommand, c => c.applyCommand
  | requestTable, c => c.requestTable
  | stateTable, c => c.stateTable
  | stateDbUrl, c => c.stateDbUrl
  | stateDbIndex, c => c.stateDbIndex
  | configDbUrl, c => c.configDbUrl
  | expectedSwitchType, c => c.expectedSwitchType
  | gracePeriodSecs, c => c.gracePeriodSecs
  | pollIntervalMillis, c => c.pollIntervalMillis

/-- Replace the content of a field. -/
def put : (f : Field) → f.kind.Content → Config → Config
  | requestPath, x, c => { c with requestPath := x }
  | applyCommand, x, c => { c with applyCommand := x }
  | requestTable, x, c => { c with requestTable := x }
  | stateTable, x, c => { c with stateTable := x }
  | stateDbUrl, x, c => { c with stateDbUrl := x }
  | stateDbIndex, x, c => { c with stateDbIndex := x }
  | configDbUrl, x, c => { c with configDbUrl := x }
  | expectedSwitchType, x, c => { c with expectedSwitchType := x }
  | gracePeriodSecs, x, c => { c with gracePeriodSecs := x }
  | pollIntervalMillis, x, c => { c with pollIntervalMillis := x }

/-- No two fields have one name. -/
theorem name_inj {f g : Field} (h : f.name = g.name) : f = g := by
  cases f <;> cases g <;> first | rfl | exact absurd h (by decide)

@[simp] theorem read_put (f : Field) (x : f.kind.Content) (c : Config) :
    f.read (f.put x c) = x := by
  cases f <;> rfl

theorem read_put_of_ne {f g : Field} (h : g ≠ f) (x : f.kind.Content) (c : Config) :
    g.read (f.put x c) = g.read c := by
  cases f <;> cases g <;> first | rfl | exact absurd rfl h

end Field

/-- A configuration is known by what `Field.read` gives. -/
theorem eq_of_read {c c' : Config} (h : ∀ f : Field, f.read c = f.read c') : c = c' := by
  cases c
  cases c'
  rw [mk.injEq]
  exact ⟨h .requestPath, h .applyCommand, h .requestTable, h .stateTable, h .stateDbUrl,
    h .stateDbIndex, h .configDbUrl, h .expectedSwitchType, h .gracePeriodSecs,
    h .pollIntervalMillis⟩

/-- `Config.set?` with the name of a field puts what the value stands for into it. -/
theorem set?_name (f : Field) (c : Config) (v : Toml.Value) :
    c.set? f.name v = (f.kind.read? v).map fun x => f.put x c := by
  cases f <;> rfl

/-- `Config.set?` takes the names of fields only. -/
theorem exists_name_of_set? {c c' : Config} {name : String} {v : Toml.Value}
    (h : c.set? name v = some c') : ∃ f : Field, f.name = name := by
  unfold set? at h
  split at h
  · exact ⟨.requestPath, rfl⟩
  · exact ⟨.applyCommand, rfl⟩
  · exact ⟨.requestTable, rfl⟩
  · exact ⟨.stateTable, rfl⟩
  · exact ⟨.stateDbUrl, rfl⟩
  · exact ⟨.stateDbIndex, rfl⟩
  · exact ⟨.configDbUrl, rfl⟩
  · exact ⟨.expectedSwitchType, rfl⟩
  · exact ⟨.gracePeriodSecs, rfl⟩
  · exact ⟨.pollIntervalMillis, rfl⟩
  · cases h

/-- `Config.set?` puts what the value stands for into the field of that name, and does nothing else.
    -/
theorem set?_eq_some_iff {c c' : Config} {name : String} {v : Toml.Value} :
    c.set? name v = some c' ↔
      ∃ (f : Field) (x : f.kind.Content),
        f.name = name ∧ v = f.kind.valueOf x ∧ c' = f.put x c := by
  constructor
  · intro h
    obtain ⟨f, rfl⟩ := exists_name_of_set? h
    rw [set?_name, Option.map_eq_some_iff] at h
    obtain ⟨x, read, rfl⟩ := h
    exact ⟨f, x, rfl, Kind.read?_eq_some_iff.mp read, rfl⟩
  · rintro ⟨f, x, rfl, rfl, rfl⟩
    rw [set?_name, Kind.read?_eq_some_iff.mpr rfl, Option.map_some]

/-! ### The fields of a table in place -/

/-- Every entry of a table has the name of a `Field` and a value of its `Kind`. -/
def Admitted (table : Toml.Table) : Prop :=
  ∀ entry ∈ table, ∃ f : Field, f.name = entry.1 ∧ f.kind.Admits entry.2

/-- A configuration is another one with the fields of a table in place. -/
structure Overrides (base : Config) (table : Toml.Table) (c : Config) : Prop where
  /-- A field that the table names has the content that its value stands for. -/
  named : ∀ (f : Field) (v : Toml.Value), Members.get? table f.name = some v →
    v = f.kind.valueOf (f.read c)
  /-- Every other one is as it was. -/
  others : ∀ f : Field, Members.get? table f.name = none → f.read c = f.read base

/-- `Kind.valueOf` takes the contents of a kind apart. -/
theorem Kind.valueOf_inj {k : Kind} {x y : k.Content} (h : k.valueOf x = k.valueOf y) : x = y := by
  have read_x : k.read? (k.valueOf x) = some x := Kind.read?_eq_some_iff.mpr rfl
  rw [Kind.read?_eq_some_iff.mpr h] at read_x
  exact (Option.some.inj read_x).symm

theorem get?_cons_name (f g : Field) (v : Toml.Value) (rest : Toml.Table) :
    Members.get? ((f.name, v) :: rest) g.name =
      if g = f then some v else Members.get? rest g.name := by
  rw [Members.get?_cons]
  by_cases h : g = f
  · rw [if_pos h, if_pos (h ▸ rfl)]
  · rw [if_neg h, if_neg fun same => h (Field.name_inj same).symm]

theorem overrides_nil_iff {base c : Config} : Overrides base [] c ↔ base = c := by
  constructor
  · intro h
    exact eq_of_read fun f => (h.others f (Members.get?_nil _)).symm
  · rintro rfl
    exact ⟨nofun, fun _ _ => rfl⟩

/-- Where a table does not name a field again, its first entry may be put in place first. -/
theorem overrides_cons_iff {base c : Config} {f : Field} {x : f.kind.Content} {rest : Toml.Table}
    (new : f.name ∉ Members.keys rest) :
    Overrides base ((f.name, f.kind.valueOf x) :: rest) c ↔ Overrides (f.put x base) rest c := by
  have absent : Members.get? rest f.name = none := Members.get?_eq_none_iff.mpr new
  constructor
  · intro h
    refine ⟨fun g v found => ?_, fun g missing => ?_⟩
    · refine h.named g v ?_
      rw [get?_cons_name, if_neg ?_, found]
      rintro rfl
      rw [absent] at found
      cases found
    · by_cases same : g = f
      · -- the rest does not name the first field, which therefore has the value of the first entry
        subst same
        have first := h.named g (g.kind.valueOf x) (by rw [get?_cons_name, if_pos rfl])
        rw [Field.read_put, Kind.valueOf_inj first]
      · rw [Field.read_put_of_ne same]
        exact h.others g (by rw [get?_cons_name, if_neg same, missing])
  · intro h
    refine ⟨fun g v found => ?_, fun g missing => ?_⟩
    -- the field of the first entry is not named again, so its value stays in place
    · rw [get?_cons_name] at found
      split at found
      · rename_i same
        subst same
        cases found
        rw [h.others g absent, Field.read_put]
      · exact h.named g v found
    · rw [get?_cons_name] at missing
      split at missing
      · cases missing
      · rename_i other
        rw [h.others g missing, Field.read_put_of_ne other]

/-- Entries that `Config.set?` sets one after the other are in place at the end, if no name stands
    twice. -/
theorem foldlM_set?_eq_some_iff {table : Toml.Table} (nodup : (Members.keys table).Nodup)
    {base c : Config} :
    table.foldlM (fun c entry => c.set? entry.1 entry.2) base = some c ↔
      Admitted table ∧ Overrides base table c := by
  induction table generalizing base with
  | nil =>
    rw [overrides_nil_iff]
    simp [Admitted]
  | cons entry rest ih =>
    obtain ⟨name, v⟩ := entry
    rw [Members.keys_cons, List.nodup_cons] at nodup
    obtain ⟨new, distinct⟩ := nodup
    rw [List.foldlM_cons, Option.bind_eq_bind, Option.bind_eq_some_iff, Admitted,
      List.forall_mem_cons]
    constructor
    -- what was set has the name of a field and a value of its kind, and the rest goes on from there
    · rintro ⟨next, set_first, set_rest⟩
      obtain ⟨f, x, rfl, rfl, rfl⟩ := set?_eq_some_iff.mp set_first
      obtain ⟨admitted, overrides⟩ := (ih distinct).mp set_rest
      exact ⟨⟨⟨f, rfl, Kind.admits_iff.mpr ⟨x, rfl⟩⟩, admitted⟩,
        (overrides_cons_iff new).mpr overrides⟩
    · rintro ⟨⟨⟨f, rfl, admits⟩, admitted⟩, overrides⟩
      obtain ⟨x, rfl⟩ := Kind.admits_iff.mp admits
      exact ⟨f.put x base, set?_eq_some_iff.mpr ⟨f, x, rfl, rfl, rfl⟩,
        (ih distinct).mpr ⟨admitted, (overrides_cons_iff new).mp overrides⟩⟩

/-- `Config.ofTable?` gives the defaults with the fields of the table in place. -/
theorem ofTable?_eq_some_iff {table : Toml.Table} (nodup : (Members.keys table).Nodup)
    {c : Config} : ofTable? table = some c ↔ Admitted table ∧ Overrides {} table c :=
  foldlM_set?_eq_some_iff nodup

/-- The fields of a table that is `Admitted` can be put in place, in one way only. -/
theorem existsUnique_overrides {table : Toml.Table} (nodup : (Members.keys table).Nodup)
    (admitted : Admitted table) (base : Config) : ∃! c, Overrides base table c := by
  have exists_one : ∃ c, Overrides base table c := by
    induction table generalizing base with
    | nil => exact ⟨base, overrides_nil_iff.mpr rfl⟩
    | cons entry rest ih =>
      obtain ⟨name, v⟩ := entry
      rw [Members.keys_cons, List.nodup_cons] at nodup
      obtain ⟨⟨f, rfl, admits⟩, later⟩ := List.forall_mem_cons.mp admitted
      obtain ⟨x, rfl⟩ := Kind.admits_iff.mp admits
      obtain ⟨c, overrides⟩ := ih nodup.2 later (f.put x base)
      exact ⟨c, (overrides_cons_iff nodup.1).mpr overrides⟩
  obtain ⟨c, overrides⟩ := exists_one
  refine ⟨c, overrides, fun c' overrides' => ?_⟩
  -- both come out of putting the entries in place one after the other
  have same : some c = some c' := by
    rw [← (foldlM_set?_eq_some_iff nodup).mpr ⟨admitted, overrides⟩,
      (foldlM_set?_eq_some_iff nodup).mpr ⟨admitted, overrides'⟩]
  exact (Option.some.inj same).symm

/-- The order of the entries does not decide what `Config.ofTable?` gives. -/
theorem ofTable?_perm {table table' : Toml.Table} (nodup : (Members.keys table).Nodup)
    (perm : table.Perm table') : ofTable? table' = ofTable? table := by
  have nodup' : (Members.keys table').Nodup := (perm.map _).nodup_iff.mp nodup
  have same_admitted : Admitted table' ↔ Admitted table := by
    simp only [Admitted, perm.mem_iff]
  have same_overrides : ∀ c, Overrides {} table' c ↔ Overrides {} table c := by
    intro c
    have lookup := Members.get?_perm nodup perm
    constructor
    · intro h
      exact ⟨fun f v found => h.named f v (by rw [lookup, found]),
        fun f missing => h.others f (by rw [lookup, missing])⟩
    · intro h
      exact ⟨fun f v found => h.named f v (by rw [← lookup, found]),
        fun f missing => h.others f (by rw [← lookup, missing])⟩
  refine Option.ext fun c => ?_
  rw [ofTable?_eq_some_iff nodup', ofTable?_eq_some_iff nodup, same_admitted, same_overrides]

/-- `Config.ofTable?` gives nothing for a table that is not `Admitted`, and something for every
    other one. -/
theorem ofTable?_eq_none_iff {table : Toml.Table} (nodup : (Members.keys table).Nodup) :
    ofTable? table = none ↔ ¬ Admitted table := by
  rw [Option.eq_none_iff_forall_ne_some]
  constructor
  · intro h admitted
    obtain ⟨c, overrides, -⟩ := existsUnique_overrides nodup admitted {}
    exact h c ((ofTable?_eq_some_iff nodup).mpr ⟨admitted, overrides⟩)
  · intro h c hc
    exact h ((ofTable?_eq_some_iff nodup).mp hc).1

/-! ### Documents -/

/-- `Config.parse` gives the configuration of the table of a document, if it passes `Config.check`.
    -/
theorem parse_eq_ok_iff {text : String} {c : Config} :
    parse text = .ok c ↔
      ∃ table, Toml.parse text = some table ∧ ofTable? table = some c ∧ c.check = .ok () := by
  unfold parse
  cases read : Toml.parse text with
  | none => simp
  | some table =>
    rw [Option.bind_some]
    -- without a table there is nothing to read; without a configuration there is nothing to check
    cases set : ofTable? table with
    | none => simp [set]
    | some c' =>
      simp only [Option.some.injEq, exists_eq_left', set]
      constructor
      · intro h
        cases checked : c'.check with
        | error fault =>
          rw [checked] at h
          cases h
        | ok =>
          rw [checked] at h
          cases h
          exact ⟨rfl, checked⟩
      · rintro ⟨rfl, checked⟩
        rw [checked]
        rfl

/-- `Config.parse` refuses a document for its text, if there is no configuration of it, or for a
    fault of the configuration. -/
theorem parse_eq_error_iff {text : String} {fault : Fault} :
    parse text = .error fault ↔
      (fault = .document ∧ ∀ table, Toml.parse text = some table → ofTable? table = none) ∨
      ∃ table c, Toml.parse text = some table ∧ ofTable? table = some c ∧
        c.check = .error fault := by
  unfold parse
  cases read : Toml.parse text with
  | none => simp [eq_comm]
  | some table =>
    rw [Option.bind_some]
    cases set : ofTable? table with
    | none => simp [set, eq_comm]
    | some c => cases checked : c.check <;> simp [set, checked, Except.map]

/-- What `Config.load` gives has passed `Config.check`, and so have the defaults. -/
theorem check_of_load {files : Filesystem} {path : String} {required : Bool} {c : Config}
    (h : load files path required = .ok c) : c.check = .ok () := by
  unfold load at h
  split at h
  · obtain ⟨table, -, -, checked⟩ := parse_eq_ok_iff.mp h
    exact checked
  · split at h
    · -- a missing file leaves the defaults
      cases h
      rfl
    · cases h

/-- **A document replaces the fields that it names.**  `Config.parse` accepts it if it has a table,
    every entry of the table has the name of a field and a value of its kind, and the defaults with
    exactly these fields in place pass the check; they are then its configuration, and there is only
    one such.  Every other document is refused with a fault of the configuration: for its text or
    its table, or for what the check finds.  The order of the entries decides nothing. -/
theorem parse_overrides (text : String) :
    (∀ c, parse text = .ok c ↔
      ∃ table, Toml.parse text = some table ∧ Admitted table ∧ Overrides {} table c ∧
        c.check = .ok ()) ∧
    (∀ table, Toml.parse text = some table → Admitted table → ∃! c, Overrides {} table c) ∧
    (∀ fault, parse text = .error fault ↔
      (fault = .document ∧ ∀ table, Toml.parse text = some table → ¬ Admitted table) ∨
      ∃ table c, Toml.parse text = some table ∧ Admitted table ∧ Overrides {} table c ∧
        c.check = .error fault) ∧
    ((∀ c, parse text ≠ .ok c) →
      ∃ message, (parse text).mapError Fault.failure = .error (.config message)) ∧
    ∀ text' table table', Toml.parse text = some table → Toml.parse text' = some table' →
      table.Perm table' → parse text' = parse text := by
  refine ⟨fun c => ?accepted, fun table read admitted => ?unique, fun fault => ?refused,
    fun other => ?failure, fun text' table table' read read' perm => ?order⟩
  case accepted =>
    rw [parse_eq_ok_iff]
    refine exists_congr fun table => and_congr_right fun read => ?_
    rw [ofTable?_eq_some_iff (Toml.nodup_keys_parse read), and_assoc]
  case unique => exact existsUnique_overrides (Toml.nodup_keys_parse read) admitted {}
  -- refused for its text or its table, or for what the check finds of the one configuration
  case refused =>
    rw [parse_eq_error_iff]
    refine or_congr (and_congr_right fun _ => ?_) ?_
    · exact forall₂_congr fun table read => ofTable?_eq_none_iff (Toml.nodup_keys_parse read)
    · refine exists₂_congr fun table c => and_congr_right fun read => ?_
      rw [ofTable?_eq_some_iff (Toml.nodup_keys_parse read), and_assoc]
  case failure =>
    cases parsed : parse text with
    | ok c => exact absurd parsed (other c)
    | error fault => exact ⟨fault.message, rfl⟩
  case order =>
    rw [parse, parse, read, read', Option.bind_some, Option.bind_some,
      ofTable?_perm (Toml.nodup_keys_parse read) perm]

/-- A document with three fields. -/
def threeFields : String :=
  "poll_interval_ms = 250\napply_command = [\"sudo\", \"swssconfig\"]\nstate_db_index = 0x10\n"

/-- The fields of `threeFields` from the last to the first. -/
def threeFieldsTurned : String :=
  "state_db_index = 0x10\napply_command = [\"sudo\", \"swssconfig\"]\npoll_interval_ms = 250\n"

/-- `threeFields` and `threeFieldsTurned` have the same configuration, which has all other fields
    from the defaults. -/
theorem parse_overrides_threeFields :
    ∃ c, parse threeFields = .ok c ∧ parse threeFieldsTurned = .ok c ∧
      c.pollIntervalMillis = 250 ∧ c.applyCommand = ["sudo", "swssconfig"] ∧
      c.stateDbIndex = 16 ∧ c.gracePeriodSecs = ({} : Config).gracePeriodSecs := by
  obtain ⟨-, -, -, -, order⟩ := parse_overrides threeFields
  have read : Toml.statements 85 threeFields.toList =
      some [.pair ["poll_interval_ms"] (.integer 250),
        .pair ["apply_command"] (.array [.string "sudo", .string "swssconfig"]),
        .pair ["state_db_index"] (.integer 16)] := by with_unfolding_all rfl
  have read_turned : Toml.statements 85 threeFieldsTurned.toList =
      some [.pair ["state_db_index"] (.integer 16),
        .pair ["apply_command"] (.array [.string "sudo", .string "swssconfig"]),
        .pair ["poll_interval_ms"] (.integer 250)] := by with_unfolding_all rfl
  have table : Toml.parse threeFields =
      some [("poll_interval_ms", .integer 250),
        ("apply_command", .array [.string "sudo", .string "swssconfig"]),
        ("state_db_index", .integer 16)] :=
    Toml.parse_of_statements (by decide +kernel) (by decide +kernel) read
  have table_turned : Toml.parse threeFieldsTurned =
      some [("state_db_index", .integer 16),
        ("apply_command", .array [.string "sudo", .string "swssconfig"]),
        ("poll_interval_ms", .integer 250)] :=
    Toml.parse_of_statements (by decide +kernel) (by decide +kernel) read_turned
  have perm := List.reverse_perm [("state_db_index", Toml.Value.integer 16),
    ("apply_command", .array [.string "sudo", .string "swssconfig"]),
    ("poll_interval_ms", .integer 250)]
  have parsed : parse threeFields = .ok { ({} : Config) with
      pollIntervalMillis := 250, applyCommand := ["sudo", "swssconfig"], stateDbIndex := 16 } := by
    rw [parse, table]
    rfl
  exact ⟨_, parsed, (order _ _ _ table table_turned perm).trans parsed, rfl, rfl, rfl, rfl⟩

end FlowDump.Config
