import FlowDump.Proofs.Config
import FlowDump.Store.Keys
import FlowDump.Text.Split
import Mathlib.Data.List.Infix

/-!
# The key behind a channel is the key that is read

A wake-up comes on the channel of a key, and what is then read is the record under a key.  The two
are put together in different places, but a channel gives a session only if it is the channel of
that session's key, and it tells the database, the table and the session.

* `channel` — the channel on which a database tells of the changes of a key.
* `keyOfChannel?_eq_some_iff` — a channel gives what stands behind its stem, if anything does.
* `cut?_stateKey` — a key is cut into its table and its session.
* `channel_inj`, `stateKey_inj` — channels and keys are put together in one way only.
* `keyOfChannel?_agrees` — channels and keys agree.
-/

namespace FlowDump.Store

/-- The channel on which a database tells of the changes of a key: its `databaseStem` and the key.
    -/
def channel (index : UInt32) (key : String) : String :=
  "__keyspace@" ++ String.ofList (Nat.toDigits 10 index.toNat) ++ "__:" ++ key

/-- `keyOfChannel?` gives what stands behind the stem of a channel, if anything does. -/
theorem keyOfChannel?_eq_some_iff {stem c key : String} :
    keyOfChannel? stem c = some key ↔ key ≠ "" ∧ c = stem ++ key := by
  have text : ∀ rest, String.ofList rest = key ↔ rest = key.toList := by
    intro rest
    rw [← String.toList_inj, String.toList_ofList]
  have layout : c = stem ++ key ↔ stem.toList ++ key.toList = c.toList := by
    rw [← String.toList_inj, String.toList_append, eq_comm]
  unfold keyOfChannel?
  simp only [Option.map_eq_some_iff, Option.filter_eq_some_iff,
    List.isPrefixOf?_eq_some_iff_append_eq, text, exists_eq_right, decide_eq_true_eq]
  rw [layout, and_comm, ne_eq, String.toList_eq_nil_iff]

/-- The `channelStem` of a table and a session are the `channel` of the session's `stateKey`. -/
theorem channelStem_append (index : UInt32) (table : String) (session : SessionName) :
    channelStem index table ++ session.text = channel index (stateKey table session) := by
  simp only [channelStem, databaseStem, channel, stateKey, String.append_assoc]

/-- A `channel` tells the database and the key. -/
theorem channel_inj {index index' : UInt32} {key key' : String} :
    channel index key = channel index' key' ↔ index = index' ∧ key = key' := by
  constructor
  · intro h
    -- the number ends where the first mark behind it stands
    have no_mark (n : Nat) : '_' ∉ Nat.toDigits 10 n := Nat.underscore_not_in_toDigits
    have texts := congrArg String.toList h
    simp only [channel, String.toList_append, String.toList_ofList, List.append_assoc,
      List.append_cancel_left_eq] at texts
    obtain ⟨numbers, rest⟩ := (Text.append_mark_inj (no_mark _) (no_mark _)).mp texts
    have same : index.toNat = index'.toNat := by
      rw [← Nat.ofDigitChars_ten_toDigits (n := index.toNat), numbers,
        Nat.ofDigitChars_ten_toDigits]
    exact ⟨UInt32.toNat_inj.mp same, String.toList_inj.mp (by simpa using rest)⟩
  · rintro ⟨rfl, rfl⟩
    rfl

/-- A `stateKey` is cut into its table and its session, where the table has no separator in its
    name. -/
theorem cut?_stateKey {table : String} (h : '|' ∉ table.toList) (session : SessionName) :
    Text.cut? '|' (stateKey table session).toList =
      some (table.toList, session.text.toList) := by
  simp only [stateKey, separator, String.toList_append, List.append_assoc]
  exact Text.cut?_append h _

/-- A `stateKey` tells the table and the session, where no table has the separator in its name. -/
theorem stateKey_inj {table table' : String} {session session' : SessionName}
    (h : '|' ∉ table.toList) (h' : '|' ∉ table'.toList) :
    stateKey table session = stateKey table' session' ↔ table = table' ∧ session = session' := by
  constructor
  · intro he
    have texts := congrArg String.toList he
    simp only [stateKey, separator, String.toList_append, List.append_assoc] at texts
    obtain ⟨tables, sessions⟩ := (Text.append_mark_inj h h').mp texts
    cases session
    cases session'
    exact ⟨String.toList_inj.mp tables, congrArg _ (String.toList_inj.mp (by simpa using sessions))⟩
  · rintro ⟨rfl, rfl⟩
    rfl

/-- **The key behind a channel is the key that is read.**  `keyOfChannel?` gives a session exactly
    if the session has a name and the channel is that of its `stateKey`.  Where no table has the
    separator in its name, as a configuration that passes its check makes sure, the channel of a key
    gives something for its own database and table only, and then its own session. -/
theorem keyOfChannel?_agrees :
    (∀ (index : UInt32) (table : String) (session : SessionName) (c : String),
      keyOfChannel? (channelStem index table) c = some session.text ↔
        session.text ≠ "" ∧ c = channel index (stateKey table session)) ∧
    (∀ (index index' : UInt32) (table table' : String) (session' : SessionName) (k : String),
      '|' ∉ table.toList → '|' ∉ table'.toList →
      (keyOfChannel? (channelStem index table) (channel index' (stateKey table' session')) = some k
        ↔ index = index' ∧ table = table' ∧ k = session'.text ∧ k ≠ "")) ∧
    ∀ c : Config, c.check = .ok () → '|' ∉ c.stateTable.toList := by
  have own : ∀ (index : UInt32) (table : String) (session : SessionName) (c : String),
      keyOfChannel? (channelStem index table) c = some session.text ↔
        session.text ≠ "" ∧ c = channel index (stateKey table session) := by
    intro index table session c
    rw [keyOfChannel?_eq_some_iff, channelStem_append]
  refine ⟨own, fun index index' table table' session' k h h' => ?_, fun c hc =>
    (Config.check_eq_ok_iff.mp hc).stateTable.unreserved '|' (by decide)⟩
  -- a key that is found is the name of a session, to which the first part applies
  have session_eq : session' = ⟨k⟩ ↔ k = session'.text := by
    cases session'
    simp [eq_comm]
  rw [own index table ⟨k⟩, channel_inj, stateKey_inj h' h, session_eq]
  constructor
  · rintro ⟨named, rfl, rfl, rfl⟩
    exact ⟨rfl, rfl, rfl, named⟩
  · rintro ⟨rfl, rfl, rfl, named⟩
    exact ⟨named, rfl, rfl, rfl⟩

/-- A session with separators in its name, in a table whose name another one goes on from. -/
theorem keyOfChannel?_agrees_longerTable :
    '|' ∉ "STATE".toList ∧ '|' ∉ "STATE_2".toList ∧
    keyOfChannel? (channelStem 6 "STATE_2") (channel 6 (stateKey "STATE_2" ⟨"a|__:b"⟩))
      = some "a|__:b" ∧
    (∀ k, keyOfChannel? (channelStem 6 "STATE") (channel 6 (stateKey "STATE_2" ⟨"a|__:b"⟩))
      ≠ some k) ∧
    (∀ k, keyOfChannel? (channelStem 6 "STATE") (channel 61 (stateKey "STATE" ⟨"a|__:b"⟩))
      ≠ some k) ∧
    ({ stateTable := "STATE" } : Config).check = .ok () := by
  have short : '|' ∉ "STATE".toList := by decide
  have long : '|' ∉ "STATE_2".toList := by decide
  have agrees := keyOfChannel?_agrees.2.1
  refine ⟨short, long, (agrees 6 6 _ _ _ _ long long).mpr ⟨rfl, rfl, rfl, by decide⟩,
    fun k h => ?_, fun k h => ?_, rfl⟩
  · exact absurd ((agrees 6 6 _ _ _ _ short long).mp h).2.1 (by decide)
  · exact absurd ((agrees 6 61 _ _ _ _ short short).mp h).1 (by decide)

end FlowDump.Store
