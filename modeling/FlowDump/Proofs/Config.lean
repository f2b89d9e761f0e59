import FlowDump.Config.Basic

/-!
# Configurations that pass the check

* `Config.Sound` — all that the check asks for, and `check_eq_ok_iff` says that it is.
* `Sound.exists_program`, `Sound.pollInterval_pos` — what follows for the program that is run and
  for the longest single wait.
-/

namespace FlowDump.Config

/-- A table that may be named in a configuration. -/
structure SoundTable (table : String) : Prop where
  ne_empty : table ≠ ""
  unreserved : ∀ c ∈ reserved, c ∉ table.toList

/-- A configuration that names a program, waits for some time in each turn, and has two tables of
    `SoundTable`. -/
structure Sound (c : Config) : Prop where
  program : c.applyCommand.head?.getD "" ≠ ""
  pollInterval : c.pollIntervalMillis ≠ 0
  requestTable : SoundTable c.requestTable
  stateTable : SoundTable c.stateTable

/-- `checkTable` lets the name of a table pass if it has none of the `reserved` characters. -/
theorem checkTable_eq_ok_iff {table : String} :
    checkTable table = .ok () ↔ ∀ c ∈ reserved, c ∉ table.toList := by
  unfold checkTable
  split
  · rename_i c found
    have reserved_c := List.find?_some found
    have mem := List.mem_of_find?_eq_some found
    simpa using ⟨c, by simpa using reserved_c, mem⟩
  · rename_i none_found
    rw [List.find?_eq_none] at none_found
    simp only [true_iff]
    exact fun c hc hm => none_found c hm (by simpa using hc)

/-- **`Config.check` lets a configuration pass if it is `Sound`**, and only then. -/
theorem check_eq_ok_iff {c : Config} : c.check = .ok () ↔ Sound c := by
  have tables : (do checkTable c.requestTable; checkTable c.stateTable : Except Fault Unit) = .ok ()
      ↔ checkTable c.requestTable = .ok () ∧ checkTable c.stateTable = .ok () := by
    cases checkTable c.requestTable <;> simp [bind, Except.bind]
  unfold check
  constructor
  · intro h
    split at h
    · cases h
    split at h
    · cases h
    split at h
    · cases h
    rename_i program pollInterval named
    obtain ⟨request, state⟩ := tables.mp h
    rw [not_or] at named
    exact ⟨program, pollInterval, ⟨named.1, checkTable_eq_ok_iff.mp request⟩,
      ⟨named.2, checkTable_eq_ok_iff.mp state⟩⟩
  · rintro ⟨program, pollInterval, request, state⟩
    rw [if_neg program, if_neg pollInterval,
      if_neg (not_or.mpr ⟨request.ne_empty, state.ne_empty⟩), tables]
    exact ⟨checkTable_eq_ok_iff.mpr request.unreserved, checkTable_eq_ok_iff.mpr state.unreserved⟩

/-- A `Sound` configuration names a program, and not by an empty name. -/
theorem Sound.exists_program {c : Config} (sound : Sound c) :
    ∃ program leading, c.applyCommand = program :: leading ∧ program ≠ "" := by
  have head_ne := sound.program
  cases command_eq : c.applyCommand with
  | nil =>
    rw [command_eq] at head_ne
    exact absurd rfl head_ne
  | cons program leading =>
    rw [command_eq] at head_ne
    exact ⟨program, leading, rfl, head_ne⟩

/-- The longest single wait of a `Sound` configuration takes some time. -/
theorem Sound.pollInterval_pos {c : Config} (sound : Sound c) : 0 < c.pollInterval.toNanos := by
  have millis_ne : c.pollIntervalMillis.toNat ≠ 0 := fun zero =>
    sound.pollInterval (UInt64.toNat_inj.mp zero)
  rw [Config.pollInterval, Duration.toNanos_ofMillis]
  omega

end FlowDump.Config
