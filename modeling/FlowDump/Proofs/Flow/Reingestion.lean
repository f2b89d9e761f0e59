import FlowDump.Proofs.Flow.Fields
import FlowDump.Proofs.Flow.Lines
import FlowDump.Proofs.Json.RoundTrip

/-!
# Decoded records can be decoded again

Records may be written back as lines and read once more.  Nothing changes: their names are long
already, their values are read as they are written, and no line falls apart.

* `Record.line` — a record on one line.
* `Record.ofLine?_line` — a decoded record is decoded again from its line.
* `decode_written` — a stream of decoded records gives these records.
-/

namespace FlowDump.Flow

namespace Record

/-! ### One record -/

/-- A record on one line by `Json.compact`, without a line feed. -/
def line (r : Record) : List UInt8 :=
  Utf8.encode (String.ofList r.toJson.compact)

/-- What `Record.ofLine?` gives: values that a document can hold, under long names. -/
theorem of_ofLine? {bytes : List UInt8} {r : Record} (h : ofLine? bytes = some r) :
    Json.Admitted Json.nestingLimit r.toJson ∧ ∀ p ∈ r.fields, relabel p.1 = p.1 := by
  simp only [ofLine?, bind, Option.bind_eq_some_iff, pure] at h
  obtain ⟨text, -, value, hvalue, raw, hraw, he⟩ := h
  cases he
  have admitted := Json.admitted_of_parse hvalue
  cases value <;> cases hraw
  cases admitted with
  | object nodup inner =>
    constructor
    · refine .object (Members.nodup_keys_ofList _) fun p hp => ?_
      obtain ⟨q, hq, rfl⟩ := List.mem_map.mp (Members.mem_ofList hp)
      exact inner q hq
    · exact fun p hp => relabel_of_mem_ofMembers hp

/-- A decoded record is decoded again from its `line`. -/
theorem ofLine?_line {bytes : List UInt8} {r : Record} (h : ofLine? bytes = some r)
    (he : Json.exact r.toJson = true) : ofLine? r.line = some r := by
  obtain ⟨admitted, names⟩ := of_ofLine? h
  have nodup : r.keys.Nodup := by
    cases admitted with
    | object nodup inner => exact nodup
  have parsed := Json.parse_compact admitted he
  simp only [ofLine?, line, Utf8.decode?_encode, bind, Option.bind_some, String.toList_ofList,
    parsed]
  simp only [toJson, Json.members?, Option.bind_some, pure, ofMembers_fields nodup names]

/-- The `line` of a decoded record has no line feed inside. -/
theorem lineFeed_notMem_line {bytes : List UInt8} {r : Record} (h : ofLine? bytes = some r)
    (he : Json.exact r.toJson = true) : Stream.lineFeed ∉ r.line := by
  intro hmem
  exact Json.lineFeed_notMem_compact (of_ofLine? h).1 he
    ((Utf8.lineFeed_mem_encode_iff _).mp hmem)

/-- The `line` of a record is not blank: it starts with a brace. -/
theorem counts_line (r : Record) : Stream.counts r.line = true := by
  have brace : String.utf8EncodeChar '{' = [0x7B] := by rfl
  rw [line, toJson, Json.compact, Utf8.encode_ofList, List.cons_append, List.flatMap_cons, brace]
  rfl

end Record

namespace Stream

/-! ### Whole streams -/

/-- Some records as lines, each ended by a line feed. -/
def written (rs : List Record) : List UInt8 :=
  rs.flatMap fun record => record.line ++ [lineFeed]

/-- The lines of what was `written` are those of the records. -/
theorem lines_written {rs : List Record} (h : ∀ record ∈ rs, lineFeed ∉ record.line) :
    lines (written rs) = rs.map Record.line := by
  induction rs with
  | nil => exact lines_nil
  | cons record rs ih =>
    obtain ⟨first, rest⟩ := List.forall_mem_cons.mp h
    rw [written, List.flatMap_cons, List.append_assoc, List.singleton_append, lines_append,
      lines_of_notMem first, List.map_cons, ← ih rest]
    simp [Record.counts_line, written]

/-- Where each record is found in its `line`, all of them are found in what was `written`. -/
theorem records_written {rs : List Record} (unbroken : ∀ record ∈ rs, lineFeed ∉ record.line)
    (again : ∀ record ∈ rs, Record.ofLine? record.line = some record) :
    records (written rs) = rs := by
  rw [records, lines_written unbroken]
  clear unbroken
  induction rs with
  | nil => rfl
  | cons record rs ih =>
    obtain ⟨first, rest⟩ := List.forall_mem_cons.mp again
    rw [List.map_cons, List.filterMap_cons_some first, ih rest]

/-- Where each record is found in its `line`, no line of what was `written` is skipped. -/
theorem skipped_written {rs : List Record} (unbroken : ∀ record ∈ rs, lineFeed ∉ record.line)
    (again : ∀ record ∈ rs, Record.ofLine? record.line = some record) :
    skipped (written rs) = 0 := by
  rw [skipped, lines_written unbroken, List.countP_map, List.countP_eq_zero]
  intro record hrecord
  simp [again record hrecord]

/-- **Decoded records are decoded again as they are.**  Written as lines by `written`, records
    without doubles give a stream of these records and no remark, however it is delivered.  None of
    the lines has a line feed inside, and a name that was made long stays as it is. -/
theorem decode_written :
    (∀ (rs : List Record) (r : Reader),
      (∀ record ∈ rs, (∃ bytes, Record.ofLine? bytes = some record) ∧
        Json.exact record.toJson = true) →
      r.failure? = none → r.ahead = written rs →
      decode r = { records := rs, notes := [] } ∧ ∀ record ∈ rs, lineFeed ∉ record.line) ∧
    ∀ key : String, relabel (relabel key) = relabel key := by
  refine ⟨?_, relabel_relabel⟩
  intro rs r decoded hr hahead
  have unbroken : ∀ record ∈ rs, lineFeed ∉ record.line := by
    intro record hrecord
    obtain ⟨⟨bytes, hbytes⟩, he⟩ := decoded record hrecord
    exact Record.lineFeed_notMem_line hbytes he
  -- a record that was decoded has long names, each once, so its line gives it back
  have again : ∀ record ∈ rs, Record.ofLine? record.line = some record := by
    intro record hrecord
    obtain ⟨⟨bytes, hbytes⟩, he⟩ := decoded record hrecord
    exact Record.ofLine?_line hbytes he
  refine ⟨?_, unbroken⟩
  rw [decode_ahead hr, hahead, records_written unbroken again, skipped_written unbroken again]
  rfl

/-- A number, an abbreviation, the same number in another spelling, and an inner name. -/
def respelledLine : List UInt8 :=
  Utf8.encode "\x7b\"07\":1,\"si\":\x7b\"si\":\"\\u00e9\\n\"\x7d,\"7\":[-9223372036854775808]\x7d"

/-- The record of `respelledLine` under long names. -/
def longNamesLine : List UInt8 :=
  Utf8.encode ("\x7b\"REVERSE_FLOW_ENI_MAC\":[-9223372036854775808]," ++
    "\"SRC_IP\":\x7b\"si\":\"é\\n\"\x7d\x7d")

/-- The record of `respelledLine` has `longNamesLine` as its `line`, and comes back from a buffer of
    five bytes twice over. -/
theorem decode_written_respelledLine :
    ∃ record : Record,
      Record.ofLine? respelledLine = some record ∧ record.line = longNamesLine ∧
      decode { capacity := 5, source := [.bytes (written [record, record]), .interrupted] }
        = { records := [record, record], notes := [] } := by
  have some_record : (Record.ofLine? respelledLine).isSome = true := by decide +kernel
  have shape : (Record.ofLine? respelledLine).map (fun r => (Json.exact r.toJson, r.line))
      = some (true, longNamesLine) := by decide +kernel
  obtain ⟨record, hrecord⟩ := Option.isSome_iff_exists.mp some_record
  simp only [hrecord, Option.map_some, Option.some.injEq, Prod.mk.injEq] at shape
  obtain ⟨integers, long⟩ := shape
  refine ⟨record, hrecord, long, (decode_written.1 [record, record] _ ?_ rfl ?_).1⟩
  · intro r hr
    have : r = record := by simpa using hr
    exact this ▸ ⟨⟨respelledLine, hrecord⟩, integers⟩
  · simp [Reader.ahead, delivered]

end Stream

end FlowDump.Flow
