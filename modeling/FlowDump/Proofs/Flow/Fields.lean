import FlowDump.Proofs.Flow.Names
import FlowDump.Proofs.Json.Grammar

/-!
# The fields of a decoded record

A line that holds an object gives a record.  The members of the object are merged twice: first those
of one name, then those that come under one long name.  Each time the first one keeps its place and
the last one its value, which is the value that stands in the text.

* `keys_ofMembers`, `get?_ofMembers` — the fields of the record of some members.
* `ofLine?_eq_some_iff` — the lines that give a record are the texts of objects.
* `ofLine?_fields` — the fields of the record of a line.
* `ofMembers_idempotent` — a record that is decoded again stays as it is.
-/

namespace FlowDump.Flow.Record

open Json.Grammar (Object)

/-- The fields of `Record.ofMembers` stand in the order in which their long names first come. -/
theorem keys_ofMembers (raw : Members String Json) :
    (ofMembers raw).keys = ((Members.keys raw).map relabel).eraseDups := by
  rw [keys, ofMembers, Members.keys_ofList, Members.keys, Members.keys, List.map_map, List.map_map]
  rfl

/-- A field of `Record.ofMembers` has the value of the last member under its long name. -/
theorem get?_ofMembers (raw : Members String Json) (name : String) :
    (ofMembers raw).get? name
      = ((raw.filter fun p => relabel p.1 = name).getLast?).map (·.2) := by
  rw [get?, ofMembers, Members.get?_ofList, List.filter_map, List.getLast?_map, Option.map_map]
  rfl

/-- Every field of `Record.ofMembers` is one of the members under its long name. -/
theorem exists_of_mem_ofMembers {raw : Members String Json} {p : String × Json}
    (h : p ∈ (ofMembers raw).fields) : ∃ q ∈ raw, p = (relabel q.1, q.2) := by
  obtain ⟨q, hq, rfl⟩ := List.mem_map.mp (Members.mem_ofList h)
  exact ⟨q, hq, rfl⟩

/-- The lines in which `Record.ofLine?` finds a record are the texts of objects. -/
theorem ofLine?_eq_some_iff {line : List UInt8} {record : Record} :
    ofLine? line = some record ↔ ∃ text pairs, line = Utf8.encode (String.ofList text) ∧
      Object (Json.nestingLimit - 1) text pairs ∧ record = ofMembers (Members.ofList pairs) := by
  constructor
  · intro h
    simp only [ofLine?, bind, Option.bind_eq_some_iff, pure] at h
    obtain ⟨text, htext, value, hvalue, raw, hraw, he⟩ := h
    cases he
    cases value <;> cases hraw
    obtain ⟨pairs, object, rfl⟩ := Json.Grammar.exists_object hvalue
    refine ⟨text.toList, pairs, ?_, object, rfl⟩
    rw [String.ofList_toList, Utf8.decode?_eq_some_iff.mp htext]
  · rintro ⟨text, pairs, rfl, object, rfl⟩
    have parsed : Json.parse text = some (Json.ofMembers pairs) := object.parse_eq
    simp only [ofLine?, Utf8.decode?_encode, bind, Option.bind_some, String.toList_ofList, parsed]
    rfl

/-- **The fields of the record of a line.**  A line that is the text of an object, its members in
    any number and any spelling, gives a record.  Let the members of one name be merged, by
    `Members.ofList`, to the place of the first and the value of the last.  The names of the record
    are their long names, each once, in the order in which they first come.  A name has the value of
    the last member that comes under it, as it stands in the text, and all other names have none.
    Where no two members come under one name, the record has all of them in their order. -/
theorem ofLine?_fields {text : List Char} {pairs : List (String × Json)}
    (h : Object (Json.nestingLimit - 1) text pairs) :
    let raw : Members String Json := Members.ofList pairs
    (Members.keys raw = (pairs.map (·.1)).eraseDups ∧
      ∀ key, Members.get? raw key = ((pairs.filter fun p => p.1 = key).getLast?).map (·.2)) ∧
    ∃ record : Record, ofLine? (Utf8.encode (String.ofList text)) = some record ∧
      record.keys = ((Members.keys raw).map relabel).eraseDups ∧
      (∀ name, record.get? name
        = ((raw.filter fun p => relabel p.1 = name).getLast?).map (·.2)) ∧
      (∀ p ∈ record.fields, ∃ q ∈ pairs, p = (relabel q.1, q.2)) ∧
      ((∀ key ∈ Members.keys raw, ∀ key' ∈ Members.keys raw,
          relabel key = relabel key' → key = key') →
        record.fields = raw.map fun p => (relabel p.1, p.2)) := by
  refine ⟨⟨Members.keys_ofList pairs, Members.get?_ofList pairs⟩, ofMembers (Members.ofList pairs),
    ofLine?_eq_some_iff.mpr ⟨text, pairs, rfl, h, rfl⟩, keys_ofMembers _, get?_ofMembers _,
    fun p hp => ?_, fun apart => ?_⟩
  · obtain ⟨q, hq, rfl⟩ := exists_of_mem_ofMembers hp
    exact ⟨q, Members.mem_ofList hq, rfl⟩
  · refine fields_ofMembers ?_
    have distinct := (Members.nodup_keys_ofList pairs).map_on apart
    rwa [Members.keys, List.map_map] at distinct

/-- The line `{"7" : 1,"s\u0069":{"si":[ ]},"07":2, "7":3}`: one name under two numbers and one of
    them twice, an escape in a name, blanks, and a short name inside a value. -/
def respelledMembers : List Char :=
  ['{', '"', '7', '"', ' ', ':', ' ', '1', ',',
    '"', 's', '\\', 'u', '0', '0', '6', '9', '"', ':', '{', '"', 's', 'i', '"', ':', '[', ' ', ']',
    '}', ',', '"', '0', '7', '"', ':', '2', ',', ' ', '"', '7', '"', ':', '3', '}', '\n']

/-- The record of `respelledMembers` has one name for the three numbers, and the value of the last
    one. -/
theorem ofLine?_fields_respelledMembers :
    Object (Json.nestingLimit - 1) respelledMembers
      [("7", .number (.integer 1)), ("si", .object [("si", .array [])]),
        ("07", .number (.integer 2)), ("7", .number (.integer 3))] ∧
    ∃ record : Record, ofLine? (Utf8.encode (String.ofList respelledMembers)) = some record ∧
      record.keys = ["REVERSE_FLOW_ENI_MAC", "SRC_IP"] ∧
      record.get? "REVERSE_FLOW_ENI_MAC" = some (.number (.integer 2)) ∧
      record.get? "SRC_IP" = some (.object [("si", .array [])]) ∧ record.get? "si" = none := by
  have members : Json.bracketed (Json.member (Json.value (Json.nestingLimit - 1))) '}'
      respelledMembers.tail
      = some ([("7", .number (.integer 1)), ("si", .object [("si", .array [])]),
          ("07", .number (.integer 2)), ("7", .number (.integer 3))], ['\n']) := by rfl
  have object := Json.Grammar.object_of_bracketed (s := respelledMembers) rfl members rfl
  obtain ⟨-, record, decoded, keys, values, -⟩ := ofLine?_fields object
  refine ⟨object, record, decoded, keys.trans ?_, (values _).trans ?_, (values _).trans ?_,
    (values _).trans ?_⟩
  · decide +kernel
  · rfl
  · rfl
  · rfl

/-! ### Records decoded again -/

/-- No long name stands twice in `Record.ofMembers`. -/
theorem nodup_keys_ofMembers (raw : Members String Json) : (ofMembers raw).keys.Nodup :=
  Members.nodup_keys_ofList _

/-- `relabel` leaves all names of a record: they are long already. -/
theorem relabel_of_mem_ofMembers {raw : Members String Json} {p : String × Json}
    (h : p ∈ (ofMembers raw).fields) : relabel p.1 = p.1 := by
  obtain ⟨q, -, rfl⟩ := exists_of_mem_ofMembers h
  exact relabel_relabel q.1

/-- **To decode twice is to decode once.**  A long name that is made long again stays as it is, and
    so does a whole `Record.ofMembers`, whatever the members were that it was made of: its names are
    long and none of them stands twice, so that each field keeps its name, its place and its value.
    The record is the same where its fields are read from a line, in any spelling. -/
theorem ofMembers_idempotent :
    (∀ key : String, relabel (relabel key) = relabel key) ∧
    (∀ raw : Members String Json,
      (ofMembers raw).keys.Nodup ∧
      (∀ key ∈ (ofMembers raw).keys, relabel key = key) ∧
      ofMembers (ofMembers raw).fields = ofMembers raw) ∧
    ∀ (raw : Members String Json) (text : List Char),
      Object (Json.nestingLimit - 1) text (ofMembers raw).fields →
      ofLine? (Utf8.encode (String.ofList text)) = some (ofMembers raw) := by
  have again : ∀ raw : Members String Json,
      ofMembers (ofMembers raw).fields = ofMembers raw := fun raw =>
    ofMembers_fields (nodup_keys_ofMembers raw) fun _ hp => relabel_of_mem_ofMembers hp
  refine ⟨relabel_relabel, fun raw => ⟨nodup_keys_ofMembers raw, fun key hkey => ?_, again raw⟩,
    fun raw text object => ?_⟩
  · obtain ⟨p, hp, rfl⟩ := List.mem_map.mp hkey
    exact relabel_of_mem_ofMembers hp
  · -- the line has the fields as its members, and merging leaves them as they are
    refine ofLine?_eq_some_iff.mpr ⟨text, (ofMembers raw).fields, rfl, object, ?_⟩
    have kept : Members.ofList (ofMembers raw).fields = (ofMembers raw).fields :=
      Members.ofList_of_nodup (nodup_keys_ofMembers raw)
    rw [kept, again]

/-- One name under a number, the same number with a zero in front, and itself; an abbreviation; and
    a number beyond the table. -/
def collidingMembers : Members String Json :=
  [("0", .null), ("si", .object [("si", .array [])]), ("00", .array []), ("40", .bool true),
    ("ACTION", .string "a")]

/-- The line `{ "ACTION":"a" ,"SRC_I\u0050":{"si":[]},"40":true}`: the record of these members, with
    blanks and an escape in a name. -/
def mergedMembers : List Char :=
  ['{', ' ', '"', 'A', 'C', 'T', 'I', 'O', 'N', '"', ':', '"', 'a', '"', ' ', ',', '"', 'S', 'R',
    'C', '_', 'I', '\\', 'u', '0', '0', '5', '0', '"', ':', '{', '"', 's', 'i', '"', ':', '[',
    ']', '}', ',', '"', '4', '0', '"', ':', 't', 'r', 'u', 'e', '}']

/-- The record of `collidingMembers` comes from `mergedMembers` as it is. -/
theorem ofMembers_idempotent_collidingMembers :
    (ofMembers collidingMembers).fields =
      [("ACTION", .string "a"), ("SRC_IP", .object [("si", .array [])]), ("40", .bool true)] ∧
    Object (Json.nestingLimit - 1) mergedMembers (ofMembers collidingMembers).fields ∧
    ofLine? (Utf8.encode (String.ofList mergedMembers)) = some (ofMembers collidingMembers) := by
  have fields : (ofMembers collidingMembers).fields =
      [("ACTION", .string "a"), ("SRC_IP", .object [("si", .array [])]), ("40", .bool true)] := by
    with_unfolding_all rfl
  have members : Json.bracketed (Json.member (Json.value (Json.nestingLimit - 1))) '}'
      mergedMembers.tail
      = some ([("ACTION", .string "a"), ("SRC_IP", .object [("si", .array [])]),
          ("40", .bool true)], []) := by rfl
  have object : Object (Json.nestingLimit - 1) mergedMembers
      (ofMembers collidingMembers).fields := by
    rw [fields]
    exact Json.Grammar.object_of_bracketed rfl members rfl
  exact ⟨fields, object, ofMembers_idempotent.2.2 collidingMembers mergedMembers object⟩

end FlowDump.Flow.Record
