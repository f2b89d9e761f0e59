import FlowDump.Descriptor
import FlowDump.Proofs.Config
import FlowDump.Proofs.Decimal
import FlowDump.Proofs.Json.Pretty
import FlowDump.Text.Split

/-!
# Requests are read as they are written

A consumer of a request document takes the member that is not the operation, cuts its key at the
first colon, and reads the texts of its fields.  That gives the table and the descriptor back.

* `document_eq` — the document, member by member.
* `Request.read?` — what a consumer makes of a document.
* `read?_document` — it is what was asked for, where the table has no colon.
* `bytes_roundTrip` — the same from the bytes, which therefore belong to one request only.
-/

namespace FlowDump

/-! ### The document -/

namespace Descriptor

/-- The key of the operation in every document. -/
def operationKey : String := "OP"

theorem toList_entryKey (d : Descriptor) (table : String) :
    (d.entryKey table).toList = table.toList ++ ':' :: d.session.text.toList := by
  simp [entryKey, separator]

/-- The key of an entry has a colon, and `operationKey` has none. -/
theorem entryKey_ne (d : Descriptor) (table : String) : d.entryKey table ≠ operationKey := by
  intro h
  have colon : ':' ∈ (d.entryKey table).toList := by simp [toList_entryKey]
  rw [h] at colon
  exact absurd colon (by decide)

/-- The `entryKey` is cut into its table and its session, where the table has no colon. -/
theorem cut?_entryKey (d : Descriptor) {table : String} (h : ':' ∉ table.toList) :
    Text.cut? ':' (d.entryKey table).toList = some (table.toList, d.session.text.toList) := by
  rw [toList_entryKey, Text.cut?_append h]

/-- The members of the one object of a document: the `Descriptor.entry` under its key, and the
    operation. -/
def members (d : Descriptor) (table : String) : Members String Json :=
  [(d.entryKey table, d.entry), (operationKey, .string "SET")]

/-- No key stands twice in the object of a document, since the `entryKey` is not that of the
    operation. -/
theorem nodup_keys_members (d : Descriptor) (table : String) :
    (Members.keys (d.members table)).Nodup := by
  simpa [Members.keys, members] using d.entryKey_ne table

/-- The `Descriptor.document`, member by member. -/
theorem document_eq (d : Descriptor) (table : String) :
    d.document table = .array [.object (d.members table)] := by
  rw [document, Json.ofMembers, ← Members.ofList_of_nodup (d.nodup_keys_members table)]
  rfl

/-- A `Descriptor.entry` may stand wherever one more level of nesting is allowed. -/
theorem admitted_entry (d : Descriptor) (limit : Nat) : Json.Admitted (limit + 1) d.entry := by
  refine .object ?_ ?_
  · change ["type", "flow_state", "max_flows", "timeout"].Nodup
    decide
  · simp only [List.forall_mem_cons]
    exact ⟨.string _, .string _, .string _, .string _, by simp⟩

/-- A `Descriptor.document` keeps within the limits of the reader. -/
theorem admitted_document (d : Descriptor) (table : String) :
    Json.Admitted Json.nestingLimit (d.document table) := by
  rw [document_eq]
  have object : Json.Admitted 126 (.object (d.members table)) := by
    refine .object (d.nodup_keys_members table) ?_
    simp only [members, List.forall_mem_cons]
    exact ⟨d.admitted_entry 124, .string _, by simp⟩
  exact .array (by simpa using object)

/-- A `Descriptor.document` has no numbers, and so none that is not `exact`. -/
theorem exact_document (d : Descriptor) (table : String) :
    Json.exact (d.document table) = true := by
  rw [document_eq]
  rfl

end Descriptor

/-! ### The consumer -/

namespace Request

/-- The document in some bytes, by `Json.parse`. -/
def parse? (bytes : List UInt8) : Option Json :=
  (Utf8.decode? bytes).bind fun text => Json.parse text.toList

/-- The first member of the first object of which the key is not `Descriptor.operationKey`. -/
def entry? : Json → Option (String × Json)
  | .array (.object members :: _) => members.find? (·.1 ≠ Descriptor.operationKey)
  | _ => none

/-- The text of a field. -/
def field? (entry : Json) (name : String) : Option (List Char) :=
  match entry.members?.bind (Members.get? · name) with
  | some (.string text) => some text.toList
  | _ => none

/-- A truth value from its word. -/
def readBool? (word : List Char) : Option Bool :=
  [true, false].find? fun b => (Descriptor.boolText b).toList = word

/-- What a document asks for, and in which table: the `entry?`, cut at the colon of its key, and its
    fields. -/
def read? (document : Json) : Option (String × Descriptor) := do
  let (key, entry) ← entry? document
  let (table, session) ← Text.cut? ':' key.toList
  let flowState ← (field? entry "flow_state").bind readBool?
  let maxFlows ← (field? entry "max_flows").bind (Decimal.readUnsigned? Decimal.max32)
  let seconds ← (field? entry "timeout").bind (Decimal.readUnsigned? Decimal.max64)
  return (.ofList table,
    { session := ⟨.ofList session⟩, flowState, maxFlows := .ofNat maxFlows,
      timeoutSeconds := .ofNat seconds })

theorem readBool?_boolText (b : Bool) : readBool? (Descriptor.boolText b).toList = some b := by
  cases b <;> decide

theorem readUnsigned?_numberText {max n : Nat} (h : n ≤ max) :
    Decimal.readUnsigned? max (Descriptor.numberText n).toList = some n := by
  rw [Descriptor.numberText, String.toList_ofList, Decimal.readUnsigned?_toDigits h]

/-- `parse?` reads the bytes of a descriptor as its document. -/
theorem parse?_bytes (d : Descriptor) (table : String) :
    parse? (d.bytes table) = some (d.document table) := by
  rw [parse?, Descriptor.bytes, Utf8.decode?_encode, Option.bind_some, String.toList_ofList,
    Json.parse_pretty (d.admitted_document table) (d.exact_document table)]

/-- `entry?` finds the entry of a descriptor, in front of its operation. -/
theorem entry?_document (d : Descriptor) (table : String) :
    entry? (d.document table) = some (d.entryKey table, d.entry) := by
  rw [Descriptor.document_eq, entry?, Descriptor.members,
    List.find?_cons_of_pos (by simpa using d.entryKey_ne table)]

/-- **`read?` gives what was asked for**, where the table has no colon. -/
theorem read?_document (d : Descriptor) {table : String} (h : ':' ∉ table.toList) :
    read? (d.document table) = some (table, d) := by
  have flows : Decimal.readUnsigned? Decimal.max32 (Descriptor.numberText d.maxFlows.toNat).toList
      = some d.maxFlows.toNat :=
    readUnsigned?_numberText (Nat.le_sub_one_of_lt d.maxFlows.toNat_lt)
  have seconds : Decimal.readUnsigned? Decimal.max64
      (Descriptor.numberText d.timeoutSeconds.toNat).toList = some d.timeoutSeconds.toNat :=
    readUnsigned?_numberText (Nat.le_sub_one_of_lt d.timeoutSeconds.toNat_lt)
  have state : field? d.entry "flow_state" = some (Descriptor.boolText d.flowState).toList := rfl
  have maxFlows : field? d.entry "max_flows"
      = some (Descriptor.numberText d.maxFlows.toNat).toList := rfl
  have timeout : field? d.entry "timeout"
      = some (Descriptor.numberText d.timeoutSeconds.toNat).toList := rfl
  simp [read?, entry?_document, d.cut?_entryKey h, state, maxFlows, timeout, readBool?_boolText,
    flows, seconds]

end Request

/-! ### Tables -/

/-- The request table of a configuration that passes `Config.check` has no colon. -/
theorem Config.colon_notMem_requestTable {c : Config} (h : c.check = .ok ()) :
    ':' ∉ c.requestTable.toList :=
  (check_eq_ok_iff.mp h).requestTable.unreserved ':' (by decide)

/-! ### The bytes -/

/-- **Requests are read as they are written.**  The bytes are those of `Descriptor.document`, which
    is one object in an array, with an entry of four texts under its own key and the operation under
    another.  A consumer reads the table and the descriptor back where the table has no colon, and
    no other request with such a table has these bytes.  A configuration that passes its check has
    such a table. -/
theorem Descriptor.bytes_roundTrip (d : Descriptor) (table : String) :
    Request.parse? (d.bytes table) = some (d.document table) ∧
    d.document table
      = .array [.object [(d.entryKey table, d.entry), ("OP", .string "SET")]] ∧
    d.entryKey table ≠ "OP" ∧
    d.entry
      = .object [("type", .string "dump"), ("flow_state", .string (boolText d.flowState)),
          ("max_flows", .string (numberText d.maxFlows.toNat)),
          ("timeout", .string (numberText d.timeoutSeconds.toNat))] ∧
    (':' ∉ table.toList →
      (Request.parse? (d.bytes table)).bind Request.read? = some (table, d) ∧
      ∀ (d' : Descriptor) (table' : String), ':' ∉ table'.toList →
        d'.bytes table' = d.bytes table → d' = d ∧ table' = table) ∧
    ∀ c : Config, c.check = .ok () → ':' ∉ c.requestTable.toList := by
  have recovered : ∀ (d : Descriptor) (table : String), ':' ∉ table.toList →
      (Request.parse? (d.bytes table)).bind Request.read? = some (table, d) := by
    intro d table h
    rw [Request.parse?_bytes, Option.bind_some, Request.read?_document d h]
  refine ⟨Request.parse?_bytes d table, d.document_eq table, d.entryKey_ne table,
    rfl, fun h => ⟨recovered d table h, ?_⟩,
    fun c h => Config.colon_notMem_requestTable h⟩
  -- what is read from the same bytes is the same
  intro d' table' h' same
  have read := recovered d' table' h'
  rw [same, recovered d table h, Option.some.injEq, Prod.mk.injEq] at read
  exact ⟨read.2.symm, read.1.symm⟩

/-- A table with a quotation mark, a line feed and a letter beyond ASCII, a session with a colon,
    and the largest numbers; and a configuration that passes its check. -/
theorem Descriptor.bytes_roundTrip_strangeTable :
    let d : Descriptor :=
      { session := ⟨"OP:\"1\""⟩, flowState := true, maxFlows := 4294967295,
        timeoutSeconds := 18446744073709551615 }
    let table := "DÄSH_\"REQUEST\"\n"
    let c : Config := { requestTable := "DASH" }
    ':' ∉ table.toList ∧
    (Request.parse? (d.bytes table)).bind Request.read? = some (table, d) ∧
    c.check = .ok () ∧ ':' ∉ c.requestTable.toList :=
  have noColon : ':' ∉ "DÄSH_\"REQUEST\"\n".toList := by decide
  have checked : ({ requestTable := "DASH" } : Config).check = .ok () := rfl
  have whole := Descriptor.bytes_roundTrip
    { session := ⟨"OP:\"1\""⟩, flowState := true, maxFlows := 4294967295,
      timeoutSeconds := 18446744073709551615 } "DÄSH_\"REQUEST\"\n"
  ⟨noColon, (whole.2.2.2.2.1 noColon).1, checked, whole.2.2.2.2.2 _ checked⟩

end FlowDump
