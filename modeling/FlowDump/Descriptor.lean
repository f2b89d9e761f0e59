import FlowDump.Failure
import FlowDump.Json.Printer
import FlowDump.Text.Utf8

/-!
# Session descriptors

The request for one dump, as the document that the apply command reads: an array with one object,
which holds the entry under its key and the operation.

* `Descriptor` — what is asked for.
* `Descriptor.check` — which numbers may be asked for.
* `Descriptor.entryKey`, `Descriptor.document`, `Descriptor.bytes` — the document and its bytes.
-/

namespace FlowDump

/-- A request for a dump of flows. -/
structure Descriptor where
  session : SessionName
  flowState : Bool
  maxFlows : UInt32
  timeoutSeconds : UInt64
  deriving DecidableEq, Repr, Inhabited

namespace Descriptor

/-- What stands between the table and the session in the key of the entry. -/
def separator : String := ":"

/-- The flows and the seconds asked for have to be positive, or the request is
    `Failure.invalidInput`. -/
def check (maxFlows : UInt32) (timeoutSeconds : UInt64) : Except Failure Unit :=
  if maxFlows = 0 then .error (.invalidInput "max_flows must be a positive integer")
  else if timeoutSeconds = 0 then .error (.invalidInput "timeout must be a positive integer")
  else .ok ()

/-- The key of the entry in a table: the table and the session with the `separator` between them. -/
def entryKey (d : Descriptor) (table : String) : String :=
  table ++ separator ++ d.session.text

/-- A truth value in words. -/
def boolText (b : Bool) : String := if b then "true" else "false"

/-- A number in decimal. -/
def numberText (n : Nat) : String := String.ofList (Nat.toDigits 10 n)

/-- The fields of the entry, each of them a text, by `boolText` and `numberText`. -/
def entry (d : Descriptor) : Json :=
  .object
    [ ("type", .string "dump"),
      ("flow_state", .string (boolText d.flowState)),
      ("max_flows", .string (numberText d.maxFlows.toNat)),
      ("timeout", .string (numberText d.timeoutSeconds.toNat)) ]

/-- The document: the `entry` under its `entryKey` in the given table, and what to do with it. -/
def document (d : Descriptor) (table : String) : Json :=
  .array [Json.ofMembers [(d.entryKey table, d.entry), ("OP", .string "SET")]]

/-- The bytes of the `document`, on one line. -/
def bytes (d : Descriptor) (table : String) : List UInt8 :=
  Utf8.encode (String.ofList (Json.pretty (d.document table)))

end Descriptor

end FlowDump
