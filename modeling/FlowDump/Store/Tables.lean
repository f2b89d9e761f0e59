import FlowDump.Store.Keys
import FlowDump.Store.Server

/-!
# What is read from the databases

* `Server.readSwitchType` — the role of the device, from the configuration database.
* `Store.StateTable` — a table of session records, read by `StateTable.read`.
-/

namespace FlowDump.Store

variable {ε : Type}

/-- The role of the device, if it has one: `switchTypeField` of the hash `deviceKey`. -/
def Server.readSwitchType (server : Server ε) (c : Connection) :
    StateM ε (Except Failure (Option String)) :=
  server.request c "read_device_metadata" ["HGET", deviceKey, switchTypeField] Reply.optionalText?

/-- A table of session records behind a connection. -/
structure StateTable where
  connection : Connection
  name : String
  deriving DecidableEq, Repr, Inhabited

namespace StateTable

/-- The remark about a record that was read. -/
def note (key : String) (fields : Members String String) : Log.Note :=
  { level := .debug, component := .stateStore, message := "state record read",
    fields := [("key", .text key), ("fields", .count fields.length)] }

/-- Read the record of a session from the hash at its `stateKey`, by `StateRecord.ofHash?`. -/
def read (t : StateTable) (server : Server ε) (session : SessionName) :
    StateM ε (Answer (Option StateRecord)) := do
  let key := stateKey t.name session
  match ← server.request t.connection "read_state" ["HGETALL", key] Reply.hash? with
  | .error e => return { result := .error e }
  | .ok fields =>
    return { result := .ok (StateRecord.ofHash? fields), notes := [note key fields] }

end StateTable

end FlowDump.Store
