import FlowDump.Session

/-!
# Keys and channels

A database keeps the record of a session under a key of its table, and tells of every change on the
channel of that key.

* `Store.stateKey` — the key of a session's record.
* `Store.channelStem` — what the channels of all keys of a table start with.
* `Store.pattern` — the pattern that selects these channels.
* `Store.keyOfChannel?` — the key behind a channel, without its table.
-/

namespace FlowDump.Store

/-- What stands between a table and a key of it. -/
def separator : String := "|"

/-- The key of the record of a session: the table and the session with the `separator` between them.
    -/
def stateKey (table : String) (session : SessionName) : String :=
  table ++ separator ++ session.text

/-- The key of the hash that describes the device. -/
def deviceKey : String := "DEVICE_METADATA" ++ separator ++ "localhost"

/-- The field of that hash that holds the role of the device. -/
def switchTypeField : String := "switch_type"

/-- What the channels of the keys of a database start with. -/
def databaseStem (index : UInt32) : String :=
  "__keyspace@" ++ String.ofList (Nat.toDigits 10 index.toNat) ++ "__:"

/-- What the channels of the keys of a table start with: `databaseStem`, the table and the
    `separator`. -/
def channelStem (index : UInt32) (table : String) : String :=
  databaseStem index ++ table ++ separator

/-- The pattern for the channels of all keys of a table: its `channelStem` and a star. -/
def pattern (index : UInt32) (table : String) : String :=
  channelStem index table ++ "*"

/-- What a channel has after the given stem, unless that is nothing or the channel starts in
    another way. -/
def keyOfChannel? (stem channel : String) : Option String :=
  ((stem.toList.isPrefixOf? channel.toList).filter (· ≠ [])).map String.ofList

end FlowDump.Store
