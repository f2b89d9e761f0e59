import FlowDump.Store.Keys
import FlowDump.Store.Server

/-!
# Subscriptions

A subscription selects the channels of all keys of a table, and turns each message into a
notification about one key.

* `Store.Subscription` — a connection that has subscribed.
* `Store.Subscription.start` — subscribe over a connection.
* `Store.Subscription.nextEvent` — the next notification.
-/

namespace FlowDump.Store

variable {ε : Type}

/-- A connection on which the messages about a table arrive. -/
structure Subscription where
  connection : Connection
  /-- What the channels of the table start with. -/
  stem : String
  deriving DecidableEq, Repr, Inhabited

namespace Subscription

/-- The remark about a subscription that stands. -/
def note (pattern : String) : Log.Note :=
  { level := .debug, component := .keyspace, message := "subscribed to state table changes",
    fields := [("pattern", .text pattern)] }

/-- Subscribe to the `pattern` of a table; any reply but an error will do. -/
def start (server : Server ε) (c : Connection) (index : UInt32) (table : String) :
    StateM ε (Answer Subscription) := do
  let selected := pattern index table
  match ← server.request c "subscribe" ["PSUBSCRIBE", selected] (fun _ => some ()) with
  | .error e => return { result := .error e }
  | .ok () =>
    return { result := .ok { connection := c, stem := channelStem index table },
             notes := [note selected] }

/-- The replies that are waited for: messages and errors. -/
def isWanted : Reply → Bool
  | .error _ => true
  | r => r.message?.isSome

/-- The notification in a message, by `keyOfChannel?`, unless its channel belongs to no key of the
    table.  A payload that is no text counts as empty. -/
def notification? (stem : String) (r : Reply) : Option Notification := do
  let (channel, payload) ← r.message?
  let channel ← channel.channel?
  let key ← keyOfChannel? stem channel
  return { key, operation := payload.text?.getD "" }

/-- The shortest wait. -/
def shortestWait : Duration := .ofMillis 1

/-- What a connection delivered, as a notification by `notification?` or as a failure. -/
def judge (stem : String) : Heard → Except Failure (Option Notification)
  | .silence => .ok none
  | .unset message => .error (.store "set_read_timeout" message)
  | .failed message => .error (.store "next_event" message)
  | .reply (.error text) => .error (.store "next_event" text)
  | .reply r => .ok (notification? stem r)

/-- Wait so long at most for the next notification, and at least `shortestWait`; what is `Heard` is
    judged by `judge`. -/
def nextEvent (s : Subscription) (server : Server ε) (maxWait : Duration) :
    StateM ε (Answer (Option Notification)) := do
  let heard ← server.listen s.connection (maxWait.max shortestWait) isWanted
  return { result := judge s.stem heard }

end Subscription

end FlowDump.Store
