import FlowDump.Store.Subscription
import FlowDump.Store.Tables
import Mathlib.Logic.Basic

/-!
# What a database answers

Every command to a database is one question and one answer, and it succeeds where the answer is a
reply of the right kind.

* `judge_eq_ok_iff`, `request_eq_ok_iff` — when a command succeeds.
* `readSwitchType_eq_iff`, `subscribe_eq_iff` — the same for the role of the device and for a
  subscription.
* `start_of_error`, `start_of_ok` — a subscription stands where the database has taken it, and
  `of_start` says what it is then.
-/

namespace FlowDump.Store

variable {ε : Type} {server : Server ε}

/-! ### Commands -/

/-- A command succeeds, by `Server.judge`, where the answer is a reply of the right kind and no
    error. -/
theorem judge_eq_ok_iff {α : Type} {operation : String} {mismatched : Reply → String}
    {read : Reply → Option α} {answer : Except String Reply} {a : α} :
    Server.judge operation mismatched read answer = .ok a ↔
      ∃ reply, answer = .ok reply ∧ (∀ text, reply ≠ .error text) ∧ read reply = some a := by
  constructor
  · intro h
    unfold Server.judge at h
    split at h
    · cases h
    · cases h
    · rename_i reply no_error
      refine ⟨reply, rfl, fun text he => no_error text he, ?_⟩
      cases hr : read reply with
      | none => simp [hr] at h
      | some b => simpa [hr] using h
  · rintro ⟨reply, rfl, no_error, hr⟩
    unfold Server.judge
    cases reply with
    | error text => exact absurd rfl (no_error text)
    | _ => simp [hr]

/-- The same for `Server.request`: the question was asked, and this was the answer. -/
theorem request_eq_ok_iff {α : Type} {c : Connection} {operation : String} {command : List String}
    {read : Reply → Option α} {outside outside' : ε} {a : α} :
    server.request c operation command read outside = (.ok a, outside') ↔
      ∃ reply, server.ask c command outside = (.ok reply, outside') ∧
        (∀ text, reply ≠ .error text) ∧ read reply = some a := by
  have judged : server.request c operation command read outside =
      (Server.judge operation (server.mismatched operation) read
        (server.ask c command outside).1, (server.ask c command outside).2) := rfl
  rw [judged, Prod.mk.injEq, judge_eq_ok_iff]
  constructor
  · rintro ⟨⟨reply, answer_eq, no_error, read_eq⟩, outside_eq⟩
    exact ⟨reply, Prod.ext answer_eq outside_eq, no_error, read_eq⟩
  · rintro ⟨reply, asked, no_error, read_eq⟩
    rw [asked]
    exact ⟨⟨reply, rfl, no_error, read_eq⟩, rfl⟩

/-- `Reply.optionalText?` gives a text that may be absent exactly where the reply is a text. -/
theorem optionalText?_eq_some_iff {reply : Reply} {text : String} :
    reply.optionalText? = some (some text) ↔ reply.text? = some text := by
  cases reply <;> simp [Reply.optionalText?, Reply.text?]

/-- The role that `Server.readSwitchType` gives is a text, which no error is. -/
theorem readSwitchType_eq_iff {c : Connection} {outside outside' : ε} {role : String} :
    server.readSwitchType c outside = (.ok (some role), outside') ↔
      ∃ reply, server.ask c ["HGET", "DEVICE_METADATA|localhost", "switch_type"] outside
        = (.ok reply, outside') ∧ reply.text? = some role := by
  refine request_eq_ok_iff.trans (exists_congr fun reply => and_congr_right fun _ => ?_)
  rw [optionalText?_eq_some_iff, and_iff_right_iff_imp]
  rintro text_eq text rfl
  cases text_eq

/-- The request of `Subscription.start` succeeds where the answer to it is a reply and no error. -/
theorem subscribe_eq_iff {c : Connection} {command : List String} {outside outside' : ε} :
    server.request c "subscribe" command (fun _ => some ()) outside = (.ok (), outside') ↔
      ∃ reply, server.ask c command outside = (.ok reply, outside') ∧
        ∀ text, reply ≠ .error text := by
  refine request_eq_ok_iff.trans (exists_congr fun reply => and_congr_right fun _ => ?_)
  exact and_iff_left rfl

/-! ### Subscriptions -/

section

variable {c : Connection} {index : UInt32} {table : String}

/-- `Subscription.start` fails as its request does. -/
theorem start_of_error {e : Failure} {outside outside' : ε}
    (asked : server.request c "subscribe" ["PSUBSCRIBE", pattern index table]
      (fun _ => some ()) outside = (.error e, outside')) :
    Subscription.start server c index table outside = ({ result := .error e }, outside') := by
  simp only [Subscription.start, bind, StateT.bind, asked]
  rfl

/-- `Subscription.start` gives the connection with the `channelStem` of the table, and tells the
    pattern. -/
theorem start_of_ok {outside outside' : ε}
    (asked : server.request c "subscribe" ["PSUBSCRIBE", pattern index table]
      (fun _ => some ()) outside = (.ok (), outside')) :
    Subscription.start server c index table outside =
      ({ result := .ok { connection := c, stem := channelStem index table }
         notes := [Subscription.note (pattern index table)] }, outside') := by
  simp only [Subscription.start, bind, StateT.bind, asked]
  rfl

/-- What `Subscription.start` gives belongs to its connection and its table, whose channels the
    database was asked for. -/
theorem of_start {outside : ε} {s : Subscription}
    (h : (Subscription.start server c index table outside).1.result = .ok s) :
    s = { connection := c, stem := channelStem index table } ∧
      ∃ reply, (server.ask c ["PSUBSCRIBE", pattern index table] outside).1 = .ok reply := by
  rcases asked : server.request c "subscribe" ["PSUBSCRIBE", pattern index table]
    (fun _ => some ()) outside with ⟨answer, outside'⟩
  cases answer with
  | error e =>
    rw [start_of_error asked] at h
    cases h
  | ok _ =>
    rw [start_of_ok asked] at h
    obtain ⟨reply, taken, -⟩ := subscribe_eq_iff.mp asked
    cases h
    exact ⟨rfl, reply, congrArg Prod.fst taken⟩

end

end FlowDump.Store
