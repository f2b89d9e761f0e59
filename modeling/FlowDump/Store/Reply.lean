import FlowDump.Members
import FlowDump.Text.Utf8

/-!
# Replies of a database

* `Store.Reply` — what a database sends, in answer to a command or on its own.
* `Reply.text?`, `Reply.optionalText?`, `Reply.hash?`, `Reply.message?` — a reply read as what it
  should be; `none` where it is something else.
-/

namespace FlowDump.Store

/-- What a database sends. -/
inductive Reply where
  | bulk (bytes : List UInt8)
  | integer (n : Int)
  | array (items : List Reply)
  | nil
  | status (text : String)
  | error (text : String)
  deriving Repr, Inhabited

namespace Reply

/-! ### Texts -/

/-- A text: bytes that are UTF-8, or a status. -/
def text? : Reply → Option String
  | .bulk bytes => Utf8.decode? bytes
  | .status text => some text
  | _ => none

/-- A text that may be absent. -/
def optionalText? : Reply → Option (Option String)
  | .nil => some none
  | r => r.text?.map some

/-- The word of a database that a command was carried out. -/
def done? : Reply → Option Unit
  | .status "OK" => some ()
  | _ => none

/-! ### Hashes -/

/-- Names and values in turn; a last name without a value counts for nothing. -/
def pairs? : List Reply → Option (List (String × String))
  | [] => some []
  | [_] => some []
  | name :: value :: rest => do
    let name ← name.text?
    let value ← value.text?
    return (name, value) :: (← pairs? rest)

/-- A hash, by `pairs?`; an absent one counts as empty.  Of two values for one name the last one
    holds. -/
def hash? : Reply → Option (Members String String)
  | .nil => some []
  | .array items => (pairs? items).map Members.ofList
  | _ => none

/-! ### Messages -/

/-- The channel and the payload of a message, which names the pattern first if it was selected by
    one. -/
def message? : Reply → Option (Reply × Reply)
  | .array (kind :: rest) =>
    match kind.text?, rest with
    | some "message", channel :: payload :: _ => some (channel, payload)
    | some "pmessage", _ :: channel :: payload :: _ => some (channel, payload)
    | _, _ => none
  | _ => none

/-- The name of a channel, which is given as bytes. -/
def channel? : Reply → Option String
  | .bulk bytes => Utf8.decode? bytes
  | _ => none

end Reply

end FlowDump.Store
