import FlowDump.Host
import FlowDump.Store.Address
import FlowDump.Store.Reply

/-!
# Database servers

* `Store.Server ε` — what a client can do with the servers that can be reached from a machine with
  the outside `ε`.
* `Server.request` — one command and its reply.
* `Server.openUrl` — a connection to the database that a locator names.

A failure of the database is told apart by the operation that it met; the text of the failure is
what the client has to say about it.
-/

namespace FlowDump.Store

/-! ### Servers -/

/-- An open connection. -/
structure Connection where
  number : Nat
  deriving DecidableEq, Repr, Inhabited

/-- What came of listening to a connection. -/
inductive Heard where
  | silence
  /-- The connection could not be told how long to wait. -/
  | unset (message : String)
  /-- Nothing could be received any more, or what was received is no reply. -/
  | failed (message : String)
  | reply (r : Reply)
  deriving Repr, Inhabited

/-- The servers around a program, as a client meets them.  Where something fails the client says
    what it was, in its own words. -/
structure Server (ε : Type) where
  /-- What is said of a locator that names no database. -/
  misnamed : (url : String) → String
  /-- Open a connection, if a server listens there.  A socket is found as a file is. -/
  connect : Endpoint → StateM (Machine ε) (Except String Connection)
  /-- Send a command and wait for the reply. -/
  ask : Connection → List String → StateM ε (Except String Reply)
  /-- What is said of a reply of another kind than an operation expects. -/
  mismatched : (operation : String) → Reply → String
  /-- Wait so long at most for the next wanted reply on a connection; others are dropped. -/
  listen : Connection → Duration → (wanted : Reply → Bool) → StateM ε Heard

namespace Server

variable {ε α : Type}

/-! ### Commands -/

/-- What came of a command, as the operation understands it; `mismatched` says what is wrong with a
    reply of another kind. -/
def judge (operation : String) (mismatched : Reply → String) (read : Reply → Option α) :
    Except String Reply → Except Failure α
  | .error message => .error (.store operation message)
  | .ok (.error text) => .error (.store operation text)
  | .ok r =>
    match read r with
    | some a => .ok a
    | none => .error (.store operation (mismatched r))

/-- Send a command for an operation by `Server.ask`, and `judge` the reply. -/
def request (server : Server ε) (c : Connection) (operation : String) (command : List String)
    (read : Reply → Option α) : StateM ε (Except Failure α) := do
  return judge operation (server.mismatched operation) read (← server.ask c command)

/-! ### Connections -/

/-- The operation that opens a connection. -/
def connecting : String := "connect"

/-- Prove who asks by `request`, where the address has credentials for it. -/
def authenticate (server : Server ε) (c : Connection) :
    Option Credentials → StateM ε (Except Failure Unit)
  | none => return .ok ()
  | some credentials =>
    server.request c connecting ("AUTH" :: credentials.user?.toList ++ [credentials.password])
      Reply.done?

/-- Turn a new connection to a database other than the first one, at which it stands. -/
def choose (server : Server ε) (c : Connection) (database : Int) :
    StateM ε (Except Failure Unit) :=
  if database = 0 then return .ok ()
  else
    let index := String.ofList (Decimal.renderSigned database)
    server.request c connecting ["SELECT", index] Reply.done?

/-- Make a new connection ready for its database: `authenticate`, then `choose`. -/
def prepare (server : Server ε) (c : Connection) (address : Address) :
    StateM ε (Except Failure Connection) := do
  match ← server.authenticate c address.credentials? with
  | .error e => return .error e
  | .ok () => return (← server.choose c address.database).map fun () => c

/-- Open a connection to the database that a locator names, as `Address.ofUrl?` reads it, and
    `prepare` it. -/
def openUrl (server : Server ε) (url : String) :
    StateM (Machine ε) (Except Failure Connection) := do
  match Address.ofUrl? url with
  | none => return .error (.store "open_client" (server.misnamed url))
  | some address =>
    match ← server.connect address.endpoint with
    | .error message => return .error (.store connecting message)
    | .ok c => Machine.outsideStep (server.prepare c address)

end Server

end FlowDump.Store
