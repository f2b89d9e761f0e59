import FlowDump.Rehearsal.Stage
import FlowDump.Store.Subscription
import FlowDump.Store.Wire

/-!
# Playing a database server

* `Line.send`, `Line.hear` — both ends of a connection.
* `Database.answer` — the answer to a command.
* `Rehearsal.server` — the server of a stage.

The producer of a dump acts between the commands: whenever a record has been read, it goes on to
the next step at which it has to wait for that.
-/

namespace FlowDump.Rehearsal

/-- The next answer for a command; without any answers it is that there is nothing. -/
def Answers.next (a : Answers) : ServerAnswer × Answers :=
  ((nth? a.list a.given).getD (.reply .nil), { a with given := a.given + 1 })

/-! ### Connections -/

namespace Line

/-- Send something, or nothing more. -/
def send (l : Line) : ServerAnswer → Line
  | .reply r => if l.ended then l else { l with bytes := l.bytes ++ Store.Wire.encode r }
  | .close => { l with ended := true }

/-- How a line that delivers nothing more is described. -/
def closed : String := "the connection is closed"

/-- Take what comes next and is wanted; what comes before it is dropped. -/
def hear (l : Line) (wanted : Store.Reply → Bool) : Store.Heard × Line :=
  match Store.Wire.next wanted l.bytes with
  | .done r rest => (.reply r, { l with bytes := rest })
  | .garbled => (.failed "what was received is no reply", l)
  | .unfinished => (if l.ended then .failed closed else .silence, l)

end Line

namespace Database

/-- The line of a connection. -/
def line (d : Database) (c : Store.Connection) : Line := d.lines[c.number]?.getD {}

/-- Change the line of a connection. -/
def setLine (d : Database) (c : Store.Connection) (l : Line) : Database :=
  { d with lines := d.lines.set c.number l }

/-- A new connection. -/
def openLine (d : Database) : Store.Connection × Database :=
  (⟨d.lines.length⟩, { d with lines := d.lines ++ [{}] })

/-- Hear what comes next on a connection. -/
def hear (d : Database) (c : Store.Connection) (wanted : Store.Reply → Bool) :
    Store.Heard × Database :=
  let (heard, l) := (d.line c).hear wanted
  (heard, d.setLine c l)

/-! ### The producer -/

/-- Play one step of the producer. -/
def act (d : Database) (step : ProducerStep) : Database :=
  { d with
    records := match step.record? with
      | some answer => { list := [answer] }
      | none => d.records
    messages := d.messages ++ step.message?.toList }

/-- Let the producer go on until it has to wait. -/
def goOn (d : Database) : List ProducerStep → Database
  | [] => { d with producer := [] }
  | step :: steps =>
    if step.untilRead then { d.act step with producer := steps }
    else (d.act step).goOn steps

/-- Let the producer go on from where it is. -/
def produce (d : Database) : Database := d.goOn d.producer

/-! ### Commands -/

/-- How a command is answered that the server does not know. -/
def unknownCommand : Store.Reply := .error "ERR unknown command"

/-- Answer a command. -/
def answer (d : Database) (command : List String) : ServerAnswer × Database :=
  match command.head? with
  | some "SELECT" => (d.select, d)
  | some "PSUBSCRIBE" => (d.subscribe, d)
  | some "HGET" =>
    let (a, fields) := d.fields.next
    (a, { d with fields })
  | some "HGETALL" =>
    let (a, records) := d.records.next
    (a, { d with records }.produce)
  | _ => (.reply unknownCommand, d)

/-- Receive a command on a connection and answer it; where the line has ended nothing is
    received. -/
def ask (d : Database) (c : Store.Connection) (command : List String) :
    Except String Store.Reply × Database :=
  if (d.line c).ended then (.error Line.closed, d)
  else
    let (a, d) := { d with commands := command :: d.commands }.answer command
    let (heard, d) := (d.setLine c ((d.line c).send a)).hear c fun _ => true
    match heard with
    | .reply r => (.ok r, d)
    | .failed message => (.error message, d)
    | _ => (.error Line.closed, d)

/-- Send the waiting messages over a connection. -/
def deliver (d : Database) (c : Store.Connection) : Database :=
  { d.setLine c (d.messages.foldl Line.send (d.line c)) with messages := [] }

end Database

/-! ### The server of a stage -/

/-- How long the path of a socket may be in bytes. -/
def maxSocketPath : Nat := 107

/-- Where a socket would stand that has a path. -/
def socketPlace? (files : Filesystem) (path : String) : Option Location :=
  if maxSocketPath < path.utf8ByteSize then none
  else match files.locate path with
    | .ok (.entry parent name false) => some (parent ++ [name])
    | _ => none

/-- Open a connection, if the endpoint is the socket of the server. -/
def connect (endpoint : Store.Endpoint) :
    StateM (Machine Stage) (Except String Store.Connection) :=
  fun m =>
    let place? := match endpoint with
      | .socket path => socketPlace? m.files path
      | .network _ _ => none
    if place?.isSome ∧ place? = m.outside.database.socket? then
      let (c, database) := m.outside.database.openLine
      (.ok c, { m with outside := { m.outside with database } })
    else (.error "no server listens there", m)

/-- Send a command. -/
def ask (c : Store.Connection) (command : List String) :
    StateM Stage (Except String Store.Reply) :=
  fun s =>
    let (answer, database) := s.database.ask c command
    (answer, { s with database })

/-- Listen to a connection; silence takes as long as it may. -/
def listen (c : Store.Connection) (maxWait : Duration) (wanted : Store.Reply → Bool) :
    StateM Stage Store.Heard := fun s =>
  let (heard, database) := (s.database.deliver c).hear c wanted
  let s := { s with database }
  (heard, match heard with
    | .silence => s.advance maxWait
    | _ => s)

/-- The server of a stage. -/
def server : Store.Server Stage :=
  { misnamed := fun url => "not the address of a database: " ++ url
    connect, ask
    mismatched := fun _ _ => "the reply is of the wrong kind"
    listen }

end FlowDump.Rehearsal
