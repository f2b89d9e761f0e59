import FlowDump.Exit
import FlowDump.Rehearsal.Files
import FlowDump.Store.Server
import FlowDump.Watch

/-!
# The stage of a rehearsal

In a rehearsal nothing around the program is real: time passes when the script says so,
notifications and replies are read off lists, and programs are small or answer as they are told.
This module holds what a script consists of; the other modules of the folder say how it is played.

A rehearsal is no part of the program.  `Host`, `Site` and `Store.Server` are what the program asks
of its surroundings; it is given them as values, and what `FlowDump.Proofs` says of it holds for all
of them.  The folder is one more such value, to run the program on, and no module outside of the
folder imports it.  An apply command may be any script, and so the shell and the small programs that
scripts are made of take most of the folder.

* `Rehearsal.Feed` — notifications and the record of one session, step by step.
* `Rehearsal.Programs` — the answers of programs, and the calls so far.
* `Rehearsal.Database` — the replies of a database server, and the commands so far.
* `Rehearsal.Stage` — all of them, with a clock and the interrupt flag.
-/

namespace FlowDump.Rehearsal

/-! ### Notifications -/

/-- What happens while the program waits for a notification. -/
structure Step where
  /-- The clock goes on by so much. -/
  advance : Duration := default
  /-- The record of the session is replaced, by nothing if it is deleted. -/
  record? : Option (Option (Members String String)) := none
  /-- The next attempt to read the record fails. -/
  readError? : Option String := none
  /-- The interrupt flag is set. -/
  interrupt : Bool := false
  /-- The wait fails. -/
  error? : Option String := none
  /-- The wait ends with a notification. -/
  event? : Option Notification := none
  deriving Inhabited

/-- What happens once the steps have run out. -/
inductive Ending where
  /-- Each wait takes as long as it may. -/
  | expire
  /-- The interrupt flag is set. -/
  | interrupt
  deriving DecidableEq, Repr, Inhabited

/-- A call to the feed. -/
inductive FeedCall where
  | nextEvent (maxWait : Duration)
  | readState (session : SessionName)
  deriving Inhabited

/-- Notifications and the record of one session. -/
structure Feed where
  steps : List Step := []
  ending : Ending := .expire
  record? : Option (Members String String) := none
  readError? : Option String := none
  /-- The calls so far, last call first, without the waits after the last step. -/
  calls : List FeedCall := []
  /-- The waits after the last step. -/
  idle : Nat := 0
  deriving Inhabited

/-! ### Programs -/

/-- How a program answers. -/
inductive ProgramAnswer where
  | outcome (o : CommandOutcome)
  | failure (e : IoFailure)
  /-- The program is run. -/
  | performed
  deriving Inhabited

/-- A call of a program, with the content of the file that its last argument names. -/
structure ProgramCall where
  program : String
  arguments : List String
  request? : Option (List UInt8)
  deriving Inhabited

/-- The answers of programs: the n-th call gets the n-th answer, and later calls the last one. -/
structure Programs where
  answers : List ProgramAnswer := []
  /-- The calls so far, last call first. -/
  calls : List ProgramCall := []
  deriving Inhabited

/-! ### Databases -/

/-- What a server sends, unless it closes the connection. -/
inductive ServerAnswer where
  | reply (r : Store.Reply)
  | close
  deriving Inhabited

/-- Answers for one command: the n-th time the n-th answer is given, and later the last one. -/
structure Answers where
  list : List ServerAnswer := []
  given : Nat := 0
  deriving Inhabited

/-- What the producer of a dump does on the server: it may change the record that is read, send a
    message, and wait until a record is read. -/
structure ProducerStep where
  record? : Option ServerAnswer := none
  message? : Option ServerAnswer := none
  untilRead : Bool := false
  deriving Inhabited

/-- The server's end of a connection: what it has sent and was not read yet. -/
structure Line where
  bytes : List UInt8 := []
  /-- Nothing more will be sent. -/
  ended : Bool := false
  deriving Inhabited

/-- A database server behind a socket. -/
structure Database where
  /-- Where the socket stands, if there is a server. -/
  socket? : Option Location := none
  fields : Answers := {}
  records : Answers := {}
  select : ServerAnswer := .reply (.status "OK")
  subscribe : ServerAnswer := .reply (.status "OK")
  /-- What waits to be sent to the subscriber. -/
  messages : List ServerAnswer := []
  producer : List ProducerStep := []
  /-- The connections so far, by their numbers. -/
  lines : List Line := []
  /-- The commands so far, last command first. -/
  commands : List (List String) := []
  deriving Inhabited

/-! ### The stage -/

/-- The surroundings of a program in a rehearsal. -/
structure Stage where
  clock : Instant := .ofSeconds 1000
  interrupted : Bool := false
  /-- The identifiers given so far. -/
  issued : Nat := 0
  feed : Feed := {}
  programs : Programs := {}
  /-- The files that may be run. -/
  runnable : List Location := programPlaces
  database : Database := {}
  deriving Inhabited

namespace Stage

/-- Let time pass. -/
def advance (s : Stage) (d : Duration) : Stage :=
  { s with clock := (s.clock.add? d).getD s.clock }

/-- The n-th identifier of a rehearsal. -/
def identity (n : Nat) : Uuid :=
  { millis := 1000000000000 + n, randomHigh := n, randomLow := n }

end Stage

/-- The entry of a list with a number; past its end, the last one. -/
def nth? {α : Type} (l : List α) (n : Nat) : Option α :=
  l[n]?.or l.getLast?

end FlowDump.Rehearsal
