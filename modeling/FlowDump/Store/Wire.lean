import FlowDump.Decimal.Signed
import FlowDump.Store.Reply
import FlowDump.Text.Blank

/-!
# The wire form of replies

Every reply starts with a mark for its kind and a line.  The line of a text or an array gives the
number of its bytes or items, and these follow; a negative number stands for nothing.

* `Wire.encode` — the bytes of a reply.
* `Wire.Outcome` — what a reader makes of the bytes that have arrived so far.
* `Wire.read` — the reply at the front of a stream.
* `Wire.next` — the first reply of a stream that is wanted.
-/

namespace FlowDump.Store.Wire

/-! ### Writing -/

/-- The end of a line. -/
def lineEnd : List UInt8 := Utf8.encode "\r\n"

/-- A mark and the line after it. -/
def line (mark : String) (text : String) : List UInt8 :=
  Utf8.encode mark ++ Utf8.encode text ++ lineEnd

/-- A mark and a line with a number. -/
def numberLine (mark : String) (n : Int) : List UInt8 :=
  line mark (String.ofList (Decimal.renderSigned n))

mutual

/-- The bytes of a reply. -/
def encode : Reply → List UInt8
  | .bulk bytes => numberLine "$" bytes.length ++ bytes ++ lineEnd
  | .integer n => numberLine ":" n
  | .array items => numberLine "*" items.length ++ encodeAll items
  | .nil => numberLine "$" (-1)
  | .status text => line "+" text
  | .error text => line "-" text

/-- The bytes of some replies, one after the other. -/
def encodeAll : List Reply → List UInt8
  | [] => []
  | r :: rest => encode r ++ encodeAll rest

end

/-! ### Reading -/

/-- What a reader makes of the bytes that have arrived. -/
inductive Outcome (α : Type) where
  | done (value : α) (rest : List UInt8)
  /-- More bytes are needed. -/
  | unfinished
  /-- Whatever follows, this is no reply. -/
  | garbled
  deriving Repr, Inhabited

namespace Outcome

variable {α β : Type}

/-- Go on reading after a value. -/
def andThen (o : Outcome α) (next : α → List UInt8 → Outcome β) : Outcome β :=
  match o with
  | done a rest => next a rest
  | unfinished => unfinished
  | garbled => garbled

/-- A value that is there only if the bytes were well-formed. -/
def ofOption (rest : List UInt8) : Option α → Outcome α
  | some a => done a rest
  | none => garbled

end Outcome

/-- The bytes up to the end of the line. -/
def readLine : List UInt8 → Outcome (List UInt8)
  | 13 :: 10 :: rest => .done [] rest
  | b :: rest => (readLine rest).andThen fun bytes rest => .done (b :: bytes) rest
  | [] => .unfinished

/-- A line of text. -/
def readText (s : List UInt8) : Outcome String :=
  (readLine s).andThen fun bytes rest => .ofOption rest (Utf8.decode? bytes)

/-- A line with a number, which may have blanks around it. -/
def readNumber (s : List UInt8) : Outcome Int :=
  (readText s).andThen fun text rest =>
    .ofOption rest (Decimal.readSigned? (Text.trim text).toList)

/-- The end of the bytes of a text. -/
def readEnd : List UInt8 → Outcome Unit
  | [] => .unfinished
  | [13] => .unfinished
  | 13 :: 10 :: rest => .done () rest
  | _ => .garbled

/-- So many bytes and the line end after them. -/
def readBytes (n : Nat) (s : List UInt8) : Outcome Reply :=
  if s.length < n then .unfinished
  else (readEnd (s.drop n)).andThen fun () rest => .done (.bulk (s.take n)) rest

/-- So many items, each of them read in the same way. -/
def readItems (readItem : List UInt8 → Outcome Reply) : Nat → List UInt8 → Outcome (List Reply)
  | 0, s => .done [] s
  | n + 1, s =>
    (readItem s).andThen fun item rest =>
      (readItems readItem n rest).andThen fun items rest => .done (item :: items) rest

/-- What some items make together: an array, unless one of them is an error, which then stands for
    all of them. -/
def gather (items : List Reply) : Reply :=
  match items.find? fun | .error _ => true | _ => false with
  | some e => e
  | none => .array items

/-- The reply at the front of a stream, with at most `levels` arrays in each other. -/
def readWithin : (levels : Nat) → List UInt8 → Outcome Reply
  | _, [] => .unfinished
  | levels, mark :: s =>
    match Char.ofNat mark.toNat, levels with
    | '+', _ => (readText s).andThen fun text rest => .done (.status text) rest
    | '-', _ => (readText s).andThen fun text rest => .done (.error text) rest
    | ':', _ => (readNumber s).andThen fun n rest => .done (.integer n) rest
    | '$', _ =>
      (readNumber s).andThen fun n rest =>
        if n < 0 then .done .nil rest else readBytes n.toNat rest
    | '*', levels + 1 =>
      (readNumber s).andThen fun n rest =>
        if n < 0 then .done .nil rest
        else (readItems (readWithin levels) n.toNat rest).andThen fun items rest =>
          .done (gather items) rest
    | _, _ => .garbled

/-- How many arrays may stand in each other. -/
def maxLevels : Nat := 100

/-- The reply at the front of a stream. -/
def read (s : List UInt8) : Outcome Reply := readWithin maxLevels s

/-! ### Streams -/

/-- The first reply that is wanted among the first `fuel` ones; those before it are dropped. -/
def nextWithin (wanted : Reply → Bool) : (fuel : Nat) → List UInt8 → Outcome Reply
  | 0, _ => .unfinished
  | fuel + 1, s =>
    (read s).andThen fun r rest =>
      if wanted r then .done r rest else nextWithin wanted fuel rest

/-- The first reply of a stream that is wanted; those before it are dropped.  A reply takes a byte
    at least, so that there are no more replies than bytes. -/
def next (wanted : Reply → Bool) (s : List UInt8) : Outcome Reply :=
  nextWithin wanted (s.length + 1) s

end FlowDump.Store.Wire
