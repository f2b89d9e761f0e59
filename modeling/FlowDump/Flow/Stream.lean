import FlowDump.Flow.Reader
import FlowDump.Flow.Record
import FlowDump.Log.Event
import FlowDump.Text.Blank

/-!
# Streams of records

An artifact is a stream of lines, one record each.  Lines are independent: one that is no record is
counted and left out.  A stream that cannot be read to its end yields nothing at all.

* `Decoded` — what came of a stream.
* `Stream.decodeFrom` — take line after line up to the end of the stream or the first failure.
* `Stream.decode` — the records of a stream, with the remarks about it.
-/

namespace FlowDump.Flow

/-- What came of a stream. -/
structure Decoded where
  records : List Record
  notes : List Log.Note := []
  deriving Repr, Inhabited

namespace Stream

/-- What ends a line. -/
def lineFeed : UInt8 := 0x0A

/-- The remark about lines that were left out. -/
def skippedLines (skipped decoded : Nat) : Log.Note :=
  { level := .debug, component := .decoder, message := "skipped undecodable lines",
    fields := [("skipped", .count skipped), ("decoded", .count decoded)] }

/-- The remark about a stream that could not be read to its end. -/
def unreadable (message : String) : Log.Note :=
  { level := .debug, component := .decoder, message := "artifact unreadable, discarding",
    fields := [("error", .text message)] }

/-- What came of a stream that was read to its end: its records, and `skippedLines` if there were
    any. -/
def complete (records : List Record) (skipped : Nat) : Decoded :=
  { records, notes := if skipped = 0 then [] else [skippedLines skipped records.length] }

/-- Take line after line by `Reader.readUntil`, up to the end of the stream or the first failure;
    the records so far stand last one first.  A line of blanks counts as no line, and one in which
    `Record.ofLine?` finds no record is skipped. -/
def decodeFrom (records : List Record) (skipped : Nat) (r : Reader) : Decoded :=
  match _hr : r.readUntil lineFeed with
  -- what was read before the failure is not kept
  | .error message => { records := [], notes := [unreadable message] }
  | .ok ([], _) => complete records.reverse skipped
  | .ok (b :: line, r') =>
    if (b :: line).all Text.isBlankByte then decodeFrom records skipped r'
    else match Record.ofLine? (b :: line) with
      | some record => decodeFrom (record :: records) skipped r'
      | none => decodeFrom records (skipped + 1) r'
  termination_by r.size
  decreasing_by
    all_goals
      have := Reader.size_readUntil _hr
      simp only [List.length_cons] at this
      omega

/-- The records of a stream, by `decodeFrom` its first line on. -/
def decode (r : Reader) : Decoded :=
  decodeFrom [] 0 r

end Stream

end FlowDump.Flow
