import FlowDump.Host
import FlowDump.Signal
import FlowDump.Text.Blank
import FlowDump.Text.Utf8

/-!
# How programs end

* `Exit` — a code of its own, or a signal.
* `Exit.text` — the end in words.
* `Exit.outcome` — what a finished program reports, with its error output as a text.
-/

namespace FlowDump

/-- How a program ended. -/
inductive Exit where
  | code (n : UInt8)
  | signal (s : Signal)
  deriving DecidableEq, Repr, Inhabited

namespace Exit

/-- Whether a program reports success. -/
def isSuccess (e : Exit) : Bool := e = .code 0

/-- The end of a program in words. -/
def text : Exit → String
  | .code n => "exit status: " ++ String.ofList (Nat.toDigits 10 n.toNat)
  | .signal s =>
    "signal: " ++ String.ofList (Nat.toDigits 10 s.number) ++
      match s.name? with
      | some name => " (SIG" ++ name ++ ")"
      | none => ""

/-- The `CommandOutcome` of a program that ended in this way after writing some bytes to its error
    output. -/
def outcome (e : Exit) (errorOutput : List UInt8) : CommandOutcome :=
  { success := e.isSuccess
    status := e.text
    stderr := Text.trim (Utf8.decodeLossy errorOutput) }

end Exit

end FlowDump
