import FlowDump.Rehearsal.Format
import FlowDump.Rehearsal.Shell.Builtin.Basic
import FlowDump.Rehearsal.Shell.Fields

/-!
# Commands of the shell that read and write

* `Builtin.echo`, `Builtin.printf` — write words.
* `Builtin.read` — read a line into variables.
-/

namespace FlowDump.Rehearsal.Shell.Builtin

/-! ### Writing -/

/-- Words with blanks between them and their escapes replaced, up to one that ends the output, and
    whether there was none. -/
def echoed : List Octets → Octets × Bool
  | [] => ([], true)
  | [word] =>
    let (o, ended) := Format.unescape false (word.length + 1) word
    (o, !ended)
  | word :: rest =>
    let (o, ended) := Format.unescape false (word.length + 1) word
    if ended then (o, false)
    else
      let (others, complete) := echoed rest
      (o ++ ' ' :: others, complete)

/-- Write the words on one line, which has no end if the first word is `-n`. -/
def echo (words : List Octets) : Act Nat := do
  let (words, newline) := match words with
    | ['-', 'n'] :: rest => (rest, false)
    | words => (words, true)
  let (o, complete) := echoed words
  Act.say (if newline && complete then o ++ ['\n'] else o)
  return 0

/-- What is said about values and formats. -/
def formatStyle : Format.Style :=
  { noNumber := fun o => o ++ ": expected numeric value".toList
    notWhole := fun o => o ++ ": not completely converted".toList
    tooLarge := fun o => o ++ ": Numerical result out of range".toList
    unknown := fun o => o ++ ": invalid directive".toList
    unfinished := fun _ => "missing format character".toList
    extended := false }

/-- Write a format. -/
def printf (words : List Octets) : Act Nat := do
  let (_, words) ← options "" words
  match words with
  | [] => Act.refuse "usage: printf format [arg ...]".toList
  | format :: arguments =>
    let p := Format.print formatStyle format arguments
    for (_, c) in p.complaints.reverse do Act.complain c
    match p.refusal? with
    | some refusal => Act.refuse refusal
    | none =>
      Act.say p.output.reverse
      return if p.complaints = [] then 0 else 1

/-! ### Reading -/

/-- A line byte by byte up to its end: its runs, last run first, how many bytes it takes, and
    whether its end was there.  A backslash quotes what follows it unless the line is `raw`. -/
def line (raw : Bool) : List UInt8 → (count : Nat) → (done : List Run) → List Run × Nat × Bool
  | [], count, done => (done, count, false)
  | 92 :: next :: rest, count, done =>
    if raw then
      let done := Fields.push done ⟨.loose, [.glyph ⟨'\\', false⟩]⟩ true
      line raw (next :: rest) (count + 1) done
    else if next = 10 then line raw rest (count + 2) done
    else
      let c := Char.ofNat next.toNat
      line raw rest (count + 2) (Fields.push done ⟨.fixed, [.glyph ⟨c, false⟩]⟩ false)
  | b :: rest, count, done =>
    if b = 10 then (done, count + 1, true)
    else if b = 0 ∨ (b = 92 ∧ !raw) then line raw rest (count + 1) done
    else
      let c := Char.ofNat b.toNat
      line raw rest (count + 1) (Fields.push done ⟨.loose, [.glyph ⟨c, false⟩]⟩ true)
termination_by bytes => bytes.length

/-- Give variables the fields of a line; those that are left over become empty. -/
def assignFields : List Octets → List Octets → Act Unit
  | [], _ => return
  | name :: names, fields => do
    Act.assign name (fields.headD [])
    assignFields names fields.tail

/-- Read a line into variables, the last of which takes what is left. -/
def read (words : List Octets) : Act Nat := do
  let (options, names) ← options "p:r" words
  if names = [] then Act.refuse "arg count".toList
  let s ← get
  let raw := options.any fun o => o.1 = 'r'
  let channel? := s.descriptor? 0
  let bytes := (channel?.map s.system.unread).getD []
  let (runs, count, complete) := line raw bytes 0 []
  match channel? with
  | some n => set { s with system := s.system.advance n count }
  | none => pure ()
  let fields := Fields.split s.separators (some names.length) (Fields.inOrder runs)
  for name in names do checkName name
  assignFields names (fields.map Fields.text)
  return if complete then 0 else 1

end FlowDump.Rehearsal.Shell.Builtin
