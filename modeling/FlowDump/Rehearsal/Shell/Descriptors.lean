import FlowDump.Rehearsal.Shell.Expansion

/-!
# Redirections

* `Descriptors.target` — where a descriptor is to lead.
* `Descriptors.openAll` — let descriptors lead there.
-/

namespace FlowDump.Rehearsal.Shell

namespace Descriptors

/-- Expand the word of a redirection. -/
def target (outputOf : Command → Act Octets) : Redirection → Act Target
  | .file descriptor mode name => do
    return .file descriptor mode (← Expansion.text outputOf name)
  | .same descriptor other => do
    match ← Expansion.text outputOf other with
    | ['-'] => return .same descriptor none
    | o =>
      match o with
      | [c] => if c.isDigit then return .same descriptor (some (c.toNat - 48))
      | _ => pure ()
      Act.refuse "Syntax error: Bad fd number".toList
  | .document descriptor number => do
    let text := (((← get).documents.find? fun d => d.1 = number).map (·.2)).getD []
    return .text descriptor (← Expansion.document outputOf text)

/-- Let a descriptor lead to something that was opened. -/
def lead (descriptor : Nat) (o : Opened) (system : System) : Act Unit :=
  let (n, system) := system.add o
  modify fun s => { s with system }.setDescriptor descriptor (some n)

/-- Why a file could not be opened, in words; `missing` is said if it is not there. -/
def reason (missing : String) (e : IoFailure) : Octets :=
  match e with
  | .system e =>
    (if e = .notFound ∨ e = .notADirectory then missing else e.text).toList
  | e => e.message.toList

/-- Let a descriptor lead to a target. -/
def openOne : Target → Act Unit
  | .same descriptor none => modify fun s => s.setDescriptor descriptor none
  | .same descriptor (some n) => do
    match (← get).descriptor? n with
    | some channel => modify fun s => s.setDescriptor descriptor (some channel)
    | none => Act.refuse (Octets.ofNat n ++ ": Bad file descriptor".toList)
  | .text descriptor o => do
    lead descriptor { channel := .memory (Octets.bytes o) } (← get).system
  | .file descriptor mode path => do
    let s ← get
    let text := Octets.text path
    let refused {α : Type} (verb missing : String) (e : IoFailure) : Act α :=
      Act.refuse (verb.toList ++ path ++ ": ".toList ++ reason missing e)
    match System.standardPaths.find? fun p => p.1 = text with
    | some (_, n) =>
      match s.descriptor? n with
      | some channel => modify fun s => s.setDescriptor descriptor (some channel)
      | none => refused "cannot open " "No such file" (.system .notFound)
    | none =>
      match mode with
      | .read =>
        match s.system.openToRead text with
        | .ok o => lead descriptor o s.system
        | .error e => refused "cannot open " "No such file" e
      | mode =>
        let isKept : Bool := match mode with
          | .append | .both => true
          | _ => false
        let appends : Bool := match mode with
          | .append => true
          | _ => false
        let spares : Bool := match mode with
          | .write => s.has 'C' && s.system.holds 'f' text
          | _ => false
        if spares then refused "cannot create " "" (.system .alreadyExists)
        match s.system.openToWrite text isKept appends with
        | .ok (o, system) => lead descriptor o system
        | .error e => refused "cannot create " "Directory nonexistent" e

/-- Let descriptors lead to targets; the answer tells whether that could be done. -/
def openAll (targets : List Target) : Act Bool := do
  match ← Act.attempt (targets.forM openOne) with
  | .ok () => return true
  | .error .failed => return false
  | .error h => throw h

end Descriptors

end FlowDump.Rehearsal.Shell
