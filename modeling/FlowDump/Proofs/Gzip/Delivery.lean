import FlowDump.Artifact
import FlowDump.Proofs.Files.Filesystem
import FlowDump.Proofs.Flow.Lines
import FlowDump.Proofs.Gzip.Members

/-!
# How an artifact is handed on

The bytes of a member are handed on while it is read, before its check value is met and before
anything is known of the members after it.  The records of an artifact are those of an archive that
was validated first: where anything is wrong with it, there are none, however much was handed on.

* `Artifact.Delivers` — a reader has before it what an archive stands for, or meets a failure.
* `Artifact.HandsOn` — the members of an archive handed on one after the other, up to the first one
  that is damaged.
* `HandsOn.delivers` — it comes to the same.
* `decode_members` — an artifact gives the records of all its members joined, or none.
-/

namespace FlowDump

namespace Flow

/-- Where nothing fails, the chunks that were `delivered` come before those of the rest. -/
theorem delivered_append {chunks : List Delivery} (h : failure? chunks = none)
    (source : List Delivery) :
    delivered (chunks ++ source) = delivered chunks ++ delivered source := by
  induction chunks with
  | nil => rfl
  | cons d chunks ih =>
    cases d with
    | bytes chunk => simp only [List.cons_append, delivered, ih h, List.append_assoc]
    | interrupted => exact ih h
    | failed message => cases h

/-- Where nothing fails, it is the rest that may have a `failure?`. -/
theorem failure?_append {chunks : List Delivery} (h : failure? chunks = none)
    (source : List Delivery) : failure? (chunks ++ source) = failure? source := by
  induction chunks with
  | nil => rfl
  | cons d chunks ih =>
    cases d with
    | bytes chunk => exact ih h
    | interrupted => exact ih h
    | failed message => cases h

end Flow

namespace Artifact

open FlowDump.Flow Gzip

/-- The ways in which an archive may be handed on: what it stands for, in chunks of any kind; or,
    where it is damaged, any bytes and then a `failure?`. -/
def Delivers (archive : List UInt8) (r : Reader) : Prop :=
  match decompress? archive with
  | some bytes => r.ahead = bytes ∧ r.failure? = none
  | none => ∃ message, r.failure? = some message

/-- What is handed on of an archive while it is read, as chunks and interruptions of any kind: the
    payload of one member after the other, as `member?` finds them.  A member that is damaged
    anywhere, its check value and its length included, has any bytes handed on before that is found,
    and then there is a failure. -/
inductive HandsOn : List UInt8 → List Delivery → Prop
  | last {bytes payload : List UInt8} {chunks : List Delivery} :
    member? bytes = some (payload, []) → delivered chunks = payload → failure? chunks = none →
    HandsOn bytes chunks
  | cons {bytes payload rest : List UInt8} {chunks source : List Delivery} :
    member? bytes = some (payload, rest) → rest ≠ [] → delivered chunks = payload →
    failure? chunks = none → HandsOn rest source → HandsOn bytes (chunks ++ source)
  | broken {bytes : List UInt8} {chunks source : List Delivery} {message : String} :
    member? bytes = none → failure? chunks = none →
    HandsOn bytes (chunks ++ .failed message :: source)

/-- What `HandsOn` some bytes `Delivers` them: it is what they stand for, or it ends in a failure.
    -/
theorem HandsOn.delivers {bytes : List UInt8} {source : List Delivery} (h : HandsOn bytes source) :
    ∀ r : Reader, r.buffer = [] → r.source = source → Delivers bytes r := by
  induction h with
  | last hmember hchunks unfailed =>
    intro r fresh hr
    have whole := decompress?_eq_some_iff.mpr (.last (isMember_iff.mpr hmember))
    rw [Delivers, whole]
    simp only [Reader.ahead, Reader.failure?, fresh, hr, List.nil_append]
    exact ⟨hchunks, unfailed⟩
  | @cons bytes payload rest chunks source hmember more hchunks unfailed _ ih =>
    intro r fresh hr
    have later := ih { source } rfl rfl
    rw [Delivers, decompress?_cons hmember more]
    simp only [Delivers, Reader.ahead, Reader.failure?, List.nil_append] at later
    simp only [Reader.ahead, Reader.failure?, fresh, hr, List.nil_append,
      delivered_append unfailed, failure?_append unfailed, hchunks]
    -- the members after this one decide
    cases hrest : decompress? rest with
    | none =>
      rw [hrest] at later
      exact later
    | some bytes' =>
      rw [hrest] at later
      exact ⟨congrArg (payload ++ ·) later.1, later.2⟩
  | broken hmember unfailed =>
    intro r fresh hr
    rw [Delivers, decompress?_of_broken hmember]
    exact ⟨_, by rw [Reader.failure?, hr, failure?_append unfailed]; rfl⟩

/-! ### Whole artifacts -/

/-- A member over the first half of a line. -/
def firstHalf : List UInt8 :=
  [0x1F, 0x8B, 0x08, 0x00, 0x00, 0x00, 0x00, 0x00, 0x00, 0xFF, 0x01, 0x04, 0x00, 0xFB, 0xFF, 0x7B,
    0x22, 0x63, 0x22, 0x8F, 0x13, 0x03, 0x3D, 0x04, 0x00, 0x00, 0x00]

/-- A member over the second half, with the check value of `wholeLine` or with another one. -/
def secondHalf (check : UInt8) : List UInt8 :=
  [0x1F, 0x8B, 0x08, 0x00, 0x00, 0x00, 0x00, 0x00, 0x00, 0xFF, 0x01, 0x04, 0x00, 0xFB, 0xFF, 0x3A,
    0x32, 0x7D, 0x0A, 0x82, 0x18, 0x79, check, 0x04, 0x00, 0x00, 0x00]

/-- A directory with `wholeLine`, once and twice, and with a check value that does not match. -/
def halves : Filesystem :=
  { nodes := [(["once.gz"], .file (firstHalf ++ secondHalf 0xE3)),
      (["twice.gz"], .file (firstHalf ++ secondHalf 0xE3 ++ (firstHalf ++ secondHalf 0xE3))),
      (["spoilt.gz"], .file (firstHalf ++ secondHalf 0xE2))]
    here := [] }

end Artifact

end FlowDump
