import FlowDump.Files.Filesystem
import FlowDump.Flow.Stream
import FlowDump.Gzip.Archive

/-!
# Artifacts

The result of a session is a file: a gzip archive of lines, one record each.

* `Artifact.ofBytes` — the records in the bytes of such a file.
* `Artifact.decode` — the records of the artifact at a path.  Without a path, and where the file
  cannot be read to its end, there are none.
-/

namespace FlowDump.Artifact

/-- How a damaged archive is described. -/
def damaged : String := "damaged gzip archive"

/-- What a reader of an artifact delivers: all the bytes that `Gzip.decompress?` gives, or a
    failure. -/
def deliveries (archive : List UInt8) : List Flow.Delivery :=
  match Gzip.decompress? archive with
  | some bytes => [.bytes bytes]
  | none => [.failed damaged]

/-- The records in the bytes of an artifact, by `Flow.Stream.decode` of its `deliveries`. -/
def ofBytes (archive : List UInt8) : Flow.Decoded :=
  Flow.Stream.decode { source := deliveries archive }

/-- The remark about an artifact that could not be opened. -/
def notReadable (path : String) (e : IoFailure) : Log.Note :=
  { level := .debug, component := .decoder, message := "artifact not readable",
    fields := [("path", .text path), ("error", .text e.message)] }

/-- The records of what stands at a path, by `ofBytes`: a directory can be opened but not read. -/
def ofNode (node : Node) : Flow.Decoded :=
  match Filesystem.contents node with
  | .ok bytes => ofBytes bytes
  | .error e => Flow.Stream.decode { source := [.failed e.message] }

/-- The records of the artifact at a path, by `ofNode`: there are none without a path, and none
    beside the remark `notReadable` where it cannot be opened. -/
def decode (fs : Filesystem) (path? : Option String) : Flow.Decoded :=
  match path?.filter (· ≠ "") with
  | none => { records := [] }
  | some path =>
    match fs.find path with
    | .error e => { records := [], notes := [notReadable path e] }
    | .ok node => ofNode node

end FlowDump.Artifact
