import FlowDump.Failure
import FlowDump.Files.Filesystem

/-!
# Writing a file at once

A document is written under another name and then renamed, so that a reader of the target finds
either what was there before or the whole document.

* `AtomicWrite.temporary` — the other name: the target with the extension `tmp`.
* `AtomicWrite.run` — make the directory of the target, write the other file, rename it.
-/

namespace FlowDump.AtomicWrite

/-- The path that a document is written to before it is renamed: `Path.withExtension` of the target.
    -/
def temporary (target : String) : String :=
  Path.withExtension target "tmp"

/-- The directory that the target lies in, if the path names one. -/
def directory? (target : String) : Option String :=
  (Path.parent? target).filter (· ≠ "")

/-- Make the `directory?` of the target, by `Filesystem.makeDirectories`. -/
def prepare (fs : Filesystem) (target : String) : Except Failure Unit × Filesystem :=
  match directory? target with
  | none => (.ok (), fs)
  | some directory =>
    match fs.makeDirectories directory with
    | (.ok (), fs) => (.ok (), fs)
    | (.error e, fs) => (.error (.createDirectory directory e.message), fs)

/-- Write the document at the `temporary` path and rename it. -/
def replace (fs : Filesystem) (target : String) (content : List UInt8) :
    Except Failure Unit × Filesystem :=
  match fs.write (temporary target) content with
  | (.error e, fs) => (.error (.writeFile target e.message), fs)
  | (.ok (), fs) =>
    match fs.rename (temporary target) target with
    | .error e => (.error (.writeFile target e.message), fs)
    | .ok fs => (.ok (), fs)

/-- Write a document to the target at once: `prepare` its directory, then `replace` what stands
    there. -/
def run (fs : Filesystem) (target : String) (content : List UInt8) :
    Except Failure Unit × Filesystem :=
  match prepare fs target with
  | (.error e, fs) => (.error e, fs)
  | (.ok (), fs) => replace fs target content

end FlowDump.AtomicWrite
