import FlowDump.CommandLine.Run

/-!
# The program

Reads the arguments, the environment and the files that they name, runs the invocation, and writes
what it leaves.  Artifacts are decoded for real; there is no driver for databases, so that every
server counts as one that cannot be reached.
-/

namespace FlowDump.CommandLine

/-- A site without servers and programs, on which no time passes. -/
def offline : Site Unit :=
  { now := pure default
    interrupted := pure false
    identity := pure default
    run := fun _ _ => pure (.error (.system .notFound))
    register := fun _ => pure (.ok ())
    server :=
      { misnamed := fun url => "not the address of a database: " ++ url
        connect := fun _ => pure (.error "there is no driver for databases")
        ask := fun _ _ => pure (.error "the connection is closed")
        mismatched := fun _ _ => "the reply is of the wrong kind"
        listen := fun _ _ _ => pure (.failed "the connection is closed") } }

/-- What stands at a path, if it can be read. -/
def entryAt (path : String) : IO (Option Node) := do
  try
    let place ← IO.FS.realPath path
    if ← place.isDir then return some .directory
    let bytes ← IO.FS.readBinFile place
    return some (.file bytes.data.toList)
  catch _ => return none

/-- Take what stands at a path over into a filesystem. -/
def takeOver (fs : Filesystem) (path : String) : IO Filesystem := do
  match fs.locate path with
  | .ok (.entry parent name _) =>
    match ← entryAt path with
    | some node => return fs.put (parent ++ [name]) node
    | none => return fs
  | _ => return fs

/-- The paths that lead to a path, from the top down. -/
def leadingPaths (path : String) : List String :=
  let parts := Path.parts path
  let root := if Path.isAbsolute path then "/" else ""
  (List.range parts.length).map fun n => root ++ "/".intercalate (parts.take (n + 1))

/-- A filesystem with what stands at some paths. -/
def takeOverAll (paths : List String) : IO Filesystem :=
  (paths.flatMap leadingPaths).foldlM takeOver { nodes := [], here := [] }

/-- Run the program with the given environment. -/
def runProgram (configPath? filter? : Option String) (words : List String) : IO Finish := do
  match Arguments.parse configPath? words with
  | .error .help => return .help
  | .error .refused => return .refused
  | .ok i =>
    let files ← takeOverAll (inputs i)
    match launch offline filter? i 0 { files, outside := () } with
    | none => return .refused
    | some ended =>
      for line in ended.lines do
        IO.eprintln line
      return ended.finish

end FlowDump.CommandLine

/-- The program. -/
def main (words : List String) : IO UInt32 := do
  let configPath? ← IO.getEnv "FLOWDUMP_CONFIG"
  let filter? ← IO.getEnv "RUST_LOG"
  let finish ← FlowDump.CommandLine.runProgram configPath? filter? words
  IO.print finish.output
  match finish with
  | .refused => IO.eprintln "error: invalid arguments, try --help"
  | _ =>
    if let some line := finish.complaint? then
      IO.eprintln line
  return finish.exitCode.toUInt32
