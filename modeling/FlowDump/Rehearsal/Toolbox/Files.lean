import FlowDump.Rehearsal.Toolbox.Writing
import FlowDump.Rehearsal.Tree

/-!
# Programs that change files

* `Toolbox.cp`, `Toolbox.mv`, `Toolbox.ln` — give files other places.
* `Toolbox.rm`, `Toolbox.rmdir`, `Toolbox.unlink` — take files and directories away.
* `Toolbox.mkdir`, `Toolbox.touch`, `Toolbox.truncate` — make them.
* `Toolbox.chmod` — say which files may be run.
-/

namespace FlowDump.Rehearsal.Toolbox

/-- A directory is not empty. -/
def notEmpty : SystemError := ⟨39⟩

/-- Change the system. -/
def alter (f : System → System) : Work Unit :=
  modify fun bench => { bench with system := f bench.system }

/-! ### Targets -/

/-- What is done with a file and the place that it is to have. -/
abbrev Placing := (source target : Octets) → Work UInt8

/-- A path in a directory. -/
def inDirectory (directory name : Octets) : Octets :=
  if directory.getLast? = some '/' then directory ++ name else directory ++ '/' :: name

/-- Place files in a directory. -/
def placeAll (step : Placing) (directory : Octets) (sources : List Octets) : Work UInt8 :=
  Work.forEach sources fun source => step source (inDirectory directory (lastPart source))

/-- The options that tell where files are placed. -/
def placingSwitches : List Switch :=
  [ { letters := "t", names := ["target-directory"], arity := .one },
    { letters := "T", names := ["no-target-directory"] },
    { letters := "S", names := ["suffix"], arity := .one },
    { letters := "f", names := ["force"] }, { letters := "i", names := ["interactive"] },
    { letters := "v", names := ["verbose"] }, { letters := "n", names := ["no-clobber"] },
    { letters := "b" }, { names := ["backup"], arity := .maybe } ]

/-- Place files as the options and operands say; a single operand is placed in the directory if
    `alone` says so. -/
def placing (o : Options) (alone : Bool) (step : Placing) : Work UInt8 := do
  let isDirectory (path : Octets) : Work (Except SystemError Bool) := do
    match ← Work.look path with
    | .ok node => return .ok (node = .directory)
    | .error e => return .error e
  match o.operands, o.value? "t" with
  | [], _ => Work.misused "missing file operand".toList
  | sources, some directory =>
    match ← isDirectory directory with
    | .ok true => placeAll step directory sources
    | .ok false =>
      Work.refuse (about ("target directory ".toList ++ quoted directory) .notADirectory)
    | .error e => Work.refuse (about ("target directory ".toList ++ quoted directory) e)
  | [source], none =>
    if alone then placeAll step ['.'] [source]
    else Work.misused ("missing destination file operand after ".toList ++ quoted source)
  | [source, target], none =>
    match (o.has "T" : Bool), ← isDirectory target with
    | false, .ok true => placeAll step target [source]
    | _, _ => step source target
  | first :: second :: third :: more, none =>
    if o.has "T" then extra third
    let all := first :: second :: third :: more
    let directory := all.getLast?.getD []
    match ← isDirectory directory with
    | .ok true => placeAll step directory all.dropLast
    | .ok false => Work.refuse (about ("target ".toList ++ quoted directory) .notADirectory)
    | .error e => Work.refuse (about ("target ".toList ++ quoted directory) e)

/-- Two names in a complaint. -/
def twoNames (source : Octets) (between : String) (target : Octets) : Octets :=
  quoted source ++ between.toList ++ quoted target

/-! ### Copies -/

/-- What the target of a copy or a move is like: there is nothing, or some entry. -/
inductive Place where
  | free
  | taken (node : Node) (l : Location)

/-- What the target of a copy or a move is like. -/
def targetOf (path : Octets) : Work (Except SystemError Place) := do
  match ← Work.look path, ← Work.place path with
  | .ok node, .ok l => return .ok (.taken node l)
  | .error e, _ => return if e = .notFound then .ok .free else .error e
  | _, .error e => return .error e

/-- Complain and go on with a code. -/
def failing (message : Octets) (code : UInt8 := 1) : Work UInt8 := do
  Work.complain message
  return code

/-- Copy the bytes of a file to a path. -/
def copyBytes (source : Location) (target : Octets) : Work UInt8 := do
  let s := (← get).system
  let refused (e : SystemError) : Work UInt8 :=
    failing (about ("cannot create regular file ".toList ++ quoted target) e)
  let isNew := (s.files.find (Octets.text target)).toOption.isNone
  if isNew ∧ target.getLast? = some '/' then refused .notADirectory
  else match s.openToWrite (Octets.text target) false false with
    | .error e => refused (cause e)
    | .ok (o, s) =>
      let (n, s) := s.add o
      match s.write n (s.contentsAt source) with
      | .error e => failing (about ("error writing ".toList ++ quoted target) e)
      | .ok s =>
        let runnable := match o.channel with
          | .file l => if isNew && s.runnable.contains source then l :: s.runnable else s.runnable
          | _ => s.runnable
        alter fun _ => { s with runnable }
        return 0

/-- Copy a directory to a path. -/
def copyDirectory (source : Octets) (l : Location) (target : Octets) : Work UInt8 := do
  match ← Work.place target with
  | .error e => failing (about ("cannot create directory ".toList ++ quoted target) e)
  | .ok m =>
    if l.isPrefixOf m then
      failing ("cannot copy a directory, ".toList ++ twoNames source ", into itself, " target)
    else
      alter fun s =>
        let files := if (s.files.node? m).isSome then s.files else s.files.put m .directory
        { s with files }.copyTree l m
      return 0

/-- Copy a file, or a directory if that is asked for. -/
def copyStep (o : Options) : Placing := fun source target => do
  match ← Work.look source, ← Work.place source with
  | .error e, _ | _, .error e => failing (about ("cannot stat ".toList ++ quoted source) e)
  | .ok node, .ok l =>
    if node = .directory ∧ !(o.has "r" || o.has "a") then
      failing ("-r not specified; omitting directory ".toList ++ quoted source)
    else
      let verbose : Work Unit := do
        if o.has "v" then Work.say (twoNames source " -> " target ++ ['\n'])
      match node, ← targetOf target with
      | _, .error e => failing (about ("cannot stat ".toList ++ quoted target) e)
      | node, .ok (.taken other m) =>
        if l = m ∧ node ≠ .directory then
          failing (twoNames source " and " target ++ " are the same file".toList)
        else if o.has "n" then return 0
        else match node, other with
          | .directory, .file _ =>
            failing ("cannot overwrite non-directory ".toList ++
              twoNames target " with directory " source)
          | .file _, .directory =>
            failing ("cannot overwrite directory ".toList ++ quoted target ++
              " with non-directory".toList)
          | .directory, .directory =>
            verbose
            copyDirectory source l target
          | .file _, .file _ =>
            verbose
            copyBytes l target
      | .directory, .ok .free =>
        verbose
        copyDirectory source l target
      | .file _, .ok .free =>
        verbose
        copyBytes l target

/-- Copy files. -/
def cp : Work UInt8 := do
  let o ← Options.read
    { switches := placingSwitches ++
        [ { letters := "rR", names := ["recursive"] }, { letters := "a", names := ["archive"] },
          { names := ["preserve"], arity := .maybe }, { names := ["update"], arity := .maybe },
          { names := ["sparse"], arity := .one }, { names := ["reflink"], arity := .maybe } ] ++
        flags "dHlLpPsuxZ" }
  placing o false (copyStep o)

/-! ### Moves -/

/-- Give a file or a directory another place. -/
def moveStep (o : Options) : Placing := fun source target => do
  match ← Work.look source, ← Work.place source with
  | .error e, _ | _, .error e => failing (about ("cannot stat ".toList ++ quoted source) e)
  | .ok node, .ok l =>
    let refused (e : SystemError) : Work UInt8 :=
      failing (about ("cannot move ".toList ++ twoNames source " to " target) e)
    let done (m : Location) : Work UInt8 := do
      alter fun s => s.moveTree l m
      if o.has "v" then Work.say ("renamed ".toList ++ twoNames source " -> " target ++ ['\n'])
      return 0
    let within (m : Location) : Work UInt8 :=
      if l.isPrefixOf m then
        failing ("cannot move ".toList ++ twoNames source " to a subdirectory of itself, " target)
      else done m
    if lastPart source = ['.'] ∨ lastPart source = "..".toList ∨ l = [] then refused .busy
    else match node, ← targetOf target with
      | _, .error e => failing (about ("cannot stat ".toList ++ quoted target) e)
      | node, .ok (.taken other m) =>
        if l = m then failing (twoNames source " and " target ++ " are the same file".toList)
        else if o.has "n" then failing ("not replacing ".toList ++ quoted target)
        else match node, other with
          | .directory, .file _ =>
            failing ("cannot overwrite non-directory ".toList ++
              twoNames target " with directory " source)
          | .file _, .directory =>
            failing ("cannot overwrite directory ".toList ++ quoted target ++
              " with non-directory".toList)
          | .directory, .directory =>
            if (← get).system.children m ≠ [] then
              failing (about ("cannot overwrite ".toList ++ quoted target) notEmpty)
            else within m
          | .file _, .file _ => done m
      | node, .ok .free =>
        match ← Work.place target with
        | .error e => refused e
        | .ok m =>
          if node = .directory then within m
          else if target.getLast? = some '/' then refused .notADirectory
          else done m

/-- Move files and directories. -/
def mv : Work UInt8 := do
  let o ← Options.read
    { switches := placingSwitches ++
        [{ letters := "u", names := ["update"] }, { letters := "Z" }] }
  placing o false (moveStep o)

/-! ### Links -/

/-- Let a file be in another place as well. -/
def linkStep (o : Options) : Placing := fun source target => do
  match ← Work.look source, ← Work.place source with
  | .error e, _ | _, .error e => failing (about ("failed to access ".toList ++ quoted source) e)
  | .ok .directory, _ =>
    failing (quotedIfNeeded source ++ ": hard link not allowed for directory".toList)
  | .ok (.file _), .ok l =>
    let refused (e : SystemError) : Work UInt8 :=
      let names := if e = .alreadyExists then quoted target else twoNames target " => " source
      failing (about ("failed to create hard link ".toList ++ names) e)
    let done (m : Location) : Work UInt8 := do
      alter fun s => (s.removeTree m).copyTree l m
      if o.has "v" then Work.say (twoNames target " => " source ++ ['\n'])
      return 0
    match ← targetOf target with
    | .error e => refused e
    | .ok (.taken _ m) =>
      if !o.has "f" then refused .alreadyExists
      else if l = m then failing (twoNames source " and " target ++ " are the same file".toList)
      else done m
    | .ok .free =>
      match ← Work.place target with
      | .error e => refused e
      | .ok m => if target.getLast? = some '/' then refused .notFound else done m

/-- Let files be in other places as well. -/
def ln : Work UInt8 := do
  let o ← Options.read { switches := placingSwitches ++ flags "dFLPrs" }
  placing o true (linkStep o)

/-! ### Removal -/

/-- Tell that an entry was removed. -/
def removedText (o : Octets) (node : Node) : Octets :=
  (if node = .directory then "removed directory " else "removed ").toList ++ quoted o ++ ['\n']

/-- What is told of a directory with all that is in it; at most `fuel` levels of it. -/
def removedAll (s : System) : (fuel : Nat) → Octets → Location → Octets
  | 0, _, _ => []
  | fuel + 1, o, l =>
    match s.files.node? l with
    | some .directory =>
      (s.children l).flatMap (fun name =>
        removedAll s fuel (inDirectory o (Octets.ofText name)) (l ++ [name])) ++
      removedText o .directory
    | some node => removedText o node
    | none => []

/-- Whether a file is kept: asked for leave, the input does not start with a yes. -/
def keeps (o : Options) (path : Octets) (node : Node) : Work Bool := do
  if o.last? ["i", "f"] ≠ some "i" then return false
  let kind := match node with
    | .directory => "directory "
    | .file [] => "regular empty file "
    | .file _ => "regular file "
  let name := (← read).name
  Work.warn (name ++ ": remove ".toList ++ kind.toList ++ quoted path ++ "? ".toList)
  match ← Work.channel? 0 with
  | none => return true
  | some n =>
    let (line, system) := (← get).system.readLine n
    alter fun _ => system
    return match Octets.ofBytes line with
      | c :: _ => c ≠ 'y' ∧ c ≠ 'Y'
      | [] => true

/-- Remove files, and directories if that is asked for. -/
def rm : Work UInt8 := do
  let o ← Options.read
    { switches :=
        [ { letters := "rR", names := ["recursive"] }, { letters := "f", names := ["force"] },
          { letters := "d", names := ["dir"] }, { letters := "v", names := ["verbose"] },
          { letters := "i" }, { letters := "I" }, { names := ["interactive"], arity := .maybe },
          { names := ["preserve-root"], arity := .maybe }, { names := ["no-preserve-root"] },
          { names := ["one-file-system"] } ] }
  if o.operands = [] then
    if o.has "f" then return 0
    Work.misused "missing operand".toList
  Work.forEach o.operands fun path => do
    let refused (e : SystemError) : Work UInt8 :=
      failing (about ("cannot remove ".toList ++ quoted path) e)
    match ← Work.look path, ← Work.place path with
    | .error e, _ | _, .error e =>
      if o.has "f" ∧ (e = .notFound ∨ e = .notADirectory) then return 0 else refused e
    | .ok node, .ok l =>
      let last := lastPart path
      if node = .directory ∧ o.has "r" then
        if last = ['.'] ∨ last = "..".toList then
          failing ("refusing to remove '.' or '..' directory: skipping ".toList ++ quoted path)
        else if l = [] then
          Work.complain ("it is dangerous to operate recursively on ".toList ++ quoted path)
          failing "use --no-preserve-root to override this failsafe".toList
        else
          let s := (← get).system
          if o.has "v" then Work.say (removedAll s (s.files.nodes.length + 1) path l)
          alter fun s => s.removeTree l
          return 0
      else if node = .directory ∧ !o.has "d" then refused .isADirectory
      else if node = .directory ∧ (← get).system.children l ≠ [] then refused notEmpty
      else if ← keeps o path node then return 0
      else
        alter fun s => s.removeTree l
        if o.has "v" then Work.say (removedText path node)
        return 0

/-- Remove an empty directory. -/
def removeDirectory (o : Options) (path : Octets) : Work UInt8 := do
  if o.has "v" then Work.say ("rmdir: removing directory, ".toList ++ quoted path ++ ['\n'])
  let refused (e : SystemError) : Work UInt8 :=
    failing (about ("failed to remove ".toList ++ quoted path) e)
  match ← Work.look path, ← Work.place path with
  | .error e, _ | _, .error e => refused e
  | .ok (.file _), _ => refused .notADirectory
  | .ok .directory, .ok l =>
    if lastPart path = ['.'] then refused ⟨22⟩
    else if (← get).system.children l ≠ [] then
      if o.has "ignore-fail-on-non-empty" then return 0 else refused notEmpty
    else
      alter fun s => s.removeTree l
      return 0

/-- A path and the paths above it that it names, at most `fuel` of them. -/
def pathsUp : (fuel : Nat) → Octets → List Octets
  | 0, _ => []
  | fuel + 1, path =>
    let above := parentPart path
    path :: if above = ['.'] ∨ above = ['/'] then [] else pathsUp fuel above

/-- Remove empty directories. -/
def rmdir : Work UInt8 := do
  let o ← Options.read
    { switches :=
        [ { letters := "p", names := ["parents"] }, { letters := "v", names := ["verbose"] },
          { names := ["ignore-fail-on-non-empty"] } ] }
  if o.operands = [] then Work.misused "missing operand".toList
  Work.forEach o.operands fun path => do
    let paths := if o.has "p" then pathsUp path.length path else [path]
    let mut code := 0
    for path in paths do
      if code = 0 then code := max code (← removeDirectory o path)
    return code

/-- Remove a file. -/
def unlink : Work UInt8 := do
  let o ← Options.read { switches := [] }
  match o.operands with
  | [] => Work.misused "missing operand".toList
  | _ :: more :: _ => extra more
  | [path] =>
    match ← Work.change fun fs => fs.removeFile (Octets.text path) with
    | .ok () => return 0
    | .error e => failing (about ("cannot unlink ".toList ++ quoted path) e)

/-! ### New entries -/

/-- Make directories. -/
def mkdir : Work UInt8 := do
  let o ← Options.read
    { switches :=
        [ { letters := "p", names := ["parents"] }, { letters := "v", names := ["verbose"] },
          { letters := "m", names := ["mode"], arity := .one }, { letters := "Z" } ] }
  if o.operands = [] then Work.misused "missing operand".toList
  Work.forEach o.operands fun path => do
    let refused (path : Octets) (e : SystemError) : Work UInt8 :=
      failing (about ("cannot create directory ".toList ++ quoted path) e)
    let make (path : Octets) : Work (Except SystemError Unit) := do
      let result ← Work.change fun fs => fs.makeDirectory (Octets.text path)
      if result.toOption.isSome ∧ o.has "v" then
        Work.say ((← read).name ++ ": created directory ".toList ++ quoted path ++ ['\n'])
      return result
    if !o.has "p" then
      match ← make path with
      | .ok () => return 0
      | .error e => refused path e
    else
      let mut code := 0
      for part in (pathsUp path.length path).reverse do
        if code = 0 then
          match ← Work.look part with
          | .ok .directory => pure ()
          | .ok (.file _) =>
            code := ← refused part (if part = path then .alreadyExists else .notADirectory)
          | .error _ =>
            match ← make part with
            | .ok () => pure ()
            | .error e => code := ← refused part e
      if path = [] then code := ← refused path .notFound
      return code

/-- Make empty files where there is nothing. -/
def touch : Work UInt8 := do
  let o ← Options.read
    { switches :=
        [ { letters := "c", names := ["no-create"] },
          { letters := "d", names := ["date"], arity := .one },
          { letters := "r", names := ["reference"], arity := .one },
          { letters := "t", arity := .one }, { names := ["time"], arity := .one } ] ++
        flags "afhm" }
  if o.operands = [] then Work.misused "missing file operand".toList
  Work.forEach o.operands fun path => do
    match ← Work.look path with
    | .ok _ => return 0
    | .error e =>
      if o.has "c" then return 0
      else if e = .notFound ∧ path ≠ [] ∧ path.getLast? = some '/' ∧
          (← Work.place path).toOption.isSome then
        failing (about ("setting times of ".toList ++ quoted path) e)
      else match ← Work.change fun fs => fs.create (Octets.text path) with
        | .ok () => return 0
        | .error e => failing (about ("cannot touch ".toList ++ quoted path) e)

/-- The number of bytes that a text asks for, with a letter for a power of 1024. -/
def size? (o : Octets) : Option Nat :=
  let digits := o.takeWhile Char.isDigit
  let value := (Format.digits 10 digits.length 0 0 digits).2.1
  if digits = [] then none
  else match String.ofList (o.drop digits.length) with
    | "" => some value
    | "b" => some (value * 512)
    | "k" | "K" | "KiB" => some (value * 1024)
    | "kB" | "KB" => some (value * 1000)
    | "M" | "m" | "MiB" => some (value <<< 20)
    | "MB" => some (value * 1000000)
    | "G" | "GiB" => some (value <<< 30)
    | _ => none

/-- Give files a size. -/
def truncate : Work UInt8 := do
  let o ← Options.read
    { switches :=
        [ { letters := "c", names := ["no-create"] },
          { letters := "s", names := ["size"], arity := .one }, { letters := "o" },
          { letters := "r", names := ["reference"], arity := .one } ] }
  let (sign, digits) ← match o.value? "s" with
    | none => Work.misused "you must specify either '--size' or '--reference'".toList
    | some value =>
      match value with
      | '+' :: digits => pure ('+', digits)
      | '-' :: digits => pure ('-', digits)
      | digits => pure (' ', digits)
  let n ← match size? digits with
    | some n => pure n
    | none => Work.refuse ("Invalid number: ".toList ++ quoted digits)
  if o.operands = [] then Work.misused "missing file operand".toList
  Work.forEach o.operands fun path => do
    let s := (← get).system
    match s.openToWrite (Octets.text path) true false with
    | .error e =>
      failing (about ("cannot open ".toList ++ quoted path ++ " for writing".toList) (cause e))
    | .ok (o, s) =>
      match o.channel with
      | .file l =>
        let old := s.contentsAt l
        let n := if sign = '+' then old.length + n else if sign = '-' then old.length - n else n
        let bytes := old.take n ++ List.replicate (n - old.length) 0
        alter fun _ => { s with files := s.files.put l (.file bytes) }
      | _ => pure ()
      return 0

/-! ### Rights -/

/-- Whether a file may be run after a change of its rights that is written in a word; `none` if the
    word is none. -/
def rights? (mode : Octets) (before : Bool) : Option Bool :=
  if mode ≠ [] ∧ mode.all fun c => '0' ≤ c ∧ c ≤ '7' then
    let n := (Format.digits 8 mode.length 0 0 mode).2.1
    if n ≤ 4095 then some (n &&& 73 ≠ 0) else none
  else
    (mode.splitOn ',').foldl
      (fun before? clause => do
        let before ← before?
        let who := clause.takeWhile (· ∈ "ugoa".toList)
        match clause.drop who.length with
        | sign :: letters =>
          if letters.all (· ∈ "rwxXstugo".toList) then
            let runs := 'x' ∈ letters
            match sign with
            | '+' => some (before || runs)
            | '-' => some (before && !(runs && (who = [] || 'a' ∈ who || 'u' ∈ who)))
            | '=' => some runs
            | _ => none
          else none
        | [] => none)
      (some before)

/-- Say which files may be run. -/
def chmod : Work UInt8 := do
  let call ← read
  let isMode (o : Octets) : Bool := match o with
    | '-' :: rest => rest ≠ [] && rest.all (· ∈ "rwxXst".toList)
    | _ => false
  -- a dash may start a mode
  let arguments := if call.arguments.any isMode then "--".toList :: call.arguments
    else call.arguments
  let o ← withReader (fun call => { call with arguments }) (Options.read
    { switches :=
        [ { letters := "R", names := ["recursive"] }, { letters := "v", names := ["verbose"] },
          { letters := "c", names := ["changes"] },
          { letters := "f", names := ["silent", "quiet"] },
          { names := ["reference"], arity := .one } ] })
  match o.operands with
  | [] => Work.misused "missing operand".toList
  | mode :: paths =>
    if (rights? mode false).isNone then Work.misused ("invalid mode: ".toList ++ quoted mode)
    if paths = [] then Work.misused ("missing operand after ".toList ++ quoted mode)
    Work.forEach paths fun path => do
      match ← Work.look path, ← Work.place path with
      | .error e, _ | _, .error e => failing (about ("cannot access ".toList ++ quoted path) e)
      | .ok node, .ok l =>
        if node ≠ .directory then
          alter fun s =>
            let others := s.runnable.filter (· ≠ l)
            let runs := (rights? mode (s.runnable.contains l)).getD false
            { s with runnable := if runs then l :: others else others }
        return 0

end FlowDump.Rehearsal.Toolbox
