import FlowDump.Rehearsal.Shell.Token

/-!
# Reading scripts

* `Read.pieces` — the pieces of a word, in quotes or not.
* `Read.token` — the next token.
* `Read.list` — commands one after the other.
* `Read.line?` — the commands of one line, which are read as a whole before any of them is run.

Every reading is given `fuel`, of which it takes one for each character, token or command, and each
nested reading takes as much as it needs of what is left.
-/

namespace FlowDump.Rehearsal.Shell

/-! ### Contexts -/

/-- Where the pieces of a word stand. -/
inductive Context where
  | word
  /-- In the braces of a parameter. -/
  | braces
  | quotes
  /-- In the braces of a parameter in quotes, and maybe in quotes of their own. -/
  | quotedBraces (inner : Bool)
  | document (d : Delimiter)
  | documentBraces (inner : Bool)
  /-- In an arithmetic expression, in so many brackets. -/
  | arithmetic (depth : Nat)
  deriving Inhabited

namespace Context

/-- Whether what stands there is quoted. -/
def isQuoting : Context → Bool
  | word | braces => false
  | _ => true

/-- A character that stands for itself. -/
def piece (x : Context) (c : Char) : Piece :=
  if x.isQuoting then .quoted c else .plain c

/-- The context of the word that an operation takes. -/
def operand (x : Context) (isTrim : Bool) : Context :=
  match isTrim, x with
  | true, _ => braces
  | _, word | _, braces => braces
  | _, document _ | _, documentBraces _ => documentBraces false
  | _, _ => quotedBraces false

/-- Whether a backslash before a character only quotes it; else it stands for itself. -/
def isEscape (x : Context) (c : Char) : Bool :=
  match x with
  | word | braces => true
  | quotedBraces _ | documentBraces _ => c ∈ ['\\', '`', '$', '"', '\x7d']
  | document _ => c ∈ ['\\', '`', '$']
  | quotes | arithmetic _ => c ∈ ['\\', '`', '$', '"']

/-- The complaint about a text that ends there, if it may not. -/
def unfinished? : Context → Option String
  | word | document _ => none
  | braces | documentBraces _ => some "Missing '\x7d'"
  | quotes | quotedBraces _ => some "Unterminated quoted string"
  | arithmetic _ => some "Missing '))'"

end Context

/-- The characters that end a word. -/
def wordEnds : List Char := ['<', '>', '(', ')', ';', '&', '|', ' ', '\t', '\n']

/-- The parameters with a name of one character that is no letter. -/
def specialNames : List Char := ['!', '#', '$', '-', '?', '*', '@']

/-- Whether a name may start with a character. -/
def startsName (c : Char) : Bool := c.isAlpha || c = '_'

/-- Whether a character may stand in a name. -/
def isInName (c : Char) : Bool := c.isAlphanum || c = '_'

/-- What a character after the name of a parameter asks for; after a colon an empty value counts as
    missing. -/
def substitute? (orEmpty : Bool) : Char → Option Operation
  | '-' => some (.substitute .fallback orEmpty)
  | '=' => some (.substitute .assign orEmpty)
  | '?' => some (.substitute .complain orEmpty)
  | '+' => some (.substitute .replace orEmpty)
  | _ => none

/-- Whether a word holds anything quoted. -/
def hasQuotes (w : Word) : Bool :=
  w.any fun
    | .quoted _ => true
    | .mark => true
    | _ => false

/-- The text of a delimiter, without its quotes. -/
def delimiterText (w : Word) : Octets :=
  w.filterMap fun
    | .plain c => some c
    | .quoted c => some c
    | _ => none

/-- The characters of a literal text between its quotes. -/
def inMarks (text : Octets) : Word := .mark :: text.map .quoted ++ [.mark]

namespace Read

/-- What the character after the name of a parameter asks for, from that character on.  The second
    part tells whether the operation takes a word; without one the closing brace has been passed
    over. -/
def operation : Read (Operation × Bool) := do
  match ← peek with
  | none => return (.unknown, true)
  | some '\x7d' =>
    drop
    return (.value, false)
  | some ':' =>
    drop
    match ← peek with
    | none => return (.unknown, true)
    | some c =>
      -- the brace does not close anything here
      drop
      return ((substitute? true c).getD .unknown, true)
  | some '%' =>
    drop
    return (.trim true (← dropIf '%'), true)
  | some '#' =>
    drop
    return (.trim false (← dropIf '#'), true)
  | some c =>
    drop
    return ((substitute? false c).getD .unknown, true)

/-- The arrow of a redirection. -/
def arrow : Read Arrow := do
  if ← dropIf '>' then
    if ← dropIf '>' then return .file .append
    else if ← dropIf '|' then return .file .overwrite
    else if ← dropIf '&' then return .same
    else return .file .write
  else
    drop
    if ← dropIf '<' then return .document (← dropIf '-')
    else if ← dropIf '&' then return .same
    else if ← dropIf '>' then return .file .both
    else return .file .read

/-- Add a document whose text is still to come. -/
def await (stripsTabs : Bool) (w : Word) : Read Nat := do
  let r ← get
  let number := r.nextDocument
  let awaited : Awaited :=
    { number, delimiter := { text := delimiterText w, stripsTabs }, isRaw := hasQuotes w }
  set { r with nextDocument := number + 1, awaited := r.awaited ++ [awaited] }
  return number

/-- Take down the text of a document. -/
def keepDocument (number : Nat) (text : Word) : Read Unit :=
  modify fun r => { r with documents := (number, text) :: r.documents }

/-- The text of an alias, if a word is one whose text is not being read. -/
def alias? (w : Word) : Read (Option Octets) := do
  let r ← get
  let active := r.inUse.filter fun a => a.2 < r.rest.length
  set { r with inUse := active }
  match Word.plain? w with
  | none => return none
  | some name =>
    if active.any fun a => a.1 = name then return none
    else match r.aliases.find? fun a => a.1 = name with
      | none => return none
      | some (_, text) =>
        modify fun r =>
          { r with rest := text ++ r.rest, inUse := (name, r.rest.length) :: r.inUse }
        return some text

/-- A mark of one or two characters, from its first one. -/
def mark : Char → Read Token
  | '&' => do return if ← dropIf '&' then .and else .ampersand
  | '|' => do return if ← dropIf '|' then .or else .bar
  | ';' => do return if ← dropIf ';' then .endCase else .semicolon
  | '(' => return .left
  | ')' => return .right
  | _ => return .newline

mutual

/-- The pieces of a word up to its end, after some pieces, the last of which comes first. -/
def pieces : (fuel : Nat) → Context → (done : Word) → Read Word
  | 0, _, _ => fail "too long"
  | fuel + 1, x, done => do
    match ← peek with
    | none =>
      match x.unfinished? with
      | some complaint => fail complaint
      | none => return done.reverse
    | some '\n' =>
      match x with
      | .word => return done.reverse
      | .document d =>
        drop
        if ← closes d then return (.quoted '\n' :: done).reverse
        pieces fuel x (.quoted '\n' :: done)
      | _ =>
        drop
        pieces fuel x (x.piece '\n' :: done)
    | some '\\' =>
      drop
      match (← get).rest.head? with
      | none => pieces fuel x (.quoted '\\' :: done)
      | some c =>
        drop
        if x.isEscape c then pieces fuel x (.quoted c :: done)
        else pieces fuel x (.quoted c :: .quoted '\\' :: done)
    | some '\'' =>
      drop
      if x.isQuoting then pieces fuel x (.quoted '\'' :: done)
      else
        let text ← quotedText
        pieces fuel x ((inMarks text).reverse ++ done)
    | some '"' =>
      drop
      match x with
      | .quotes => return done.reverse
      | .quotedBraces inner => pieces fuel (.quotedBraces !inner) (.mark :: done)
      | .documentBraces inner => pieces fuel (.documentBraces !inner) done
      | .document _ | .arithmetic _ => pieces fuel x (.quoted '"' :: done)
      | .word | .braces =>
        let text ← pieces fuel .quotes []
        pieces fuel x (.mark :: text.reverse ++ .mark :: done)
    | some '$' =>
      drop
      let p ← dollar fuel x
      pieces fuel x (p :: done)
    | some '`' =>
      drop
      if (← get).expected.delimiter then pieces fuel x (x.piece '`' :: done)
      else
        let p ← backquotes fuel x
        pieces fuel x (p :: done)
    | some '\x7d' =>
      match x with
      | .braces | .quotedBraces false | .documentBraces false =>
        drop
        return done.reverse
      | _ =>
        drop
        pieces fuel x (x.piece '\x7d' :: done)
    | some c =>
      match x with
      | .word =>
        if c ∈ wordEnds then return done.reverse
        else
          drop
          pieces fuel x (.plain c :: done)
      | .arithmetic depth =>
        drop
        if c = '(' then pieces fuel (.arithmetic (depth + 1)) (.quoted c :: done)
        else if c = ')' then
          match depth with
          | depth + 1 => pieces fuel (.arithmetic depth) (.quoted c :: done)
          | 0 =>
            if ← dropIf ')' then return done.reverse
            else pieces fuel x (.quoted c :: done)
        else pieces fuel x (.quoted c :: done)
      | _ =>
        drop
        pieces fuel x (x.piece c :: done)

/-- What a dollar sign stands for, from after it. -/
def dollar : (fuel : Nat) → Context → Read Piece
  | 0, _ => fail "too long"
  | fuel + 1, x => do
    if (← get).expected.delimiter then return x.piece '$'
    let inQuotes := x.isQuoting
    match ← peek with
    | some '(' =>
      drop
      if ← dropIf '(' then
        return .arithmetic (← pieces fuel (.arithmetic 0) []) inQuotes
      else return .output (← nested fuel true) inQuotes
    | some '\x7b' =>
      drop
      let (name, operation, takesWord) ← braced
      let isTrim := match operation with
        | .trim _ _ => true
        | _ => false
      let word ← if takesWord then pieces fuel (x.operand isTrim) [] else pure []
      return .parameter name operation word inQuotes
    | some c =>
      if startsName c then
        return .parameter (← takeWhile isInName (fuel + 1)) .value [] inQuotes
      else if c.isDigit ∨ c ∈ specialNames then
        drop
        return .parameter [c] .value [] inQuotes
      else return x.piece '$'
    | none => return x.piece '$'
where
  /-- The name of a parameter in braces and what is asked for. -/
  braced : Read (Octets × Operation × Bool) := do
    let named (isKind : Char → Bool) : Read Octets := do
      takeWhile isKind ((← get).rest.length + 1)
    match ← peek with
    | none => return ([], .unknown, true)
    | some '\x7d' => return ([], .unknown, true)
    | some '#' =>
      drop
      match ← peek with
      | none => return (['#'], .unknown, true)
      | some c =>
        if isInName c then
          let name ← named (if c.isDigit then Char.isDigit else isInName)
          let closed := (← peek) = some '\x7d'
          return (name, if closed then .length else .unknown, true)
        else
          drop
          let closed := (← peek) = some '\x7d'
          if c ≠ '\x7d' ∧ closed then
            return ([c], if c ∈ specialNames then .length else .unknown, true)
          else
            -- the sign is a name itself
            modify fun r => { r with rest := c :: r.rest }
            let (operation, takesWord) ← operation
            return (['#'], operation, takesWord)
    | some c =>
      if startsName c ∨ c.isDigit then
        let name ← named (if c.isDigit then Char.isDigit else isInName)
        let (operation, takesWord) ← operation
        return (name, operation, takesWord)
      else
        drop
        if c ∈ specialNames then
          let (operation, takesWord) ← operation
          return ([c], operation, takesWord)
        else return ([c], .unknown, true)

/-- The command whose output is asked for by back quotes, from after the first one.  It is read on
    its own, from its own first line on. -/
def backquotes : (fuel : Nat) → Context → Read Piece
  | 0, _ => fail "too long"
  | fuel + 1, x => do
    let text ← backquoted x.isQuoting (fuel + 1)
    let outer ← get
    set { outer with rest := text, line := 1 }
    let command ← nested fuel false
    modify fun r => { r with rest := outer.rest, line := outer.line }
    return .output command x.isQuoting

/-- The commands up to a closing bracket, or to the end of the text. -/
def nested : (fuel : Nat) → (inBrackets : Bool) → Read Command
  | 0, _ => fail "too long"
  | fuel + 1, inBrackets => do
    let awaited := (← get).awaited
    modify fun r => { r with awaited := [], again := false }
    let command ← list fuel false true .nothing
    if inBrackets then
      let t ← token fuel
      if t ≠ .right then unexpected t (some .right)
      -- documents have no text that has not come before the bracket
      for a in (← get).awaited do keepDocument a.number []
    modify fun r => { r with awaited, again := false }
    return command

/-- The texts of the documents that start here. -/
def documents : (fuel : Nat) → List Awaited → Read Unit
  | 0, _ => fail "too long"
  | _ + 1, [] => return
  | fuel + 1, a :: others => do
    let text ←
      if a.isRaw then pure (Word.quotedText (← rawDocument a.delimiter (fuel + 1)))
      else if ← closes a.delimiter then pure []
      else pieces fuel (.document a.delimiter) []
    keepDocument a.number text
    documents fuel others

/-- The texts of all documents that are awaited. -/
def awaitedDocuments : (fuel : Nat) → Read Unit
  | 0 => fail "too long"
  | fuel + 1 => do
    let awaited := (← get).awaited
    modify fun r => { r with awaited := [] }
    documents fuel awaited

/-- The next word or mark, whatever is looked for. -/
def next : (fuel : Nat) → Read Token
  | 0 => fail "too long"
  | fuel + 1 => do
    let r ← get
    if r.again then
      set { r with again := false }
      return r.last
    let t ← match ← peek with
      | none => pure Token.finish
      | some c =>
        if c = ' ' ∨ c = '\t' then
          drop
          next fuel
        else if c = '#' then
          modify fun r => { r with rest := r.rest.dropWhile (· ≠ '\n') }
          next fuel
        else if c ∈ wordEnds ∧ c ≠ '<' ∧ c ≠ '>' then
          drop
          mark c
        else
          let w ← pieces fuel .word []
          let c? ← peek
          let isDescriptor : Bool := match w with
            | [] => true
            | [.plain d] => d.isDigit
            | _ => false
          if isDescriptor ∧ (c? = some '<' ∨ c? = some '>') then
            let usual := if c? = some '<' then 0 else 1
            let descriptor := match w with
              | [.plain d] => d.toNat - 48
              | _ => usual
            let arrow ← arrow
            modify fun r => { r with descriptor, arrow }
            pure .redirection
          else
            modify fun r => { r with word := w }
            pure .word
    modify fun r => { r with last := t }
    return t

/-- The next token that is no end of a line, from one on. -/
def pastNewlines : (fuel : Nat) → Token → Read Token
  | 0, _ => fail "too long"
  | fuel + 1, t => do
    if t ≠ .newline then return t
    awaitedDocuments fuel
    expect {}
    pastNewlines fuel (← next fuel)

/-- The next token. -/
def token : (fuel : Nat) → Read Token
  | 0 => fail "too long"
  | fuel + 1 => do
    let expected := (← get).expected
    let t ← next fuel
    let t ← if expected.newlines then pastNewlines fuel t else pure t
    expect {}
    let w := (← get).word
    if t ≠ .word ∨ hasQuotes w then return t
    let reserved? := if expected.reserved then (Word.plain? w).bind Shell.reserved? else none
    match reserved? with
    | some r =>
      modify fun s => { s with last := .reserved r }
      return .reserved r
    | none =>
      if expected.aliases ∧ (← alias? w).isSome then
        expect expected
        token fuel
      else return t

/-- Commands one after the other, after some that have been read.  On the top level they end with
    the line; else they end before a token that ends a list, once the list has `started`. -/
def list : (fuel : Nat) → (onTop started : Bool) → Command → Read Command
  | 0, _, _, _ => fail "too long"
  | fuel + 1, onTop, started, before => do
    expect { newlines := !onTop, reserved := true, aliases := true }
    let t ← token fuel
    if t = .newline then
      awaitedDocuments fuel
      return before
    if t = .finish then
      awaitedDocuments fuel
      putBack
      return before
    putBack
    if started ∧ !onTop ∧ t.endsList then return before
    let line := (← get).line
    let command ← andOr fuel
    let t ← token fuel
    let command := if t = .ampersand then .background line command [] else command
    let all := match before with
      | .nothing => command
      | _ => .sequence before command
    if t = .finish then
      awaitedDocuments fuel
      putBack
      return all
    else if t = .newline then
      putBack
      list fuel onTop true all
    else if t = .ampersand ∨ t = .semicolon then list fuel onTop true all
    else if onTop then unexpected t
    else
      putBack
      return all

/-- Pipelines of which each one depends on those before it. -/
def andOr : (fuel : Nat) → Read Command
  | 0 => fail "too long"
  | fuel + 1 => do andOrAfter fuel (← pipeline fuel)

/-- The pipelines that depend on a command. -/
def andOrAfter : (fuel : Nat) → Command → Read Command
  | 0, _ => fail "too long"
  | fuel + 1, before => do
    let t ← token fuel
    if t = .and ∨ t = .or then
      expect { newlines := true, reserved := true, aliases := true }
      let command ← pipeline fuel
      andOrAfter fuel (if t = .and then .both before command else .either before command)
    else
      putBack
      return before

/-- Commands of which each one reads what the one before it writes. -/
def pipeline : (fuel : Nat) → Read Command
  | 0 => fail "too long"
  | fuel + 1 => do
    let t ← token fuel
    let isNegated := t = .reserved .bang
    if isNegated then expect { reserved := true, aliases := true } else putBack
    let first ← command fuel
    let parts ← pipelineAfter fuel [first]
    let all := match parts with
      | [only] => only
      | parts => .pipeline parts
    return if isNegated then .negated all else all

/-- The rest of a pipeline. -/
def pipelineAfter : (fuel : Nat) → List Command → Read (List Command)
  | 0, _ => fail "too long"
  | fuel + 1, parts => do
    let t ← token fuel
    if t = .bar then
      expect { newlines := true, reserved := true, aliases := true }
      let c ← command fuel
      pipelineAfter fuel (parts ++ [c])
    else
      putBack
      return parts

/-- The next token has to be a certain one. -/
def require : (fuel : Nat) → Token → Read Unit
  | 0, _ => fail "too long"
  | fuel + 1, wanted => do
    let t ← token fuel
    if t ≠ wanted then unexpected t (some wanted)

/-- One command. -/
def command : (fuel : Nat) → Read Command
  | 0 => fail "too long"
  | fuel + 1 => do
    let line := (← get).line
    let t ← token fuel
    match t with
    | .reserved .if =>
      let c ← ifThen fuel
      require fuel (.reserved .fi)
      redirected fuel line c
    | .reserved .while =>
      let c ← loop fuel false
      redirected fuel line c
    | .reserved .until =>
      let c ← loop fuel true
      redirected fuel line c
    | .reserved .for =>
      let c ← each fuel line
      redirected fuel line c
    | .reserved .case =>
      require fuel .word
      let word := (← get).word
      expect { newlines := true, reserved := true, aliases := true }
      require fuel (.reserved .in)
      let all ← cases fuel
      redirected fuel line (.select line word all)
    | .left =>
      let body ← list fuel false false .nothing
      require fuel .right
      redirected fuel line (.subshell line body [])
    | .reserved .open =>
      let body ← list fuel false false .nothing
      require fuel (.reserved .close)
      redirected fuel line body
    | .word | .redirection =>
      putBack
      simple fuel (← get).line true [] [] []
    | t => unexpected t

/-- The rest of a choice, up to its end. -/
def ifThen : (fuel : Nat) → Read Command
  | 0 => fail "too long"
  | fuel + 1 => do
    let condition ← list fuel false false .nothing
    require fuel (.reserved .then)
    let body ← list fuel false false .nothing
    let t ← token fuel
    if t = .reserved .elif then return .choice condition body (← ifThen fuel)
    else if t = .reserved .else then
      return .choice condition body (← list fuel false false .nothing)
    else
      putBack
      return .choice condition body .nothing

/-- The rest of a loop. -/
def loop : (fuel : Nat) → (untilTrue : Bool) → Read Command
  | 0, _ => fail "too long"
  | fuel + 1, untilTrue => do
    let condition ← list fuel false false .nothing
    require fuel (.reserved .do)
    let body ← list fuel false false .nothing
    require fuel (.reserved .done)
    return .loop untilTrue condition body

/-- The rest of a loop over words. -/
def each : (fuel : Nat) → (line : Nat) → Read Command
  | 0, _ => fail "too long"
  | fuel + 1, line => do
    let t ← token fuel
    match t, (Word.plain? (← get).word).filter Octets.isName with
    | .word, some name =>
      expect { newlines := true, reserved := true, aliases := true }
      let t ← token fuel
      let words ←
        if t = .reserved .in then do
          let (words, t) ← wordsAfter fuel []
          if t ≠ .newline ∧ t ≠ .semicolon then unexpected t
          pure words
        else do
          if t ≠ .semicolon then putBack
          pure [[.mark, .parameter ['@'] .value [] true, .mark]]
      expect { newlines := true, reserved := true, aliases := true }
      require fuel (.reserved .do)
      let body ← list fuel false false .nothing
      require fuel (.reserved .done)
      return .each line name words body
    | _, _ => fail "Bad for loop variable"

/-- The words up to another token. -/
def wordsAfter : (fuel : Nat) → List Word → Read (List Word × Token)
  | 0, _ => fail "too long"
  | fuel + 1, words => do
    let t ← token fuel
    if t = .word then
      let w := (← get).word
      wordsAfter fuel (words ++ [w])
    else return (words, t)

/-- The cases of a selection. -/
def cases : (fuel : Nat) → Read (List (List Word × Command))
  | 0 => fail "too long"
  | fuel + 1 => do
    expect { newlines := true, reserved := true }
    let t ← token fuel
    if t = .reserved .esac then return []
    if t = .left then let _ ← token fuel
    let patterns ← patterns fuel []
    let body ← list fuel false true .nothing
    expect { newlines := true, reserved := true }
    let t ← token fuel
    if t = .reserved .esac then return [(patterns, body)]
    if t ≠ .endCase then unexpected t (some .endCase)
    return (patterns, body) :: (← cases fuel)

/-- The patterns of a case, the first of which has been read, up to its bracket. -/
def patterns : (fuel : Nat) → List Word → Read (List Word)
  | 0, _ => fail "too long"
  | fuel + 1, before => do
    let all := before ++ [(← get).word]
    let t ← token fuel
    if t = .bar then
      let _ ← token fuel
      patterns fuel all
    else if t = .right then return all
    else unexpected t (some .right)

/-- The target of a redirection whose arrow has been read. -/
def target : (fuel : Nat) → Read Redirection
  | 0 => fail "too long"
  | fuel + 1 => do
    let r ← get
    let isDocument := match r.arrow with
      | .document _ => true
      | _ => false
    expect { delimiter := isDocument }
    let t ← token fuel
    if t ≠ .word then unexpected t
    let word := (← get).word
    match r.arrow with
    | .file mode => return .file r.descriptor mode word
    | .same => return .same r.descriptor word
    | .document stripsTabs => return .document r.descriptor (← await stripsTabs word)

/-- The redirections after a command. -/
def redirections : (fuel : Nat) → Read (List Redirection)
  | 0 => fail "too long"
  | fuel + 1 => do
    expect { reserved := true, aliases := true }
    if (← token fuel) = .redirection then
      let first ← target fuel
      return first :: (← redirections fuel)
    else
      putBack
      return []

/-- A command with the redirections after it. -/
def redirected : (fuel : Nat) → (line : Nat) → Command → Read Command
  | 0, _, _ => fail "too long"
  | fuel + 1, line, c => do
    match ← redirections fuel with
    | [] => return c
    | all => return c.redirect line all

/-- A simple command or the definition of a function, after some of its parts; assignments come
    before the first word. -/
def simple : (fuel : Nat) → (line : Nat) → (isFirst : Bool) → List (Octets × Word) → List Word →
    List Redirection → Read Command
  | 0, _, _, _, _, _ => fail "too long"
  | fuel + 1, line, isFirst, assignments, words, redirections => do
    expect { aliases := isFirst }
    let t ← token fuel
    match t with
    | .word =>
      let w := (← get).word
      match if isFirst then w.assignment? else none with
      | some a => simple fuel line true (assignments ++ [a]) words redirections
      | none => simple fuel line false assignments (words ++ [w]) redirections
    | .redirection =>
      let target ← target fuel
      simple fuel line isFirst assignments words (redirections ++ [target])
    | .left =>
      match assignments, words, redirections with
      | [], [name], [] =>
        require fuel .right
        match (Word.plain? name).filter fun n => Octets.isName n ∧ !isSpecial n with
        | none => fail "Bad function name"
        | some name =>
          expect { newlines := true, reserved := true, aliases := true }
          let line := (← get).line
          return .define line name (← command fuel)
      | _, _, _ =>
        putBack
        return .simple line assignments words redirections
    | _ =>
      putBack
      return .simple line assignments words redirections
where
  /-- Whether a word is a command that no function may take the name of. -/
  isSpecial (name : Octets) : Bool := String.ofList name ∈ specialCommands
  /-- The commands that are part of the language. -/
  specialCommands : List String :=
    [ ".", ":", "break", "continue", "eval", "exec", "exit", "export", "local", "readonly",
      "return", "set", "shift", "times", "trap", "unset" ]

end

/-- The commands of the next line, or of several if they go on; none at the end. -/
def line? : Read (Option Command) := do
  modify fun r => { r with again := false, expected := {}, awaited := [] }
  let fuel := 16 * ((← get).rest.length + 16)
  let c ← list fuel true false .nothing
  match c with
  | .nothing =>
    let r ← get
    return if r.last = .finish then none else some .nothing
  | c => return some c

end Read

end FlowDump.Rehearsal.Shell
