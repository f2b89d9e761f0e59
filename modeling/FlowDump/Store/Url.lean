import FlowDump.Decimal.Unsigned
import FlowDump.Text.Hex
import FlowDump.Text.Split
import FlowDump.Text.Utf8

/-!
# Locators

The locator of a database: a scheme, a user, a host with a port, a path and a query, all but the
scheme optional.

* `Url.parse?` — the parts of a locator, of any scheme whose hosts may be arbitrary texts.
* `Url.segments?` — the names of an absolute path, with dots already followed.
* `Url.parameter?` — a parameter of the query.
* `Url.decode` — a text whose escapes are replaced by the bytes they stand for.
-/

namespace FlowDump.Store

/-- Who a locator speaks for: a name and a password, either of which may be empty. -/
structure UserInfo where
  name : List Char := []
  password : List Char := []
  deriving DecidableEq, Repr, Inhabited

/-- A locator. -/
structure Url where
  scheme : String
  user : UserInfo := {}
  /-- The host, unless there is none or it is empty. -/
  host? : Option String
  port? : Option Nat
  /-- The names of the path if it starts with a slash. -/
  segments? : Option (List (List Char))
  query : List Char
  deriving DecidableEq, Repr

namespace Url

/-! ### Escapes -/

/-- The bytes of a text in which a percent sign and two digits stand for a byte. -/
def decodeBytes : List Char → List UInt8
  | [] => []
  | '%' :: a :: b :: rest =>
    match Text.hexValue? a, Text.hexValue? b with
    | some h, some l => UInt8.ofNat (h * 16 + l) :: decodeBytes rest
    | _, _ => 0x25 :: decodeBytes (a :: b :: rest)
  | c :: rest => Utf8.encode (String.singleton c) ++ decodeBytes rest
  termination_by s => s.length

/-- A text without escapes. -/
def decode (s : List Char) : String :=
  Utf8.decodeLossy (decodeBytes s)

/-- A text without escapes, if the bytes they stand for are a text. -/
def decode? (s : List Char) : Option String :=
  Utf8.decode? (decodeBytes s)

/-! ### Hosts -/

/-- A part of an address of the old form: up to three digits, no more than 255. -/
def isOctet (s : List Char) : Bool :=
  match s with
  | [] => false
  | '0' :: _ :: _ => false
  | s => s.all Char.isDigit && s.length ≤ 3 && s.foldl (fun n c => n * 10 + (c.toNat - 48)) 0 ≤ 255

/-- An address of the old form, four numbers with dots between them. -/
def isOldAddress (s : List Char) : Bool :=
  let parts := Text.split '.' s
  parts.length = 4 && parts.all isOctet

/-- A group of an address: up to four hexadecimal digits. -/
def isGroup (s : List Char) : Bool :=
  s ≠ [] && s.length ≤ 4 && s.all fun c => (Text.hexValue? c).isSome

/-- How many groups the parts of an address make; the last part may be of the old form if `final`,
    and then makes two. -/
def groupCount? (final : Bool) : List (List Char) → Option Nat
  | [] => some 0
  | [part] =>
    if isGroup part then some 1 else if final && isOldAddress part then some 2 else none
  | part :: rest => if isGroup part then (groupCount? final rest).map (· + 1) else none

/-- The parts between colons; an empty text has none. -/
def groups (s : List Char) : List (List Char) :=
  if s = [] then [] else Text.split ':' s

/-- What stands before and after the first two colons in a row. -/
def cutGap? : List Char → Option (List Char × List Char)
  | ':' :: ':' :: rest => some ([], rest)
  | c :: rest => (cutGap? rest).map fun p => (c :: p.1, p.2)
  | [] => none

/-- An address between brackets: eight groups, or fewer with one gap. -/
def isAddress (s : List Char) : Bool :=
  match cutGap? s with
  | none => groupCount? true (groups s) = some 8
  | some (before, after) =>
    match groupCount? false (groups before), groupCount? true (groups after) with
    | some m, some n => m + n ≤ 7
    | _, _ => false

/-- The characters that no host may hold. -/
def isForbidden (c : Char) : Bool :=
  c ∈ ['\x00', '\t', '\n', '\r', ' ', '#', '/', ':', '<', '>', '?', '@', '[', '\\', ']', '^', '|']

/-- Whether a text is a host. -/
def isHost (s : List Char) : Bool :=
  match s with
  | '[' :: rest => rest.getLast? = some ']' && isAddress rest.dropLast
  | s => !s.any isForbidden

/-- The host at the front of a text, up to a colon that is not between brackets. -/
def takeHost : (bracketed : Bool) → List Char → List Char × List Char
  | _, [] => ([], [])
  | bracketed, c :: rest =>
    if c = ':' ∧ ¬ bracketed then ([], c :: rest)
    else
      let (host, after) := takeHost ((bracketed || c = '[') && c ≠ ']') rest
      (c :: host, after)

/-- A port and what follows it, which starts with a backslash.  The port may be left out after its
    colon. -/
def readPort? (s : List Char) : Option (Option Nat × List Char) :=
  let digits := s.takeWhile Char.isDigit
  let rest := s.dropWhile Char.isDigit
  if rest.head?.any (· ≠ '\\') then none
  else if digits = [] then some (none, rest)
  else (Decimal.readDigits? 65535 digits).map fun n => (some n, rest)

/-- What stands before and after the last of the signs that end a user; the name of a user may hold
    some. -/
def cutUser? (s : List Char) : Option (List Char × List Char) :=
  if '@' ∈ s then
    let reversed := s.reverse
    some (((reversed.dropWhile (· ≠ '@')).drop 1).reverse,
      (reversed.takeWhile (· ≠ '@')).reverse)
  else none

/-- The user that a text describes: a name, and a password after the first colon. -/
def readUser (s : List Char) : UserInfo :=
  let (name, password?) := Text.cut ':' s
  { name, password := password?.getD [] }

/-- What stands between the scheme and the path. -/
structure Authority where
  user : UserInfo := {}
  host? : Option String := none
  port? : Option Nat := none
  /-- What follows the port and belongs to the path. -/
  rest : List Char := []

/-- A host and its port.  Without a host there can be no port, and no user but one whose name and
    password are both empty and have a colon between them. -/
def hostAndPort? (user? : Option (List Char)) (s : List Char) : Option Authority :=
  let (host, after) := takeHost false s
  if !isHost host then none
  else if host = [] then
    if after = [] ∧ user? ∈ [none, some [':']] then some {} else none
  else do
    let user := readUser (user?.getD [])
    let host? := some (String.ofList host)
    match after with
    | ':' :: digits =>
      let (port?, rest) ← readPort? digits
      return { user, host?, port?, rest }
    | _ => return { user, host? }

/-- What stands between the scheme and the path. -/
def authority? (s : List Char) : Option Authority :=
  match cutUser? s with
  | none => hostAndPort? none s
  | some (user, s) => hostAndPort? (some user) s

/-! ### Paths -/

/-- Whether a name is a single dot, written out or escaped. -/
def isDot (s : List Char) : Bool :=
  s = ['.'] || (s.map Char.toLower) = ['%', '2', 'e']

/-- Whether a name is two dots, either of them written out or escaped. -/
def isDoubleDot (s : List Char) : Bool :=
  [['.', '.'], ['.', '%', '2', 'e'], ['%', '2', 'e', '.'], ['%', '2', 'e', '%', '2', 'e']].contains
    (s.map Char.toLower)

/-- Whether a name is the letter of a drive, with what marks it as one. -/
def isDrive : List Char → Bool
  | [c, mark] => c.isAlpha && (mark = ':' || mark = '|')
  | c :: mark :: '\\' :: _ => c.isAlpha && (mark = ':' || mark = '|')
  | _ => false

/-- The names above the last one, which is given first.  There is nothing above a drive. -/
def above (names : List (List Char)) : List (List Char) :=
  if names.head?.any isDrive then names else names.tail

/-- Follow the dots of a path; the names so far are given back to front. -/
def followDots (names : List (List Char)) : List (List Char) → List (List Char)
  | [] => names.reverse
  | [part] =>
    -- dots at the very end leave an empty name behind
    if isDot part then ([] :: names).reverse
    else if isDoubleDot part then ([] :: above names).reverse
    else (part :: names).reverse
  | part :: rest =>
    if isDot part then followDots names rest
    else if isDoubleDot part then followDots (above names) rest
    else followDots (part :: names) rest

/-- The names of a path that starts with a slash. -/
def names? : List Char → Option (List (List Char))
  | '/' :: path => some (followDots [] (Text.split '/' path))
  | _ => none

/-! ### Whole locators -/

/-- Blanks and control characters at the ends count for nothing, and neither do tabs and line ends
    anywhere. -/
def clean (s : List Char) : List Char :=
  let inner := ((s.dropWhile (· ≤ ' ')).reverse.dropWhile (· ≤ ' ')).reverse
  inner.filter fun c => c ≠ '\t' && c ≠ '\n' && c ≠ '\r'

/-- The scheme in front of the first colon, in small letters. -/
def scheme? (s : List Char) : Option (String × List Char) := do
  let (scheme, rest) ← Text.cut? ':' s
  match scheme with
  | [] => none
  | c :: _ =>
    if c.isAlpha && scheme.all (fun c => c.isAlphanum || c = '+' || c = '-' || c = '.') then
      some (String.ofList (scheme.map Char.toLower), rest)
    else none

/-- The parts of a locator. -/
def parse? (text : String) : Option Url := do
  let (scheme, s) ← scheme? (clean text.toList)
  let s := (Text.cut '#' s).1
  let (s, query?) := Text.cut '?' s
  let query := query?.getD []
  match s with
  | '/' :: '/' :: s =>
    let a ← authority? (s.takeWhile (· ≠ '/'))
    let path := s.dropWhile (· ≠ '/')
    -- a path starts with a slash even if something else ends the port
    let path := if a.rest = [] then path else '/' :: a.rest ++ path
    return { scheme, user := a.user, host? := a.host?, port? := a.port?, segments? := names? path,
             query }
  | s => return { scheme, host? := none, port? := none, segments? := names? s, query }

/-- A name or a value in a query, in which a plus sign stands for a blank. -/
def decodeQuery (s : List Char) : String :=
  decode (s.map fun c => if c = '+' then ' ' else c)

/-- The value of a parameter in the query; of two values the last one holds. -/
def parameter? (u : Url) (name : String) : Option String :=
  let pairs := (Text.split '&' u.query).filter (· ≠ [])
  (pairs.reverse.find? fun p => decodeQuery (Text.cut '=' p).1 = name).map fun p =>
    decodeQuery ((Text.cut '=' p).2.getD [])

end Url

end FlowDump.Store
