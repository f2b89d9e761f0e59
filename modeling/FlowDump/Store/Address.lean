import FlowDump.Decimal.Signed
import FlowDump.Store.Url

/-!
# Addresses of databases

* `Store.Address` — where a server listens, how to prove who asks, and which of its databases is
  meant.
* `Store.Address.ofUrl?` — the address that a locator stands for.
-/

namespace FlowDump.Store

/-- Where a server listens. -/
inductive Endpoint where
  | network (host : String) (port : Nat)
  /-- A socket in the filesystem. -/
  | socket (path : String)
  deriving DecidableEq, Repr

/-- What proves to a server who asks. -/
structure Credentials where
  user? : Option String
  password : String
  deriving DecidableEq, Repr

namespace Credentials

/-- The credentials of a user; a name without a password proves nothing. -/
def ofUser? (u : UserInfo) : Option (Option Credentials) := do
  let name ← Url.decode? u.name
  let password ← Url.decode? u.password
  return if password = "" then none
    else some { user? := if name = "" then none else some name, password }

/-- The credentials in the parameters of a locator; a name without a password proves nothing. -/
def ofParameters? (u : Url) : Option Credentials :=
  (u.parameter? "pass").map fun password => { user? := u.parameter? "user", password }

end Credentials

/-- A database of a server. -/
structure Address where
  endpoint : Endpoint
  credentials? : Option Credentials
  database : Int
  deriving DecidableEq, Repr

namespace Address

/-- The port of a locator that names none. -/
def defaultPort : Nat := 6379

/-- The index that a path names: what stands between its outermost slashes, or nothing for the
    first database. -/
def pathIndex? (segments : List (List Char)) : Option Int :=
  let inner := (segments.dropWhile (· = [])).reverse.dropWhile (· = [])
  match inner with
  | [] => some 0
  | [name] => Decimal.readSigned? name
  | _ => none

/-- A database of a server on a network. -/
def ofNetwork? (u : Url) : Option Address := do
  let host ← u.host?
  let credentials? ← Credentials.ofUser? u.user
  let database ← pathIndex? (u.segments?.getD [])
  return { endpoint := .network host (u.port?.getD defaultPort), credentials?, database }

/-- A database of a server on this machine; the path is absolute, and the index and the credentials
    are parameters. -/
def ofSocket? (u : Url) : Option Address := do
  let segments ← u.segments?
  let database ← match u.parameter? "db" with
    | none => some 0
    | some index => Decimal.readSigned? index.toList
  if u.host?.any (· ≠ "localhost") then none
  else
    let path := String.join (segments.map fun name => "/" ++ Url.decode name)
    return { endpoint := .socket path, credentials? := Credentials.ofParameters? u, database }

/-- The address that a locator stands for: `ofNetwork?` or `ofSocket?` by its scheme. -/
def ofUrl? (text : String) : Option Address := do
  let u ← Url.parse? text
  if u.scheme = "redis" then ofNetwork? u
  else if u.scheme = "redis+unix" ∨ u.scheme = "unix" then ofSocket? u
  else none

end Address

end FlowDump.Store
