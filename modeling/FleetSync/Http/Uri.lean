/-!
# Addresses

An address names a server, a target on a server, or both: `http://host:80/path?query`, `host:80` or
`/path?query`. A server alone has neither a path nor a query. A number sign ends the target, and
what follows it is not sent. Characters beyond ASCII may stand in a target and nowhere else.
-/
namespace FleetSync.Http

structure Uri where
  scheme : Option String
  /-- The host with its port and the user before it. -/
  authority : Option String
  path : String
  query : Option String
  deriving DecidableEq, Repr, Inhabited

inductive UriFault where
  | tooLong
  | invalidCharacter
  | invalidForm
  deriving DecidableEq, Repr

/-- A character that cannot stand in a path. -/
def isRefusedInPath (c : Char) : Bool :=
  c.toNat ≤ 0x20 || c == '<' || c == '>' || c == '\x60' || c == '\x7f'

/-- A character that cannot stand in a query. -/
def isRefusedInQuery (c : Char) : Bool :=
  c.toNat ≤ 0x20 || c == '"' || c == '<' || c == '>' || c == '\x7f'

/-- A character of a server's name, its port or a user. -/
def isAuthorityChar (c : Char) : Bool :=
  c.isAlphanum || "!$&'()*+,-._~;=:@[]%".contains c

def isSchemeChar (c : Char) : Bool := c.isAlphanum || "+-.~".contains c

namespace Uri

def maxBytes : Nat := 65534

/-- The most characters before the colon of a scheme. -/
def maxSchemeLength : Nat := 64

def target? (cs : List Char) : Except UriFault (String × Option String) :=
  let sent := cs.takeWhile (· ≠ '#')
  let path := sent.takeWhile (· ≠ '?')
  let query := sent.drop path.length
  if path.any isRefusedInPath || (query.drop 1).any isRefusedInQuery then
    .error .invalidCharacter
  else
    .ok (if path.isEmpty then "/" else String.ofList path,
      if query.isEmpty then none else some (String.ofList (query.drop 1)))

/-- The scheme at the front of a text, and what follows its slashes. The two usual schemes are
known in any case. -/
def scheme? (cs : List Char) : Except UriFault (Option (String × List Char)) :=
  let name := cs.takeWhile isSchemeChar
  let lower := (String.ofList name).toLower
  match cs.drop name.length with
  | ':' :: '/' :: '/' :: rest =>
    if lower = "http" ∨ lower = "https" then .ok (some (lower, rest))
    else if cs.length ≤ 3 then .ok none
    else if maxSchemeLength < name.length then .error .invalidForm
    else .ok (some (String.ofList name, rest))
  | _ => .ok none

/-- What is known of an authority after some of its characters. -/
structure AuthorityScan where
  /-- The colons that may be the one before a port. -/
  colons : Nat := 0
  opened : Bool := false
  closed : Bool := false
  /-- A percent sign that no user accounts for. -/
  percent : Bool := false
  /-- The last character ends the user. -/
  afterUser : Bool := false
  deriving DecidableEq, Repr

/-- The most colons, which an address of eight parts with a port has. -/
def maxColons : Nat := 8

def AuthorityScan.next (s : AuthorityScan) (c : Char) : Except UriFault AuthorityScan :=
  let s := { s with afterUser := c == '@' }
  if !isAuthorityChar c then .error .invalidCharacter
  else if c = ':' then
    if maxColons ≤ s.colons then .error .invalidForm else .ok { s with colons := s.colons + 1 }
  else if c = '[' then
    if s.percent || s.opened then .error .invalidForm else .ok { s with opened := true }
  else if c = ']' then
    if !s.opened || s.closed then .error .invalidForm
    else .ok { s with closed := true, colons := 0, percent := false }
  else if c = '@' then .ok { s with colons := 0, percent := false }
  else if c = '%' then .ok { s with percent := true }
  else .ok s

/-- The characters seen make an authority. -/
def AuthorityScan.isComplete (s : AuthorityScan) : Bool :=
  s.opened == s.closed && s.colons ≤ 1 && !s.percent && !s.afterUser

/-- The authority at the front of a text, which may be empty, and what follows it. -/
def authority? (cs : List Char) : Except UriFault (String × List Char) := do
  let name := cs.takeWhile fun c => c ≠ '/' ∧ c ≠ '?' ∧ c ≠ '#'
  let scan ← name.foldlM AuthorityScan.next {}
  if scan.isComplete then return (String.ofList name, cs.drop name.length)
  else throw .invalidForm

def parse (text : String) : Except UriFault Uri := do
  if maxBytes < text.utf8ByteSize then throw .tooLong
  match text.toList with
  | [] => throw .invalidForm
  | ['*'] => return ⟨none, none, "*", none⟩
  | '/' :: rest =>
    let (path, query) ← target? ('/' :: rest)
    return ⟨none, none, path, query⟩
  | cs =>
    match ← scheme? cs with
    | none =>
      let (authority, rest) ← authority? cs
      if rest.isEmpty then return ⟨none, some authority, "", none⟩ else throw .invalidForm
    | some (scheme, rest) =>
      let (authority, rest) ← authority? rest
      if authority = "" then throw .invalidForm
      let (path, query) ← target? rest
      return ⟨some scheme, some authority, path, query⟩

def text (u : Uri) : String :=
  (match u.scheme with
    | some scheme => scheme ++ "://"
    | none => "") ++ u.authority.getD "" ++ u.path ++
  (match u.query with
    | some query => "?" ++ query
    | none => "")

end Uri

end FleetSync.Http
