import FleetSync.Kubeconfig.Basic
import FleetSync.Text.Utf8
import FleetSync.Time.Rfc3339
import FleetSync.Unconnectable

/-!
# Logging in

What a user shows to a server. A login provider comes before a name with a password, this before a
token, and a token before a file with one; a program is asked last. Programs are not run here, so
whoever depends on one cannot log in.
-/
namespace FleetSync

inductive Credential where
  | none
  | password (name password : String)
  | token (token : String)
  /-- A token that is read or renewed while the program runs. -/
  | renewedToken
  deriving DecidableEq, Repr, Inhabited

/-- The contents of files by their paths, of those that can be read. -/
abbrev Files := String → Option (List UInt8)

def isHeaderChar (c : Char) : Bool := (c.toNat ≥ 32 && c.toNat ≠ 127) || c == '\t'

def isHeaderValue (s : String) : Bool := s.toList.all isHeaderChar

/-- Some time is left until a token expires. -/
def isFresh (now expiry : Instant) : Bool :=
  let soon := now.seconds + 60
  soon < expiry.seconds || (soon == expiry.seconds && now.nanos < expiry.nanos)

namespace LoginProvider

def setting? (p : LoginProvider) (name : String) : Option String := p.settings.reverse.lookup name

/-- A token that a provider has given before, if it has not expired. -/
def stored? (p : LoginProvider) (now : Instant) : Except LoginFault (Option Credential) :=
  match p.setting? "access-token", p.setting? "expiry" with
  | some _, some text =>
    match Instant.ofRfc3339? text with
    | some expiry => .ok (if isFresh now expiry then some .renewedToken else none)
    | none => .error (.malformedExpiry text)
  | _, _ => .ok none

/-- What a provider has been told, or has given before. -/
def credential (p : LoginProvider) (now : Instant) : Except LoginFault Credential :=
  if p.name = "oidc" ∨ p.name = "gcp" then
    match p.setting? "id-token" with
    | some token => .ok (.token token)
    | none => do
      if p.name = "oidc" then throw (.missingToken p.name)
      match ← p.stored? now with
      | some credential => return credential
      | none =>
        if (p.setting? "cmd-path").isSome then throw .program else throw (.missingToken p.name)
  else .error (.unknownProvider p.name)

end LoginProvider

namespace User

def credential (u : User) (files : Files) (now : Instant) : Except LoginFault Credential :=
  match u.provider, u.name, u.password, u.token, u.tokenFile with
  | some provider, _, _, _, _ => provider.credential now
  | none, some name, some password, _, _ => .ok (.password name password)
  | none, _, _, some token, _ => .ok (.token token)
  | none, _, _, none, some path =>
    if ((files path).bind Text.ofUtf8?).isSome then .ok .renewedToken
    else .error (.unreadableFile path)
  | none, _, _, none, none => if u.asksProgram then .error .program else .ok .none

/-- The headers that tell whom the user acts for can be written. -/
def hasHeaderValues (u : User) : Bool := (u.actsAs.toList ++ u.groups).all isHeaderValue

end User

/-- The credential cannot be put into a header. -/
def Credential.isBroken : Credential → Bool
  | token t => !isHeaderValue t
  | _ => false

end FleetSync
