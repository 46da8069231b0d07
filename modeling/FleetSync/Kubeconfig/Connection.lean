import FleetSync.Http.Uri
import FleetSync.Kubeconfig.Document
import FleetSync.Kubeconfig.Login
import FleetSync.Tls.Der
import FleetSync.Tls.Pem
import FleetSync.Tls.ServerName

/-!
# Connections

From a kubeconfig to the server of its current context. First the kubeconfig has to name a server
and to say how it can be trusted; an unknown user is nobody in particular. Then the connection is
set up: the proxy, the login, the certificates and the headers are looked at in this order.
-/
namespace FleetSync

/-- What a kubeconfig lacks. -/
inductive KubeconfigGap where
  | context
  | cluster
  | server
  | authority
  | proxy
  deriving DecidableEq, Repr

def KubeconfigGap.message : KubeconfigGap → String
  | context => "no current context"
  | cluster => "no cluster in the current context"
  | server => "no server in the current context"
  | authority => "unreadable certificate authority"
  | proxy => "invalid proxy"

/-- What keeps a kubeconfig from leading to a connection. -/
inductive KubeconfigFault where
  /-- There is no text, or it is none. -/
  | unreadable (path : String)
  | incomplete (gap : KubeconfigGap)
  | unconnectable (cause : Unconnectable)
  /-- The token cannot stand in a header; the program does not survive this. -/
  | brokenToken
  deriving DecidableEq, Repr

structure Target where
  server : Http.Uri
  credential : Credential
  deriving DecidableEq, Repr, Inhabited

namespace Source

def bytes? (s : Source) (files : Files) : Option (List UInt8) :=
  match s.data, s.file with
  | some text, _ => Text.Base64.decode? text
  | none, some path => files path
  | none, none => none

def isMissing (s : Source) : Bool := s.data.isNone && s.file.isNone

end Source

namespace Cluster

/-- The certificates of those who may vouch for the server, if they are given. -/
def authorities (c : Cluster) (files : Files) :
    Except KubeconfigGap (Option (List Tls.Section)) :=
  if c.authority.isMissing then .ok none
  else
    match (c.authority.bytes? files).bind Tls.Section.all? with
    | some sections => .ok (some (sections.filter (·.label = "CERTIFICATE")))
    | none => .error .authority

def proxyUri (c : Cluster) : Except KubeconfigGap (Option Http.Uri) :=
  match c.proxy.filter (· ≠ "") with
  | none => .ok none
  | some text =>
    match Http.Uri.parse text with
    | .ok uri => .ok (some uri)
    | .error _ => .error .proxy

def serverUri (c : Cluster) : Except KubeconfigGap Http.Uri :=
  match c.server.map Http.Uri.parse with
  | some (.ok uri) => .ok uri
  | _ => .error .server

end Cluster

def proxyFault (proxy : Http.Uri) : Unconnectable :=
  if proxy.scheme = some "http" then .disabledProxy proxy.text "kube/http-proxy"
  else if proxy.scheme = some "socks5" then .disabledProxy proxy.text "kube/socks5"
  else .unknownProxy proxy.text

/-- The labels of what cannot stand beside a user's certificate and key. -/
def refusedLabels : List String := ["CERTIFICATE REQUEST", "X509 CRL", "PUBLIC KEY"]

/-- The sections hold a certificate and a key in their forms. Sections with other labels are passed
over, apart from those of a few. -/
def isClientIdentity (sections : List Tls.Section) : Bool :=
  let certificates := sections.filter (·.label = "CERTIFICATE")
  let keys := sections.filter (Tls.keyLabels.contains ·.label)
  !sections.any (refusedLabels.contains ·.label) && !certificates.isEmpty && !keys.isEmpty &&
    certificates.all (Tls.isCertificate ·.bytes) && keys.all fun s => Tls.isKey s.label s.bytes

/-- The user has a certificate and a key in their forms. Without one of them nothing is shown. -/
def User.hasSoundCertificate (u : User) (files : Files) : Bool :=
  match u.certificate.bytes? files, u.key.bytes? files with
  | some certificate, some key =>
    (Tls.Section.all? (key ++ [0x0A] ++ certificate)).any isClientIdentity
  | _, _ => true

def tlsFault? (cluster : Cluster) (authorities : Option (List Tls.Section)) (user : User)
    (files : Files) : Option TlsFault :=
  if (authorities.getD []).any fun s => !Tls.isCertificate s.bytes then some .authority
  else if !user.hasSoundCertificate files then some .clientCertificate
  else (cluster.serverName.filter fun name => !Tls.isServerName name).map .serverName

def connect (cluster : Cluster) (user : User) (files : Files) (now : Instant) :
    Except KubeconfigFault Target := do
  let server ← cluster.serverUri.mapError .incomplete
  let authorities ← (cluster.authorities files).mapError .incomplete
  if let some proxy ← cluster.proxyUri.mapError .incomplete then
    throw (.unconnectable (proxyFault proxy))
  let credential ← (user.credential files now).mapError fun f => .unconnectable (.login f)
  if credential.isBroken then throw .brokenToken
  if let some fault := tlsFault? cluster authorities user files then
    throw (.unconnectable (.tls fault))
  if !user.hasHeaderValues then throw (.unconnectable .header)
  return ⟨server, credential⟩

namespace Kubeconfig

/-- The cluster and the user of the current context. -/
def selection (c : Kubeconfig) : Except KubeconfigGap (Cluster × User) :=
  match c.current.bind (find? c.contexts) with
  | none => .error .context
  | some context =>
    match find? c.clusters context.cluster with
    | none => .error .cluster
    | some cluster => .ok (cluster, (context.user.bind (find? c.users)).getD default)

/-- The path of a file that a kubeconfig at a path names. -/
def resolve (path file : String) : String :=
  if file.toList.head? = some '/' then file
  else
    let folder := (path.toList.reverse.dropWhile (· ≠ '/')).reverse
    String.ofList folder ++ file

def files (c : Kubeconfig) (path : String) : List String :=
  match c.selection with
  | .ok (cluster, user) =>
    ([cluster.authority.file, user.certificate.file, user.key.file, user.tokenFile].filterMap
      id).map (resolve path)
  | .error _ => []

/-- The connection that the kubeconfig at a path leads to. -/
def target (path : String) (files : Files) (now : Instant) : Except KubeconfigFault Target :=
  match ((files path).bind Text.ofUtf8?).bind ofText? with
  | none => .error (.unreadable path)
  | some c =>
    match c.selection with
    | .error gap => .error (.incomplete gap)
    | .ok (cluster, user) => connect cluster user (fun file => files (resolve path file)) now

end Kubeconfig

end FleetSync
