/-!
# Servers that cannot be reached at all

Why no connection to a server can be set up, although it is known which server is meant: what stands
in the way is a proxy, the login, a certificate, or a header.
-/
namespace FleetSync

inductive LoginFault where
  /-- Nothing is known of this provider. -/
  | unknownProvider (name : String)
  | missingToken (provider : String)
  /-- The text is no date of expiry. -/
  | malformedExpiry (text : String)
  | unreadableFile (path : String)
  | program
  deriving DecidableEq, Repr

def LoginFault.message : LoginFault → String
  | unknownProvider name => "login provider " ++ name ++ " is not supported"
  | missingToken provider => "no token for login provider " ++ provider
  | malformedExpiry text => "malformed date of expiry " ++ text
  | unreadableFile path => "failed to read token file " ++ path
  | program => "failed to run the login program"

inductive TlsFault where
  | authority
  | clientCertificate
  | serverName (name : String)
  deriving DecidableEq, Repr

def TlsFault.message : TlsFault → String
  | authority => "failed to add a root certificate"
  | clientCertificate => "invalid client certificate or key"
  | serverName name => "invalid server name " ++ name

inductive Unconnectable where
  /-- The proxy needs what has not been built in. -/
  | disabledProxy (proxy part : String)
  | unknownProxy (proxy : String)
  | login (fault : LoginFault)
  | tls (fault : TlsFault)
  /-- Whom the user acts for cannot stand in a header. -/
  | header
  deriving DecidableEq, Repr

def Unconnectable.message : Unconnectable → String
  | disabledProxy proxy part =>
    "configured proxy " ++ proxy ++ " requires the disabled feature \"" ++ part ++ "\""
  | unknownProxy proxy => "configured proxy " ++ proxy ++ " uses an unsupported protocol"
  | login fault => "auth error: " ++ fault.message
  | tls fault => "rustls tls error: " ++ fault.message
  | header => "HttpError: failed to parse header value"

end FleetSync
