import FleetSync.Failure
import FleetSync.Json.Parser
import FleetSync.Json.Reader

/-!
# Exchanges with the server

Requests and replies as they travel. A reply of the server's error range is a refusal: its body
describes it, or the status line does if the body has another form.
-/
namespace FleetSync.Http

inductive Method where
  | get
  | post
  | put
  | patch
  | delete
  deriving DecidableEq, Repr

def Method.text : Method → String
  | get => "GET"
  | post => "POST"
  | put => "PUT"
  | patch => "PATCH"
  | delete => "DELETE"

structure Request where
  method : Method
  uri : String
  contentType : Option String
  body : Option Json

structure Reply where
  status : Nat
  body : String
  deriving DecidableEq, Repr, Inhabited

/-- A reply, or why there is none. -/
abbrev Outcome := Except String Reply

/-- The phrases that belong to the statuses of the error range. -/
def phrases : List (Nat × String) :=
  [(400, "Bad Request"), (401, "Unauthorized"), (402, "Payment Required"), (403, "Forbidden"),
    (404, "Not Found"), (405, "Method Not Allowed"), (406, "Not Acceptable"),
    (407, "Proxy Authentication Required"), (408, "Request Timeout"), (409, "Conflict"),
    (410, "Gone"), (411, "Length Required"), (412, "Precondition Failed"),
    (413, "Payload Too Large"), (414, "URI Too Long"), (415, "Unsupported Media Type"),
    (416, "Range Not Satisfiable"), (417, "Expectation Failed"), (418, "I'm a teapot"),
    (421, "Misdirected Request"), (422, "Unprocessable Entity"), (423, "Locked"),
    (424, "Failed Dependency"), (425, "Too Early"), (426, "Upgrade Required"),
    (428, "Precondition Required"), (429, "Too Many Requests"),
    (431, "Request Header Fields Too Large"), (451, "Unavailable For Legal Reasons"),
    (500, "Internal Server Error"), (501, "Not Implemented"), (502, "Bad Gateway"),
    (503, "Service Unavailable"), (504, "Gateway Timeout"), (505, "HTTP Version Not Supported"),
    (506, "Variant Also Negotiates"), (507, "Insufficient Storage"), (508, "Loop Detected"),
    (510, "Not Extended"), (511, "Network Authentication Required")]

def statusLine (status : Nat) : String :=
  toString status ++ " " ++
    ((phrases.find? (·.1 = status)).map (·.2)).getD "<unknown status code>"

def refusalOfJson? : Reader Refusal := fun j => do
  let fields ← Reader.record ["status", "message", "reason", "code"] j
  return {
    status := ← Reader.required fields "status" Reader.string
    message := ← Reader.required fields "message" Reader.string
    reason := ← Reader.withDefault fields "reason" "" Reader.string
    code := ← Reader.required fields "code" (Reader.natBelow UInt16.size) }

namespace Reply

def isError (r : Reply) : Bool := 400 ≤ r.status && r.status < 600

/-- The refusal that a reply of the error range stands for. -/
def refusal (r : Reply) : Refusal :=
  ((Json.read? r.body).bind refusalOfJson?).getD
    ⟨statusLine r.status, Text.quoted r.body, "Failed to parse error data", r.status⟩

def document (r : Reply) : Except ServerFault Json :=
  if r.isError then .error (.refused r.refusal)
  else match Json.read? r.body with
    | some j => .ok j
    | none => .error .unreadable

end Reply

end FleetSync.Http
