import SessionGateway.Client.Call
import SessionGateway.Http.Body
import SessionGateway.Url.Host

/-! What goes over a connection: one request out, and bytes back, such as a server writes for a
reply. -/

namespace SessionGateway.Http

/-- The host and the port that are dialled. -/
structure Address where
  host : Host
  port : Nat
  deriving DecidableEq, Repr

def Address.text (a : Address) : String := a.host.text ++ ":" ++ toString a.port

/-- How a request gets from what is dialled to the server that it is for. The handshakes of TLS are
left out, and so is what comes back for a `CONNECT`: with one of them that fails, nobody answers. -/
inductive Channel where
  | plain
  /-- Over TLS with what is dialled. -/
  | secured
  /-- Over TLS with a server that the proxy, dialled over TLS or not, connects to when it is asked
  with `CONNECT` and perhaps told who asks. -/
  | tunnelled (proxySecured : Bool) (server : Address) (authorization : Option String)
  deriving DecidableEq, Repr

/-- A request as it goes out. -/
structure WireRequest where
  method : Method
  /-- What is dialled. -/
  address : Address
  channel : Channel
  target : String
  headers : List (String × String)
  body : Option String
  deriving DecidableEq, Repr

def headerLine (name value : String) : List UInt8 :=
  Text.utf8 (name ++ ": " ++ value).toList ++ lineBreak

/-- What goes through the channel. -/
def WireRequest.bytes (r : WireRequest) : List UInt8 :=
  Text.utf8 (r.method.name ++ " " ++ r.target ++ " HTTP/1.1").toList ++ lineBreak ++
    r.headers.flatMap (fun h => headerLine h.1 h.2) ++ lineBreak ++
    Text.utf8 (r.body.getD "").toList

/-- What comes back on one connection. -/
structure Delivery where
  bytes : List UInt8
  /-- The connection stays open after the bytes, so that nothing more comes and nothing ends. -/
  stalls : Bool
  deriving DecidableEq, Repr

/-- Whether bytes after these would change nothing. -/
def isSettled (bytes : List UInt8) : Bool :=
  match readHead (bytes.length + 1) bytes with
  | .more => false
  | .malformed => true
  | .done head rest =>
    head.framing?.all fun framing => (framing.read? true rest).isSome

/-- A reply with its length announced, after which the connection ends. -/
structure SizedReply where
  status : Nat
  headers : List (String × String)
  body : List UInt8

namespace SizedReply

/-- Statuses whose replies have no body and announce none. -/
def isBodiless (status : Nat) : Bool := status = 204 || status = 304

def bytes (r : SizedReply) : List UInt8 :=
  Text.utf8 ("HTTP/1.1 " ++ toString r.status ++ " X").toList ++ lineBreak ++
    headerLine "connection" "close" ++
    (if isBodiless r.status then [] else headerLine "content-length" (toString r.body.length)) ++
    r.headers.flatMap (fun h => headerLine h.1 h.2) ++ lineBreak ++
    (if isBodiless r.status then [] else r.body)

end SizedReply

end SessionGateway.Http
