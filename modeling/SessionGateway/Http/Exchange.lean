import SessionGateway.Client.Run
import SessionGateway.Http.MediaType
import SessionGateway.Http.Proxy
import SessionGateway.Url.Parser

/-! A call over the network: the request is put on the wire, redirects are followed, and the reply
becomes a response or a failure. -/

namespace SessionGateway.Http

/-- What the `n`-th request that is taken on meets; none when nobody answers at the address, or its
channel cannot be made. -/
abbrev Network := Nat → WireRequest → Option Delivery

/-- How an exchange fails to give a response. -/
inductive ExchangeFault where
  | unbuildable (url : Option String)
  | unsent (url : String)
  | timedOut (url : String)
  | tooManyRedirects (url : String)
  | bodyCutShort
  deriving DecidableEq, Repr

namespace ExchangeFault

def about (url : String) : String := " for url (" ++ url ++ ")"

def failure : ExchangeFault → Failure
  | unbuildable url => .invalidConfig ("invalid request: builder error" ++ url.elim "" about)
  | unsent url => .transport ("error sending request" ++ about url)
  | timedOut url => .transport ("request timed out: error sending request" ++ about url)
  | tooManyRedirects url => .transport ("error following redirect" ++ about url)
  | bodyCutShort => .transport "failed to read response body: error decoding response body"

end ExchangeFault

/-- One step of an exchange: what is asked of whom. -/
structure Hop where
  url : Url
  method : Method
  headers : List (String × String)
  body : Option String

/-- The name and password of a URL, where they are texts, are sent as a header instead. -/
def credentials? (u : Url) : Option Credentials := do
  let text (s : String) := (Text.ofUtf8? (Url.percentDecode s.toList)).map String.ofList
  let name ← text u.username
  let password := u.password.bind text
  if name.isEmpty && password.isNone then none else some ⟨name, password⟩

/-- Header values hold no control characters but tabs. -/
def isSendableValue (value : String) : Bool :=
  value.toList.all fun c => c = '\t' || (0x20 ≤ c.toNat && c.toNat ≠ 0x7F)

def acceptsAll : String × String := ("accept", "*/*")

/-- What a proxy is told of who asks, unless what is asked for is not for its eyes: it is told with
the `CONNECT` then. -/
def proxyHeader (proxies : Proxies) (u : Url) : List (String × String) :=
  let value := if u.scheme = "http" then (proxies.proxy? u).bind Proxy.authorization? else none
  (value.map ("proxy-authorization", ·)).toList

/-- The first hop of a request. -/
def firstHop (proxies : Proxies) (r : Request) : Except ExchangeFault Hop :=
  match Url.ofText? r.url with
  | none => .error (.unbuildable none)
  | some u =>
    if u.host.isNone then .error (.unbuildable (some u.text))
    else if !r.headers.entries.all fun h => isSendableValue h.2 then .error (.unbuildable none)
    else
      let own := (credentials? u).map fun c => (HeaderName.authorization, c.basic)
      let place := if own.isSome then u.withoutUserinfo else u
      .ok ⟨place, r.method,
        own.toList ++ r.headers.entries ++ acceptsAll :: proxyHeader proxies u,
        r.body.map Json.text⟩

def lengthHeader (body : Option String) : List (String × String) :=
  (body.map fun b => ("content-length", toString b.utf8ByteSize)).toList

namespace Hop

/-- The place that the hop goes to, without a path. -/
def place (h : Hop) : String := h.url.scheme ++ "://" ++ h.url.userinfoText ++ h.url.hostText ++ "/"

/-- The server that the hop is for. -/
def server (h : Hop) : Address := ⟨h.url.host.getD (.domain ""), h.url.effectivePort.getD 0⟩

/-- Where the hop is dialled: at its server, or at the proxy. -/
def address (h : Hop) (proxy : Option Proxy) : Address := proxy.elim h.server Proxy.address

def isSecured (h : Hop) : Bool := h.url.scheme == "https"

/-- What is secured goes through a proxy, and what is not goes to it. -/
def channel (h : Hop) (proxy : Option Proxy) : Channel :=
  match proxy with
  | some p =>
    if h.isSecured then .tunnelled p.isSecured h.server p.authorization?
    else if p.isSecured then .secured else .plain
  | none => if h.isSecured then .secured else .plain

/-- A proxy that a request goes to needs to know the whole place. -/
def target (h : Hop) (proxy : Option Proxy) : String :=
  if proxy.isSome && !h.isSecured then h.url.withoutFragment.text
  else h.url.path.text ++ h.url.queryText

def request (h : Hop) (proxy : Option Proxy) : WireRequest :=
  ⟨h.method, h.address proxy, h.channel proxy, h.target proxy,
    h.headers ++ ("host", h.url.hostText) :: lengthHeader h.body,
    h.body⟩

/-- Headers that describe a body. -/
def payloadHeaders : List String :=
  ["content-type", "content-length", "content-encoding", "transfer-encoding"]

/-- Headers that another host must not see. -/
def privateHeaders : List String :=
  ["authorization", "cookie", "cookie2", "proxy-authorization", "www-authenticate"]

def without (names : List String) (headers : List (String × String)) : List (String × String) :=
  headers.filter fun h => !names.contains (Text.foldAscii h.1)

/-- The hop asks for a page instead of sending something. -/
def asGet (h : Hop) : Hop :=
  { h with method := .get, headers := without payloadHeaders h.headers, body := none }

/-- What a redirect status makes of the request; none for other statuses. -/
def redirected? (h : Hop) (status : Nat) : Option Hop :=
  if status = 301 ∨ status = 302 then some (if h.method = .post then h.asGet else h)
  else if status = 303 then some h.asGet
  else if status = 307 ∨ status = 308 then some h
  else none

/-- The place that a reply points to, if a request could go there. Its fragment is dropped. -/
def location? (h : Hop) (head : Head) : Option Url := do
  let text ← Text.ofUtf8? (← head.value? "location")
  let next ← h.url.join? (String.ofList text)
  if Target.isSendable next.text then some next.withoutFragment else none

/-- Where a request comes from, which is not told from a safe place to an unsafe one. -/
def referer? (old new : Url) : Option String :=
  if old.scheme = "https" ∧ new.scheme = "http" then none
  else some old.withoutUserinfo.withoutFragment.text

def sameServer (a b : Url) : Bool :=
  a.host == b.host && a.effectivePort == b.effectivePort

/-- The hop to another place, with a note where it comes from. -/
def moveTo (h : Hop) (next : Url) : Hop :=
  let headers := without ["referer"] h.headers
  let kept := if sameServer h.url next then headers else without privateHeaders headers
  let referer := ((referer? h.url next).map fun r => ("referer", r)).toList
  { h with url := next, headers := kept ++ referer }

/-- The hop that a reply leads on to. -/
def next? (h : Hop) (head : Head) : Option Hop := do
  let changed ← h.redirected? head.status
  let place ← h.location? head
  return changed.moveTo place

end Hop

/-- The text of a body, by the encoding that its content type names. -/
def bodyText (head : Head) (bytes : List UInt8) : String :=
  let charset := MediaType.charset ((head.value? "content-type").bind asText?)
  String.ofList (charset.decode bytes)

/-- The response of a reply that leads nowhere else. -/
def respond (delivery : Delivery) (framing : Framing) (head : Head) (rest : List UInt8) :
    Except ExchangeFault Response :=
  match framing.read? delivery.stalls rest with
  | none => .error .bodyCutShort
  | some bytes => .ok ⟨head.status, bodyText head bytes⟩

/-- How many redirects are followed. -/
def redirectLimit : Nat := 10

/-- What an exchange does besides asking, for those who watch it. -/
inductive Note where
  /-- A place is sought. -/
  | seeking (place : String)
  /-- A proxy is asked in its stead. -/
  | diverted (proxy : Proxy) (place : String)
  | dialling (address : Address)
  | dialled (address : Address)
  /-- The hop is not gone again. -/
  | settled
  deriving DecidableEq, Repr

/-- An exchange as the network meets it: it is over, something is noted, or a request goes out and
what comes back decides how it goes on. Nothing comes back where nobody answers. -/
inductive Dialogue where
  | ended (result : Except ExchangeFault Response)
  | noted (notes : List Note) (rest : Dialogue)
  | asks (request : WireRequest) (next : Option Delivery → Dialogue)

/-- A hop that a request can be made for. -/
def Hop.isSendable (h : Hop) : Bool :=
  (h.url.scheme == "http" || h.url.scheme == "https") && Target.isSendable h.url.text

namespace Note

/-- What is noted before a hop is dialled. -/
def ahead (h : Hop) (proxy : Option Proxy) : List Note :=
  seeking h.place :: (proxy.map (diverted · h.place)).toList

/-- Names are looked up first, and only their addresses are noted. The notes on connections that are
secured are left out. -/
def about (request : WireRequest) (note : Address → Note) : List Note :=
  if request.channel = .plain && request.address.host.number?.isSome then [note request.address]
  else []

end Note

/-- The end of an exchange by a fault. -/
def Dialogue.fails (fault : ExchangeFault) : Dialogue :=
  noted [.settled] (ended (.error fault))

namespace Hop

/-- How an exchange goes on when something has come back for a hop: with `onward` if it leads to
another hop. `first` is the place of the first request, which faults are told of. -/
def hear (first : String) (onward : Hop → Dialogue) (hop : Hop) (delivery : Delivery) : Dialogue :=
  match readHead (delivery.bytes.length + 1) delivery.bytes with
  | .malformed => .fails (.unsent first)
  | .more => if delivery.stalls then .ended (.error (.timedOut first)) else .fails (.unsent first)
  | .done head rest =>
    match head.framing? with
    | none => .fails (.unsent first)
    | some framing => .noted [.settled] <|
      match hop.next? head with
      | none => .ended (respond delivery framing head rest)
      | some next => onward next

/-- The part of a hop in an exchange. -/
def ask (proxies : Proxies) (first : String) (onward : Hop → Dialogue) (hop : Hop) : Dialogue :=
  let proxy := proxies.proxy? hop.url
  let request := hop.request proxy
  if !hop.isSendable then .ended (.error (.unbuildable (some hop.url.text)))
  else .noted (Note.ahead hop proxy ++ Note.about request .dialling) <| .asks request fun
    | none => .fails (.unsent first)
    | some delivery => .noted (Note.about request .dialled) (hop.hear first onward delivery)

end Hop

/-- The exchange from a hop on, with so many redirects at most. -/
def follow (proxies : Proxies) (first : String) : Nat → Hop → Dialogue
  | 0, hop => hop.ask proxies first fun _ => .ended (.error (.tooManyRedirects hop.url.text))
  | left + 1, hop => hop.ask proxies first (follow proxies first left)

/-- The exchange that a request starts. -/
def dialogue (proxies : Proxies) (r : Request) : Dialogue :=
  match firstHop proxies r with
  | .error fault => .ended (.error fault)
  | .ok hop => follow proxies hop.url.text redirectLimit hop

namespace Dialogue

/-- The requests that the network takes on, of which `served` came before, and the result. -/
def against (network : Network) (served : Nat) :
    Dialogue → List WireRequest × Except ExchangeFault Response
  | ended result => ([], result)
  | noted _ rest => rest.against network served
  | asks request next =>
    match network served request with
    | none => (next none).against network served
    | some delivery =>
      let (requests, result) := (next (some delivery)).against network (served + 1)
      (request :: requests, result)

/-- All that is noted on the way. -/
def notes (network : Network) (served : Nat) : Dialogue → List Note
  | ended _ => []
  | noted notes rest => notes ++ rest.notes network served
  | asks request next =>
    match network served request with
    | none => (next none).notes network served
    | some delivery => (next (some delivery)).notes network (served + 1)

end Dialogue

/-- The requests on the wire for one request of a client, and the reply. -/
def exchangeVia (proxies : Proxies) (network : Network) (r : Request) :
    List WireRequest × Reply :=
  let (requests, result) := (dialogue proxies r).against network 0
  (requests, result.mapError ExchangeFault.failure)

/-- An exchange that asks everybody directly. -/
def exchange (network : Network) (r : Request) : List WireRequest × Reply :=
  exchangeVia .none network r

/-- A call over the network: the requests on the wire, and the dealings of the client. -/
def callOver (proxies : Proxies) (network : Network) (sources : Sources) (elapsed : String)
    (client : Client) (call : Call) : List WireRequest × Step :=
  let request := call.requestFrom client.config sources client.asked
  let (requests, reply) := exchangeVia proxies network request
  (requests, client.step ⟨sources, fun _ => reply, fun _ => elapsed⟩ call)

end SessionGateway.Http
