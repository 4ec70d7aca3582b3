import SessionGateway.Http.Credentials
import SessionGateway.Http.Reply
import SessionGateway.Http.Target
import SessionGateway.Text.Ascii
import SessionGateway.Url.Basic

/-! Proxies: servers that are asked in place of those that a request is for. Which one is asked
follows from the scheme of the request, and some hosts are asked directly. -/

namespace SessionGateway

/-- The width of a host that is an address, in bits, and its number. -/
def Host.number? : Host → Option (Nat × Nat)
  | domain _ => none
  | ipv4 address => some (32, address)
  | ipv6 pieces => some (128, joined pieces)
where
  joined (pieces : List Nat) : Nat := pieces.foldl (fun n p => 65536 * n + p) 0

namespace Http

structure Proxy where
  scheme : String
  /-- The host and perhaps a port, as they were written. -/
  authority : String
  credentials : Option Credentials
  deriving DecidableEq, Repr

namespace Proxy

/-- Schemes of proxies for pages and of those for all connections. -/
def scheme? (word : String) : Option String :=
  let folded := Text.foldAscii word
  if folded = "http" ∨ folded = "https" then some folded
  else if ["socks4", "socks4a", "socks5", "socks5h"].contains word then some word
  else none

/-- The scheme, which is `http` where there is none, and the authority of a place. -/
def place? (text : String) : Option (String × List Char) :=
  let cs := text.toList
  if !Target.isSendable text || cs.head? = some '/' || cs = ['*'] then none
  else match Target.afterScheme? cs with
    | some (some rest) =>
      (scheme? (String.ofList (cs.takeWhile Target.isSchemeChar))).map
        (·, rest.takeWhile fun c => !Target.endsAuthority c)
    | _ => some ("http", cs)

/-- A place with an authority; what comes before an at sign in it is for the proxy alone. -/
def ofText? (text : String) : Option Proxy := do
  let (scheme, authority) ← place? text
  match authority.span (· != '@') with
  | (userinfo, _ :: rest) =>
    if Target.isAuthority rest then
      some ⟨scheme, String.ofList rest, some (.ofUserinfo userinfo)⟩
    else none
  | _ => some ⟨scheme, String.ofList authority, none⟩

def text (p : Proxy) : String := p.scheme ++ "://" ++ p.authority ++ "/"

/-- Whether the proxy is dialled over TLS. What proxies for all connections are is not known here:
they are dialled as plain ones for pages. -/
def isSecured (p : Proxy) : Bool := p.scheme == "https"

/-- What stands after the last `c`. -/
def afterLast (c : Char) (cs : List Char) : List Char := (cs.reverse.takeWhile (· != c)).reverse

def port? (cs : List Char) : Option Nat :=
  let digits := (Text.afterStart? ['+'] cs).getD cs
  if digits.isEmpty || !digits.all Char.isDigit || 65535 < Text.decimalValue digits then none
  else some (Text.decimalValue digits)

/-- An address of either width, or a name. -/
def host : List Char → Host
  | '[' :: rest =>
    let inside := rest.takeWhile (· != ']')
    ((Host.ipv6? inside).map .ipv6).getD (.domain (String.ofList inside))
  | cs =>
    let name := cs.takeWhile (· != ':')
    ((Host.ipv4? name).map .ipv4).getD (.domain (String.ofList name))

/-- Where the proxy is dialled. -/
def address (p : Proxy) : Address :=
  let cs := p.authority.toList
  ⟨host (afterLast '@' cs), (port? (afterLast ':' cs)).getD (if p.isSecured then 443 else 80)⟩

/-- What a proxy for pages is told of who asks. -/
def authorization? (p : Proxy) : Option String :=
  if p.scheme = "http" ∨ p.scheme = "https" then p.credentials.map Credentials.basic else none

end Proxy

/-- Hosts that are asked directly: addresses that agree in their first bits, or a name with all
names below it. -/
inductive DirectHosts where
  | addresses (width number fixed : Nat)
  | names (name : String)
  deriving DecidableEq, Repr

namespace DirectHosts

/-- An address in bytes or in pieces. -/
def address? (cs : List Char) : Option (Nat × Nat) :=
  match Host.ipv6Tail?.dottedPieces? cs with
  | some pieces => some (32, Host.number?.joined pieces)
  | none => (Host.ipv6? cs).map fun pieces => (128, Host.number?.joined pieces)

/-- How many bits count. -/
def fixed? (width : Nat) (digits : List Char) : Option Nat :=
  let count := Text.decimalValue digits
  if digits.isEmpty || (if width = 32 then 2 else 3) < digits.length ||
      !digits.all Char.isDigit || width < count then none
  else some count

def addresses? (cs : List Char) : Option DirectHosts := do
  let (address, rest) := cs.span (· != '/')
  let (width, number) ← address? address
  match rest with
  | [] => some (addresses width number width)
  | _ :: digits => (fixed? width digits).map (addresses width number)

/-- Entries between commas, without the blanks around them. -/
def ofText (text : String) : List DirectHosts :=
  let entries := (Text.splitAtChar (· == ',') text.toList).map Text.trimBlanks
  (entries.filter (· ≠ [])).map fun entry =>
    (addresses? entry).getD (names (String.ofList entry))

/-- Whether a host belongs to a name, which may begin with a point; a star is every name. -/
def namesHost (name host : String) : Bool :=
  let name := (Text.foldAscii name).toList
  let host := (Text.foldAscii host).toList
  let bare := (Text.afterStart? ['.'] name).getD name
  name == ['*'] || host == bare || ('.' :: bare).isSuffixOf host

def covers (host : Host) : DirectHosts → Bool
  | addresses width number fixed =>
    host.number?.any fun (hostWidth, hostNumber) =>
      hostWidth = width &&
        hostNumber / power 2 (width - fixed) = number / power 2 (width - fixed)
  | names name =>
    match host with
    | .domain host => namesHost name host
    | _ => false

end DirectHosts

/-- The proxies for either scheme, and the hosts that are asked directly. -/
structure Proxies where
  plain : Option Proxy
  secure : Option Proxy
  direct : List DirectHosts
  deriving DecidableEq, Repr

namespace Proxies

/-- Everybody is asked directly. -/
def none : Proxies := ⟨.none, .none, []⟩

/-- The proxies that variables name, in capitals or else in small letters. A program that answers a
request of the web takes none, as its variables come from who asks. -/
def ofVariables (value? : String → Option String) : Proxies :=
  let first (name : String) := ((value? name).or (value? (Text.foldAscii name))).getD ""
  if (value? "REQUEST_METHOD").isSome then none
  else
    let all := Proxy.ofText? (first "ALL_PROXY")
    ⟨(Proxy.ofText? (first "HTTP_PROXY")).or all, (Proxy.ofText? (first "HTTPS_PROXY")).or all,
      DirectHosts.ofText (first "NO_PROXY")⟩

/-- The proxy that is asked for what a URL names. -/
def proxy? (proxies : Proxies) (u : Url) : Option Proxy := do
  let host ← u.host
  if proxies.direct.any (·.covers host) then .none
  else match u.scheme with
    | "http" => proxies.plain
    | "https" => proxies.secure
    | _ => .none

end Proxies

end Http

end SessionGateway
