import SessionGateway.Url.Host

/-! URLs by their parts, and the text that they are written as. -/

namespace SessionGateway

inductive UrlPath where
  /-- Segments with a slash before each. -/
  | segments (parts : List String)
  /-- Text without structure, as in a mail address. -/
  | plain (text : String)
  deriving DecidableEq, Repr

structure Url where
  scheme : String
  username : String
  password : Option String
  host : Option Host
  /-- None when it is the usual one of the scheme. -/
  port : Option Nat
  path : UrlPath
  query : Option String
  fragment : Option String
  deriving DecidableEq, Repr

namespace UrlPath

def text : UrlPath → String
  | segments parts => String.join (parts.map ("/" ++ ·))
  | plain text => text

end UrlPath

namespace Url

/-- The usual port of the schemes whose URLs always have a host. -/
def defaultPort? (scheme : String) : Option Nat :=
  match scheme with
  | "http" | "ws" => some 80
  | "https" | "wss" => some 443
  | "ftp" => some 21
  | _ => none

/-- Schemes whose URLs are read with backslashes for slashes. -/
def isSpecialScheme (scheme : String) : Bool := (defaultPort? scheme).isSome || scheme == "file"

def isSpecial (u : Url) : Bool := isSpecialScheme u.scheme

/-- The port to dial. -/
def effectivePort (u : Url) : Option Nat := u.port <|> defaultPort? u.scheme

def userinfoText (u : Url) : String :=
  let password := u.password.elim "" (":" ++ ·)
  if u.username.isEmpty && u.password.isNone then "" else u.username ++ password ++ "@"

def portText (u : Url) : String := u.port.elim "" fun p => ":" ++ toString p

/-- The host with its port, as a request names it. -/
def hostText (u : Url) : String := (u.host.elim "" Host.text) ++ u.portText

def authorityText (u : Url) : String :=
  if u.host.isSome then "//" ++ u.userinfoText ++ u.hostText
  else if u.scheme == "file" then "//"
  else match u.path with
    | .segments ("" :: _ :: _) => "/."
    | _ => ""

def queryText (u : Url) : String := u.query.elim "" ("?" ++ ·)

def fragmentText (u : Url) : String := u.fragment.elim "" ("#" ++ ·)

def text (u : Url) : String :=
  u.scheme ++ ":" ++ u.authorityText ++ u.path.text ++ u.queryText ++ u.fragmentText

/-- Without the parts that are nobody else's business. -/
def withoutUserinfo (u : Url) : Url := { u with username := "", password := none }

def withoutFragment (u : Url) : Url := { u with fragment := none }

end Url

end SessionGateway
