import SessionGateway.Text.Utf8

/-! Which texts may name the target of a request: shorter than a limit, with an authority where
there is a scheme, and of the characters that may stand in each part. -/

namespace SessionGateway.Http.Target

/-- Bytes of the longest target. -/
def sizeLimit : Nat := 65534

def schemeSizeLimit : Nat := 64

def isSchemeChar (c : Char) : Bool := c.isAlphanum || c = '+' || c = '-' || c = '.'

/-- The rest after a scheme with two slashes, when there is one; outside, none when the scheme is
too long. -/
def afterScheme? (cs : List Char) : Option (Option (List Char)) :=
  let scheme := cs.takeWhile isSchemeChar
  match cs.dropWhile isSchemeChar with
  | ':' :: '/' :: '/' :: rest =>
    if schemeSizeLimit < scheme.length then none else some (some rest)
  | _ => some none

def isAuthorityChar (c : Char) : Bool :=
  c.isAlphanum || "!$&'()*+,-.:;=@[]_~".toList.contains c

/-- What has been seen of an authority since its last at sign or closing bracket. -/
structure Seen where
  colons : Nat
  opened : Bool
  closed : Bool
  percent : Bool
  endsWithAt : Bool

def Seen.step (s : Seen) (c : Char) : Option Seen :=
  let s := { s with endsWithAt := false }
  if c = ':' then if 8 ≤ s.colons then none else some { s with colons := s.colons + 1 }
  else if c = '[' then if s.percent || s.opened then none else some { s with opened := true }
  else if c = ']' then
    if !s.opened || s.closed then none
    else some { s with closed := true, colons := 0, percent := false }
  else if c = '@' then some { s with endsWithAt := true, colons := 0, percent := false }
  else if c = '%' then some { s with percent := true }
  else if isAuthorityChar c then some s
  else none

def isAuthority (cs : List Char) : Bool :=
  match cs.foldlM Seen.step ⟨0, false, false, false, false⟩ with
  | none => false
  | some s => s.opened == s.closed && s.colons ≤ 1 && !s.endsWithAt && !s.percent

def endsAuthority (c : Char) : Bool := c = '/' || c = '?' || c = '#'

def isPathChar (c : Char) : Bool :=
  0x20 < c.toNat && !"#<>?`".toList.contains c

def isQueryChar (c : Char) : Bool := 0x20 < c.toNat && !"\"#<>".toList.contains c

/-- A path, perhaps a query, and a fragment that does not count. -/
def isPathAndQuery (cs : List Char) : Bool :=
  let sent := cs.takeWhile (· != '#')
  match sent.dropWhile (· != '?') with
  | _ :: query => (sent.takeWhile (· != '?')).all isPathChar && query.all isQueryChar
  | [] => sent.all isPathChar

/-- Whether a request can be sent to what the text names. -/
def isSendable (text : String) : Bool :=
  let cs := text.toList
  if sizeLimit < text.utf8ByteSize then false
  else match cs with
    | [] => false
    | '/' :: _ => isPathAndQuery cs
    | _ =>
      match afterScheme? cs with
      | none => false
      | some none => isAuthority cs
      | some (some rest) =>
        let authority := rest.takeWhile fun c => !endsAuthority c
        !authority.isEmpty && isAuthority authority &&
          isPathAndQuery (rest.dropWhile fun c => !endsAuthority c)

end SessionGateway.Http.Target
