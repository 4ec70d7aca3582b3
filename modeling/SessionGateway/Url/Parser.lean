import SessionGateway.Url.Basic

/-! Reading URLs, alone or relative to another one. -/

namespace SessionGateway.Url

/-- Control characters and spaces at both ends, and tabs and line breaks anywhere, do not count. -/
def cleaned (text : String) : List Char :=
  (Text.trimBoth (·.toNat ≤ 0x20) text.toList).filter fun c => c ≠ '\t' ∧ c ≠ '\n' ∧ c ≠ '\r'

def isSchemeChar (c : Char) : Bool := c.isAlphanum || c = '+' || c = '-' || c = '.'

/-- The scheme in lower case and the rest after its colon. -/
def splitScheme? (cs : List Char) : Option (String × List Char) :=
  let name := cs.takeWhile isSchemeChar
  match name, cs.dropWhile isSchemeChar with
  | c :: _, ':' :: rest =>
    if c.isAlpha then some (String.ofList (name.map Char.toLower), rest) else none
  | _, _ => none

/-- Both slashes divide the path of a special URL. -/
def isSlash (special : Bool) (c : Char) : Bool := c = '/' || (special && c = '\\')

def endsPath (c : Char) : Bool := c = '?' || c = '#'

def endsAuthority (special : Bool) (c : Char) : Bool := isSlash special c || endsPath c

/-- The query after a question mark, up to the fragment, and the fragment. -/
def readQueryFragment (special : Bool) (cs : List Char) : Option String × Option String :=
  let set := if special then inSpecialQuerySet else inQuerySet
  let encode (set : Char → Bool) (cs : List Char) := String.ofList (percentEncode set cs)
  match cs with
  | '?' :: rest =>
    let query := encode set (rest.takeWhile (· != '#'))
    match rest.dropWhile (· != '#') with
    | _ :: fragment => (some query, some (encode inFragmentSet fragment))
    | [] => (some query, none)
  | '#' :: fragment => (none, some (encode inFragmentSet fragment))
  | _ => (none, none)

/-- A segment with encoded points decoded, for telling apart the two that are no names. -/
def dotsOf (segment : List Char) : List Char :=
  match segment with
  | '%' :: '2' :: e :: rest => if e = 'e' ∨ e = 'E' then '.' :: dotsOf rest else segment
  | '.' :: rest => '.' :: dotsOf rest
  | _ => segment

def isDriveLetter (segment : List Char) : Bool :=
  match segment with
  | [c, mark] => c.isAlpha && (mark = ':' || mark = '|')
  | _ => false

/-- The segments without the last one; one that looks like a drive stays. -/
def parent (segments : List String) : List String :=
  if segments.getLast?.any fun s => isDriveLetter s.toList then segments else segments.dropLast

def encodeSegment (segment : List Char) : String := String.ofList (percentEncode inPathSet segment)

/-- Walks the segments of a path from where it starts: one point stays, two points go up. A drive at
the front of a file's path has one spelling. -/
def walkSegments (file : Bool) (start : List String) : List (List Char) → List String
  | [] => start
  | segment :: rest =>
    let isLast := rest.isEmpty
    let dots := dotsOf segment
    if dots = ['.', '.'] then
      let up := parent start
      walkSegments file (if isLast then up ++ [""] else up) rest
    else if dots = ['.'] then
      walkSegments file (if isLast then start ++ [""] else start) rest
    else if file && start.isEmpty && isDriveLetter segment then
      walkSegments file [String.ofList (segment.take 1 ++ [':'])] rest
    else walkSegments file (start ++ [encodeSegment segment]) rest

/-- The segments of a path; a slash at its front counts for nothing. -/
def readSegments (scheme : String) (cs : List Char) : List String :=
  let special := isSpecialScheme scheme
  let body := match cs with
    | c :: rest => if isSlash special c then rest else c :: rest
    | [] => []
  walkSegments (scheme == "file") [] (Text.splitAtChar (isSlash special) body)

/-- The segments without empty ones at the front; one of them stays if there is nothing else. -/
def withoutEmptyFront : List String → List String
  | "" :: s :: rest => withoutEmptyFront (s :: rest)
  | segments => segments

/-- A file on a drive is on no host, and its path starts with a name. -/
def settleFile (u : Url) (segments : List String) : Url :=
  let onDrive := segments.head?.any fun s => isDriveLetter s.toList
  { u with
    host := if onDrive then none else u.host
    path := .segments (withoutEmptyFront segments) }

/-- The path with what follows it, after an authority. -/
def finish (u : Url) (cs : List Char) : Url :=
  let path := cs.takeWhile fun c => !endsPath c
  let (query, fragment) := readQueryFragment u.isSpecial (cs.dropWhile fun c => !endsPath c)
  let segments := if path.isEmpty && !u.isSpecial then [] else readSegments u.scheme path
  let u := { u with query := query, fragment := fragment }
  if u.scheme = "file" then settleFile u segments else { u with path := .segments segments }

/-- A user's name and password before the last at sign of an authority, and the rest. -/
def splitUserinfo (authority : List Char) : Option (List Char) × List Char :=
  if authority.contains '@' then
    let host := (authority.reverse.takeWhile (· != '@')).reverse
    (some (authority.take (authority.length - host.length - 1)), host)
  else (none, authority)

/-- An empty password is none. -/
def readUserinfo (cs : List Char) : String × Option String :=
  let encode (cs : List Char) := String.ofList (percentEncode inUserinfoSet cs)
  let name := cs.takeWhile (· != ':')
  match cs.dropWhile (· != ':') with
  | _ :: c :: password => (encode name, some (encode (c :: password)))
  | _ => (encode name, none)

/-- The colon of a port is the first one outside brackets. -/
def splitPort : Bool → List Char → List Char × List Char
  | _, [] => ([], [])
  | inside, c :: rest =>
    if c = ':' && !inside then ([], c :: rest)
    else
      let (host, port) := splitPort ((inside || c = '[') && c ≠ ']') rest
      (c :: host, port)

/-- A port after its colon; an empty one is none. -/
def readPort? (scheme : String) (cs : List Char) : Option (Option Nat) :=
  match cs with
  | [] => some none
  | _ :: digits =>
    if !digits.all Char.isDigit then none
    else if digits.isEmpty then some none
    else if 65535 < Text.decimalValue digits then none
    else
      let port := Text.decimalValue digits
      some (if defaultPort? scheme = some port then none else some port)

def blank (scheme : String) : Url := ⟨scheme, "", none, none, none, .segments [], none, none⟩

def readHost? (special : Bool) (cs : List Char) : Option Host :=
  if special then Host.ofChars? cs else Host.ofOther? cs

/-- The place that an authority names: a host, perhaps with a port and with who asks. -/
def readPlace? (scheme : String) (authority : List Char) : Option Url := do
  let (userinfo, hostPort) := splitUserinfo authority
  let (host, port) := splitPort false hostPort
  if userinfo.isSome && hostPort.isEmpty then none
  else
    let (username, password) := (userinfo.map readUserinfo).getD ("", none)
    let host ← readHost? (isSpecialScheme scheme) host
    let port ← readPort? scheme port
    return { blank scheme with
      username := username, password := password, host := some host, port := port }

/-- A URL from its authority on. -/
def readAuthority? (scheme : String) (cs : List Char) : Option Url :=
  let inAuthority (c : Char) := !endsAuthority (isSpecialScheme scheme) c
  (readPlace? scheme (cs.takeWhile inAuthority)).map (finish · (cs.dropWhile inAuthority))

/-- A file after the two slashes: the host may be empty, and `localhost` is the same. What follows
an empty host is read with a slash before it. -/
def readFileHost? (cs : List Char) : Option Url :=
  let name := cs.takeWhile fun c => !endsAuthority true c
  let rest := cs.dropWhile fun c => !endsAuthority true c
  if isDriveLetter name then some (finish (blank "file") cs)
  else if name.isEmpty then some (finish (blank "file") ('/' :: rest))
  else do
    let host ← Host.ofChars? name
    return if host = .domain "localhost" then finish (blank "file") ('/' :: rest)
      else finish { blank "file" with host := some host } rest

/-- The same place as `base`, with its path as far as `keep` says. -/
def samePlace (base : Url) : Url := { base with query := none, fragment := none }

def basePath (base : Url) : List String :=
  match base.path with
  | .segments parts => parts
  | .plain _ => []

/-- What follows the slashes of a place that names its own authority. Two plain slashes end where
they end; of others all are skipped. -/
def afterSlashes? (special : Bool) (cs : List Char) : Option (List Char) :=
  match cs with
  | '/' :: '/' :: rest => some rest
  | a :: b :: rest =>
    if isSlash special a && isSlash special b then some (rest.dropWhile (isSlash special)) else none
  | _ => none

/-- A URL without a scheme of its own, read at the place of another. -/
def readRelative? (base : Url) (cs : List Char) : Option Url :=
  let special := base.isSpecial
  let place := samePlace base
  match cs with
  | [] => some { place with query := base.query }
  | c :: _ =>
    if c = '?' then
      let (query, fragment) := readQueryFragment special cs
      some { place with query := query, fragment := fragment }
    else if c = '#' then
      let (_, fragment) := readQueryFragment special cs
      some { place with query := base.query, fragment := fragment }
    else if isSlash special c then
      match afterSlashes? special cs with
      | none => some (finish place cs)
      | some rest =>
        if base.scheme = "file" then readFileHost? rest else readAuthority? base.scheme rest
    else
      let path := cs.takeWhile fun c => !endsPath c
      let (query, fragment) := readQueryFragment special (cs.dropWhile fun c => !endsPath c)
      let segments := walkSegments (base.scheme == "file") base.basePath.dropLast
        (Text.splitAtChar (isSlash special) path)
      some { place with path := .segments segments, query := query, fragment := fragment }

/-- A URL after its scheme. -/
def readAfterScheme? (base : Option Url) (scheme : String) (cs : List Char) : Option Url :=
  if scheme = "file" then
    match cs with
    | a :: b :: rest =>
      if isSlash true a && isSlash true b then readFileHost? rest
      else match base with
        | some u =>
          if u.scheme = "file" then readRelative? u cs else some (finish (blank scheme) cs)
        | none => some (finish (blank scheme) cs)
    | _ => some (finish (blank scheme) cs)
  else if isSpecialScheme scheme then
    let authority := readAuthority? scheme (cs.dropWhile (isSlash true))
    let slashes := (cs.takeWhile (isSlash true)).length
    match base with
    | some u => if u.scheme = scheme && slashes < 2 then readRelative? u cs else authority
    | none => authority
  else match cs with
    | '/' :: '/' :: rest => readAuthority? scheme rest
    | '/' :: _ => some (finish (blank scheme) cs)
    | _ =>
      let path := cs.takeWhile fun c => !endsPath c
      let (query, fragment) := readQueryFragment false (cs.dropWhile fun c => !endsPath c)
      some { blank scheme with
        path := .plain (String.ofList (percentEncode isControl path)),
        query := query, fragment := fragment }

/-- A URL without a scheme needs a base; one whose path has no structure only takes fragments. -/
def readWithoutScheme? (base : Option Url) (cs : List Char) : Option Url := do
  let u ← base
  match u.path, cs with
  | .plain _, '#' :: _ => readRelative? u cs
  | .plain _, _ => none
  | .segments _, cs => readRelative? u cs

def read? (base : Option Url) (text : String) : Option Url :=
  let cs := cleaned text
  match splitScheme? cs with
  | some (scheme, rest) => readAfterScheme? base scheme rest
  | none => readWithoutScheme? base cs

/-- The URL that a text stands for by itself. -/
def ofText? (text : String) : Option Url := read? none text

/-- The URL that a text stands for at the place of `u`. -/
def join? (u : Url) (text : String) : Option Url := read? (some u) text

end SessionGateway.Url
