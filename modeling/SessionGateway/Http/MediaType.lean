import SessionGateway.Text.Charset

/-! Media types with their parameters, and the encoding of texts that they name. -/

namespace SessionGateway.Http

structure MediaType where
  kind : String
  /-- Names in lower case, with their values. -/
  parameters : List (String × String)
  deriving DecidableEq, Repr

namespace MediaType

def isTokenChar (c : Char) : Bool := c.isAlphanum || "!#$%&'*+-.^_`|~".toList.contains c

/-- Characters that a value in quotes may hold. -/
def isQuotable (c : Char) : Bool := c = '\t' || (0x20 ≤ c.toNat && c.toNat ≠ 0x7F)

/-- A value up to the quote that closes it. It is not empty: a quote at its front belongs to it. -/
def spanQuoted (cs : List Char) : List Char × List Char :=
  let inside (c : Char) : Bool := c ≠ '"' && isQuotable c
  match cs with
  | '"' :: cs => ('"' :: cs.takeWhile inside, cs.dropWhile inside)
  | cs => (cs.takeWhile inside, cs.dropWhile inside)

/-- A value in quotes, and what follows the next semicolon. -/
def readQuoted? (cs : List Char) : Option (List Char × List Char) :=
  match spanQuoted cs with
  | (value, '"' :: rest) =>
    match rest.dropWhile (· == ' ') with
    | [] => some (value, [])
    | ';' :: rest => some (value, rest)
    | _ => none
  | _ => none

def readValue? (cs : List Char) : Option (List Char × List Char) :=
  match cs with
  | '"' :: cs => readQuoted? cs
  | cs =>
    let value := cs.takeWhile isTokenChar
    match cs.dropWhile isTokenChar with
    | [] => some (value, [])
    | ';' :: rest => if value.isEmpty then none else some (value, rest)
    | _ => none

/-- Parameters divided by semicolons, with blanks before their names. -/
def readParameters? : Nat → List Char → Option (List (String × String))
  | 0, _ => none
  | fuel + 1, cs =>
    match cs.dropWhile (· == ' ') with
    | [] => some []
    | cs =>
      let name := cs.takeWhile isTokenChar
      match cs.dropWhile isTokenChar with
      | '=' :: rest =>
        if name.isEmpty then none
        else do
          let (value, rest) ← readValue? rest
          let more ← readParameters? fuel rest
          return (Text.foldAscii (String.ofList name), String.ofList value) :: more
      | _ => none

def ofText? (s : String) : Option MediaType :=
  let cs := s.toList
  let kind := cs.takeWhile isTokenChar
  match cs.dropWhile isTokenChar with
  | '/' :: rest =>
    let subkind := rest.takeWhile isTokenChar
    if kind.isEmpty then none
    else
      let full := Text.foldAscii (String.ofList (kind ++ '/' :: subkind))
      match rest.dropWhile isTokenChar with
      | [] => some ⟨full, []⟩
      | ';' :: params =>
        if subkind.isEmpty then none
        else (readParameters? (params.length + 1) params).map fun ps => ⟨full, ps⟩
      | _ => none
  | _ => none

/-- The encoding that a content type names, or else the usual one. -/
def charset (contentType : Option String) : Text.Charset :=
  let named := do
    let mediaType ← ofText? (← contentType)
    Text.Charset.ofLabel? (← mediaType.parameters.lookup "charset")
  named.getD .utf8

end MediaType

end SessionGateway.Http
