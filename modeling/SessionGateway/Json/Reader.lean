import SessionGateway.Json.Token

/-! Reading JSON values from a text, and passing over values that nobody wants. -/

namespace SessionGateway.JsonText

/-- The items up to the closing bracket, which is taken too. -/
def readItems {α : Type} (item : Reader α) :
    Nat → Bool → List α → List Char → Except Fault (List α × List Char)
  | 0, _, _, cs => .error (.here .endInList cs)
  | fuel + 1, first, done, cs => do
    let (more, cs) ← nextItem first cs
    if more then
      let (v, cs) ← item cs
      readItems item fuel false (v :: done) cs
    else return (done.reverse, cs.drop 1)

/-- The members up to the closing brace, which is taken too. -/
def readMembers {α : Type} (value : Reader α) (length : Nat) :
    Nat → Bool → List (String × α) → List Char → Except Fault (List (String × α) × List Char)
  | 0, _, _, cs => .error (.here .endInObject cs)
  | fuel + 1, first, done, cs => do
    let (more, cs) ← nextKey first cs
    if more then
      let (key, cs) ← readString length cs
      let cs ← readColon cs
      let (v, cs) ← value cs
      readMembers value length fuel false ((key, v) :: done) cs
    else return (done.reverse, cs.drop 1)

/-- A value whose containers are nested at most `depth` deep. `fuel` exceeds the length of the
text. -/
def readValue (fuel : Nat) : Nat → Reader Json
  | depth, cs =>
    match skipBlanks cs with
    | [] => .error (.next .endInValue [])
    | c :: cs =>
      if c = 'n' then do return (.null, ← readWord "ull".toList cs)
      else if c = 't' then do return (.bool true, ← readWord "rue".toList cs)
      else if c = 'f' then do return (.bool false, ← readWord "alse".toList cs)
      else if c = '-' then readNumber true cs
      else if c.isDigit then readNumber false (c :: cs)
      else if c = '"' then do
        let (s, cs) ← readString fuel cs
        return (.string s, cs)
      else if c = '[' then
        match depth with
        | 0 => .error (.next .tooDeep (c :: cs))
        | depth + 1 => do
          let (items, cs) ← readItems (readValue fuel depth) fuel true [] cs
          return (.array items, cs)
      else if c = '\x7b' then
        match depth with
        | 0 => .error (.next .tooDeep (c :: cs))
        | depth + 1 => do
          let (pairs, cs) ← readMembers (readValue fuel depth) fuel fuel true [] cs
          return (.object (Members.ofPairs pairs), cs)
      else .error (.next .noValue (c :: cs))

/-- How deep the containers of a text may be nested. -/
def depthLimit : Nat := 127

/-- Reads a whole text, with blanks around, by a reader that takes a bound on its length. -/
def readWhole? {α : Type} (read : Nat → Reader α) (text : String) : Except ReadError α :=
  let cs := text.toList
  match read (cs.length + 1) cs with
  | .error fault => .error (fault.locate text)
  | .ok (v, rest) =>
    match skipBlanks rest with
    | [] => .ok v
    | rest => .error ((Fault.next .trailingCharacters rest).locate text)

/-- The rest after the digits before a point. -/
def skipWhole : List Char → Except Fault (List Char)
  | [] => .error (.here .badNumber [])
  | c :: cs =>
    if !c.isDigit then .error (.next .badNumber (c :: cs))
    else if c = '0' && cs.takeWhile Char.isDigit ≠ [] then .error (.next .badNumber cs)
    else .ok (cs.dropWhile Char.isDigit)

/-- The rest after a point with its digits, if there is one. -/
def skipFraction : List Char → Except Fault (List Char)
  | '.' :: cs =>
    if cs.takeWhile Char.isDigit = [] then .error (.next .badNumber cs)
    else .ok (cs.dropWhile Char.isDigit)
  | cs => .ok cs

/-- The rest after an exponent, if there is one, however large it is. -/
def skipExponent : List Char → Except Fault (List Char)
  | [] => .ok []
  | mark :: cs =>
    if !isExponentMark mark then .ok (mark :: cs)
    else
      let unsigned := if cs.head? = some '-' || cs.head? = some '+' then cs.drop 1 else cs
      if unsigned.takeWhile Char.isDigit = [] then .error (.next .badNumber unsigned)
      else .ok (unsigned.dropWhile Char.isDigit)

/-- The rest after a number of any size. -/
def skipNumber (cs : List Char) : Except Fault (List Char) := do
  let cs ← skipWhole cs
  let cs ← skipFraction cs
  skipExponent cs

/-- The rest after an escape; surrogates need not pair up. -/
def skipEscape : List Char → Except Fault (List Char)
  | [] => .error (.here .endInString [])
  | c :: cs =>
    if (simpleEscape? c).isSome then .ok cs
    else if c = 'u' then do
      let (_, cs) ← readHex4 cs
      return cs
    else .error (.next .badEscape (c :: cs))

/-- The rest after the closing quote. -/
def skipString : Nat → List Char → Except Fault (List Char)
  | 0, cs => .error (.here .endInString cs)
  | _ + 1, [] => .error (.here .endInString [])
  | fuel + 1, c :: cs =>
    if c = '"' then .ok cs
    else if c = '\\' then do
      let cs ← skipEscape cs
      skipString fuel cs
    else if c.toNat < 0x20 then .error (.here .controlCharacter (c :: cs))
    else skipString fuel cs

/-- The rest after the closing bracket. -/
def skipItems (item : List Char → Except Fault (List Char)) :
    Nat → Bool → List Char → Except Fault (List Char)
  | 0, _, cs => .error (.here .endInList cs)
  | fuel + 1, first, cs =>
    match skipBlanks cs with
    | [] => .error (.next .endInList [])
    | c :: cs =>
      if c = ']' then .ok cs
      else if first then do
        let cs ← item (c :: cs)
        skipItems item fuel false cs
      else if c = ',' then do
        let cs ← item cs
        skipItems item fuel false cs
      else .error (.next .noCommaInList (c :: cs))

/-- The rest after a member: a key, a colon and a value. -/
def skipMember (length : Nat) (value : List Char → Except Fault (List Char)) (cs : List Char) :
    Except Fault (List Char) :=
  match skipBlanks cs with
  | [] => .error (.next .endInObject [])
  | '"' :: cs => do
    let cs ← skipString length cs
    let cs ← readColon cs
    value cs
  | cs => .error (.next .keyNotString cs)

/-- The rest after the closing brace. -/
def skipMembers (length : Nat) (value : List Char → Except Fault (List Char)) :
    Nat → Bool → List Char → Except Fault (List Char)
  | 0, _, cs => .error (.here .endInObject cs)
  | fuel + 1, first, cs =>
    match skipBlanks cs with
    | [] => .error (.next .endInObject [])
    | c :: cs =>
      if c = '\x7d' then .ok cs
      else if first then do
        let cs ← skipMember length value (c :: cs)
        skipMembers length value fuel false cs
      else if c = ',' then do
        let cs ← skipMember length value cs
        skipMembers length value fuel false cs
      else .error (.next .noCommaInObject (c :: cs))

/-- The rest after a value of any depth. -/
def skipValue (length : Nat) : Nat → List Char → Except Fault (List Char)
  | 0, cs => .error (.here .endInValue cs)
  | fuel + 1, cs =>
    match skipBlanks cs with
    | [] => .error (.next .endInValue [])
    | c :: cs =>
      if c = 'n' then readWord "ull".toList cs
      else if c = 't' then readWord "rue".toList cs
      else if c = 'f' then readWord "alse".toList cs
      else if c = '-' then skipNumber cs
      else if c.isDigit then skipNumber (c :: cs)
      else if c = '"' then skipString length cs
      else if c = '[' then skipItems (skipValue length fuel) length true cs
      else if c = '\x7b' then skipMembers length (skipValue length fuel) length true cs
      else .error (.next .noValue (c :: cs))

end SessionGateway.JsonText

namespace SessionGateway.Json

/-- The value that a whole text stands for. -/
def ofText (text : String) : Except JsonText.ReadError Json :=
  JsonText.readWhole? (fun fuel => JsonText.readValue fuel JsonText.depthLimit) text

end SessionGateway.Json
