import SessionGateway.Toml.Key
import SessionGateway.Toml.Number

/-! Reading TOML documents: lines of keys with values under headers of tables. -/

namespace SessionGateway.TomlText

/-- A word that stands for a value, once its first letter is there. -/
def readWord (word : String) (v : Toml) (cs : List Char) : Except Fault (Toml × List Char) :=
  match Text.afterStart? word.toList cs with
  | some rest => .ok (v, rest)
  | none => .error (Fault.before cs).commit

/-- An item of an array with what stands around it. -/
def readItem (value : Reader Toml) (length : Nat) (cs : List Char) :
    Except Fault (Toml × List Char) := do
  let (v, rest) ← value (← skipLayout length cs)
  return (v, ← skipLayout length rest)

/-- Things with commas between them, up to where no more can be read. A comma without one behind it
is left. -/
def readList {α : Type} (item : Reader α) : Nat → Reader (List α)
  | 0, cs => .ok ([], cs)
  | fuel + 1, cs => do
    match ← attempt (item cs) with
    | none => return ([], cs)
    | some (a, rest) =>
      match rest with
      | ',' :: after =>
        let (more, left) ← readList item fuel after
        return (a :: more, if more.isEmpty then rest else left)
      | rest => return ([a], rest)

/-- An array after its opening bracket. -/
def readArray (value : Reader Toml) (length : Nat) (cs : List Char) :
    Except Fault (Toml × List Char) :=
  committed do
    let (items, rest) ← readList (readItem value length) length cs
    let rest := if items.isEmpty then rest else (Text.afterStart? [','] rest).getD rest
    let rest ← skipLayout length rest
    let rest ← wanting "`]`" (inside "array" (expectChar ']' rest))
    return (.array items, rest)

/-- A key, an equals sign and a value. After a key, the rest has to be there. -/
def readPair (value : Reader Toml) (length : Nat) (cs : List Char) :
    Except Fault ((List String × Toml) × List Char) := do
  let (key, rest) ← readKey length cs
  committed do
    let rest ← wanting "`=`" (wanting "`.`" (expectChar '=' rest))
    let (v, rest) ← value (skipSpaces rest)
    return ((key, v), rest)

def readSpacedPair (value : Reader Toml) (length : Nat) (cs : List Char) :
    Except Fault ((List String × Toml) × List Char) := do
  let (pair, rest) ← readPair value length cs
  return (pair, skipSpaces rest)

/-- The table of the pairs in braces. -/
def tableOfPairs (pairs : List (List String × Toml)) : Except Toml.Conflict Toml :=
  pairs.foldlM (fun table pair => Toml.putDotted .keyInBraces none pair.1 pair.2 table)
    (Toml.emptyTable .inline)

/-- An inline table after its opening brace. -/
def readInlineTable (value : Reader Toml) (length : Nat) (cs : List Char) :
    Except Fault (Toml × List Char) :=
  committed do
    let (pairs, rest) ← readList (readSpacedPair value length) length cs
    let rest := skipSpaces rest
    match tableOfPairs pairs with
    | .error conflict => .error (.because (.conflict conflict) cs)
    | .ok table =>
      let rest ← wanting "`\x7d`" (inside "inline table" (expectChar '\x7d' rest))
      return (table, rest)

/-- Where no value can start with the first character. -/
def noValue (cs : List Char) : Fault :=
  { Fault.before cs with label := some "string", expected := ["`\"`", "`'`"] }

/-- A value whose arrays and inline tables are nested at most `depth` deep. -/
def readValue (length : Nat) : Nat → Reader Toml
  | depth, cs =>
    match cs with
    | [] => .error (.before [])
    | '[' :: rest =>
      match depth with
      | 0 => .error (Fault.because .nestedTooDeep cs).commit
      | depth + 1 => readArray (readValue length depth) length rest
    | '\x7b' :: rest =>
      match depth with
      | 0 => .error (Fault.because .nestedTooDeep cs).commit
      | depth + 1 => readInlineTable (readValue length depth) length rest
    | 't' :: _ => readWord "true" (.boolean true) cs
    | 'f' :: _ => readWord "false" (.boolean false) cs
    | 'i' :: _ => readInfinity false cs
    | 'n' :: _ => readNaN false cs
    | '_' :: _ => wanting "leading digit" (readInteger cs)
    | '.' :: _ => wanting "leading digit" (readReal cs)
    | c :: _ =>
      if c = '"' ∨ c = '\'' then do
        let (s, rest) ← readString length cs
        return (.text s, rest)
      else if c = '+' ∨ c = '-' ∨ c.isDigit then readNumeric cs
      else .error (noValue cs)

/-- The document with the path of the header in force. -/
structure Progress where
  root : Toml
  header : List String

/-- What a change makes of a document, or a fault told of where the change was written. -/
def changed (change : Toml → Except Toml.Conflict Toml) (root : Toml) (start : List Char) :
    Except Fault Toml :=
  (change root).mapError fun conflict => .because (.conflict conflict) start

/-- The path of a header in brackets or in double ones, after the first bracket. -/
def readHeaderPath (length : Nat) (cs : List Char) :
    Except Fault ((Bool × List String) × List Char) := do
  match cs with
  | [] => .error (.before ['['])
  | '[' :: rest =>
    let (path, rest) ← readKey length rest
    let close := fun rest => do expectChar ']' (← expectChar ']' rest)
    match close rest with
    | .ok after => return ((true, path), after)
    | .error _ => .error (((Fault.before rest).wanting "`.`").wanting "`]]`")
  | cs =>
    let (path, rest) ← readKey length cs
    let rest ← wanting "`]`" (wanting "`.`" (expectChar ']' rest))
    return ((false, path), rest)

/-- A header, from its first bracket on. -/
def readHeader (length : Nat) (progress : Progress) (cs : List Char) :
    Except Fault (Progress × List Char) :=
  inside "table header" do
    let ((double, path), rest) ← readHeaderPath length cs.tail
    let rest ← endContent rest
    let root ← changed (Toml.openHeader double path) progress.root cs
    return (⟨root, path⟩, rest)

/-- An entry of the table in force, on a line of its own. -/
def readEntry (length : Nat) (progress : Progress) (cs : List Char) :
    Except Fault (Progress × List Char) := do
  let ((path, v), rest) ← readPair (readValue length depthLimit) length cs
  let rest ← endContent rest
  let root ← changed (Toml.putUnder progress.header path v) progress.root cs
  return ({ progress with root := root }, rest)

/-- One line of a document, from its first character that is not blank. -/
def readLine (length : Nat) (progress : Progress) (cs : List Char) :
    Except Fault (Progress × List Char) :=
  match cs with
  | '#' :: _ => (endLine (skipComment cs)).map fun rest => (progress, rest)
  | '[' :: _ => readHeader length progress cs
  | c :: _ =>
    if c = '\n' ∨ c = '\r' then (endLine cs).map fun rest => (progress, rest)
    else readEntry length progress cs
  | [] => .ok (progress, [])

def readLines (length : Nat) : Nat → Progress → List Char → Except Fault Toml
  | 0, progress, _ => .ok progress.root
  | fuel + 1, progress, cs =>
    match skipSpaces cs with
    | [] => .ok progress.root
    | cs => do
      let (progress, cs) ← readLine length progress cs
      readLines length fuel progress cs

/-- The mark of an encoding at the start of a text is not part of it. -/
def withoutMark : List Char → List Char
  | '\ufeff' :: cs => cs
  | cs => cs

end SessionGateway.TomlText

namespace SessionGateway.Toml

def ofText (text : String) : Except TomlText.Fault Toml :=
  let cs := TomlText.withoutMark text.toList
  TomlText.readLines (cs.length + 1) (cs.length + 1) ⟨emptyTable .header, []⟩ cs

end SessionGateway.Toml
