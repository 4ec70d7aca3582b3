import SessionGateway.Toml.Quoted

/-! Keys: bare or in quotes, and several of them with points between. -/

namespace SessionGateway.TomlText

def readSimpleKey (fuel : Nat) (cs : List Char) : Except Fault (String × List Char) := do
  match cs with
  | '"' :: rest =>
    let (chars, rest) ← readBasic fuel [] rest
    return (String.ofList chars, rest)
  | '\'' :: rest =>
    let (chars, rest) ← readLiteral rest
    return (String.ofList chars, rest)
  | cs =>
    let bare := cs.takeWhile Toml.isBareKeyChar
    if bare.isEmpty then .error (.before cs)
    else return (String.ofList bare, cs.dropWhile Toml.isBareKeyChar)

/-- A simple key with the blanks around it. -/
def readSpacedKey (fuel : Nat) (cs : List Char) : Except Fault (String × List Char) := do
  let (key, cs) ← readSimpleKey fuel (skipSpaces cs)
  return (key, skipSpaces cs)

/-- The keys after points. A point without a key behind it is left. -/
def readMoreKeys (length : Nat) : Nat → Reader (List String)
  | 0, cs => .ok ([], cs)
  | fuel + 1, cs => do
    match cs with
    | '.' :: rest =>
      match ← attempt (readSpacedKey length rest) with
      | none => return ([], cs)
      | some (key, rest) =>
        let (more, rest) ← readMoreKeys length fuel rest
        return (key :: more, rest)
    | cs => return ([], cs)

/-- How many parts a key may have, and how deep arrays and inline tables may be nested. -/
def depthLimit : Nat := 79

def readKey (length : Nat) (cs : List Char) : Except Fault (List String × List Char) := do
  let (keys, rest) ← inside "key" do
    let (key, rest) ← readSpacedKey length cs
    let (more, rest) ← readMoreKeys length length rest
    return (key :: more, rest)
  if depthLimit < keys.length then .error (.because .nestedTooDeep cs) else .ok (keys, rest)

end SessionGateway.TomlText
