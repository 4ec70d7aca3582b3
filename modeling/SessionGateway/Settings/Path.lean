import SessionGateway.Number.Reading
import SessionGateway.Settings.Value
import SessionGateway.Text.Ascii

/-! Keys as paths into settings: names divided by points, with indices in brackets. A key that is
no path is one name. -/

namespace SessionGateway

inductive PathStep where
  | key (name : String)
  | item (index : Int)
  deriving DecidableEq, Repr

namespace PathStep

def isNameChar (c : Char) : Bool := c.isAlphanum || c = ' ' || c = '_' || c = '-'

/-- The name at the front, which must not be empty. -/
def readName? (cs : List Char) : Option (String × List Char) :=
  if (cs.takeWhile isNameChar).isEmpty then none
  else some (String.ofList (cs.takeWhile isNameChar), cs.dropWhile isNameChar)

def isBlank (c : Char) : Bool := c = ' ' || c = '\t'

/-- The index after an opening bracket, with the text after the closing one. Blanks may stand around
the index. -/
def readIndex? (cs : List Char) : Option (Int × List Char) :=
  let inner := Text.trimBoth isBlank (cs.takeWhile (· != ']'))
  match cs.dropWhile (· != ']') with
  | ']' :: rest =>
    if inner.head? = some '+' then none
    else (readInt64? (String.ofList inner)).map fun i => (i, rest)
  | _ => none

/-- The steps after the first name. -/
def readMore? : Nat → List Char → Option (List PathStep)
  | 0, _ => none
  | _ + 1, [] => some []
  | fuel + 1, '.' :: cs => do
    let (name, cs) ← readName? cs
    return .key name :: (← readMore? fuel cs)
  | fuel + 1, '[' :: cs => do
    let (index, cs) ← readIndex? cs
    return .item index :: (← readMore? fuel cs)
  | _ + 1, _ => none

def read? (key : String) : Option (List PathStep) := do
  let (name, cs) ← readName? key.toList
  return .key name :: (← readMore? (cs.length + 1) cs)

/-- The steps of a key. -/
def ofKey (key : String) : List PathStep := (read? key).getD [.key key]

end PathStep

namespace Setting

/-- Puts a value at the end of a path, making tables and lists of whatever is on the way. -/
def putPath (value : Setting) : List PathStep → Setting → Setting
  | [], s => s
  | [.key name], s => put name value s
  | [.item index], s => changeItem index (fun _ => value) s
  | .key name :: rest, s => changeKey name blank (putPath value rest) s
  | .item index :: rest, s => changeItem index (putPath value rest) s

/-- Lays the entries of a source over what is there, each under its key as a path. -/
def overlay (base : Setting) (layer : List (String × Setting)) : Setting :=
  layer.foldl (fun s entry => putPath entry.2 (PathStep.ofKey entry.1) s) base

end Setting

end SessionGateway
