import SessionGateway.Json.Value
import SessionGateway.Number.Shortest
import SessionGateway.Text.Ascii

/-! JSON texts of values, on one line or spread over lines. Both come from one writer: a layout
says which blanks stand before the parts of a container and after a colon. -/

namespace SessionGateway

structure JsonLayout where
  /-- What separates the parts of a container `n` levels deep. -/
  lineBreak : Nat → List Char
  afterColon : List Char

namespace JsonLayout

def compact : JsonLayout := ⟨fun _ => [], []⟩

/-- Every part on a line of its own, two spaces deeper for each level. -/
def spread : JsonLayout := ⟨fun n => '\n' :: List.replicate (2 * n) ' ', [' ']⟩

end JsonLayout

namespace Json

/-- Control characters have short escapes or four hexadecimal digits; other characters but the
quote and the backslash stand for themselves. -/
def escapedChar (c : Char) : List Char :=
  if c = '"' then ['\\', '"']
  else if c = '\\' then ['\\', '\\']
  else if c = '\x08' then ['\\', 'b']
  else if c = '\x0c' then ['\\', 'f']
  else if c = '\n' then ['\\', 'n']
  else if c = '\r' then ['\\', 'r']
  else if c = '\t' then ['\\', 't']
  else if c.toNat < 0x20 then
    ['\\', 'u', '0', '0', Nat.digitChar (c.toNat / 16), Nat.digitChar (c.toNat % 16)]
  else [c]

def writeString (s : String) : List Char :=
  '"' :: s.toList.flatMap escapedChar ++ ['"']

/-- Numbers that are not finite have no JSON form and become null. -/
def writeReal (x : Binary64) : List Char :=
  if x.isFinite then (NumberLayout.json.write x).toList else "null".toList

mutual

def write (layout : JsonLayout) (depth : Nat) : Json → List Char
  | null => "null".toList
  | bool b => if b then "true".toList else "false".toList
  | integer i => (toString i).toList
  | real x => writeReal x
  | string s => writeString s
  | array [] => ['[', ']']
  | array (v :: items) =>
    '[' :: layout.lineBreak (depth + 1) ++ write layout (depth + 1) v ++
      (writeItems layout (depth + 1) items ++ (layout.lineBreak depth ++ [']']))
  | object [] => ['\x7b', '\x7d']
  | object ((k, v) :: members) =>
    '\x7b' :: layout.lineBreak (depth + 1) ++ writeString k ++
      ':' :: layout.afterColon ++ write layout (depth + 1) v ++
      (writeMembers layout (depth + 1) members ++ (layout.lineBreak depth ++ ['\x7d']))

/-- The items after the first. -/
def writeItems (layout : JsonLayout) (depth : Nat) : List Json → List Char
  | [] => []
  | v :: items =>
    ',' :: layout.lineBreak depth ++ write layout depth v ++ writeItems layout depth items

/-- The members after the first. -/
def writeMembers (layout : JsonLayout) (depth : Nat) : List (String × Json) → List Char
  | [] => []
  | (k, v) :: members =>
    ',' :: layout.lineBreak depth ++ writeString k ++ ':' :: layout.afterColon ++
      write layout depth v ++ writeMembers layout depth members

end

def text (v : Json) : String := String.ofList (write .compact 0 v)

def spreadText (v : Json) : String := String.ofList (write .spread 0 v)

end Json

end SessionGateway
