import SessionGateway.Text.Packed
import SessionGateway.Text.Utf8

/-! Tables of characters by number, and texts read from the front of bytes. -/

namespace SessionGateway.Text

/-- Code points by number; a zero stands for a number without a character. -/
structure CodeTable where
  codes : Array Nat

namespace CodeTable

/-- The codes so far, and the last one that stands for a character. -/
structure Progress where
  codes : Array Nat
  last : Int

/-- Zero stands for no character, and other numbers for the distance from the code that is next in
order. -/
def Progress.read (p : Progress) (n : Nat) : Progress :=
  match n with
  | 0 => { p with codes := p.codes.push 0 }
  | distance + 1 =>
    let code := p.last + 1 + Packed.signed distance
    ⟨p.codes.push code.toNat, code⟩

def ofText (packed : String) : CodeTable :=
  ⟨((Packed.numbers packed).foldl Progress.read ⟨#[], -1⟩).codes⟩

def char? (table : CodeTable) (number : Nat) : Option Char :=
  match table.codes[number]?.getD 0 with
  | 0 => none
  | code => some (Char.ofNat code)

end CodeTable

/-- What stands at the front of bytes: the characters, none where the bytes stand for nothing, and
how many bytes after the first belong to them. -/
structure Front where
  chars : Option (List Char)
  extra : Nat

namespace Front

def char (c : Char) : Front := ⟨some [c], 0⟩

/-- Bytes that stand for nothing, with `extra` of them after the first. -/
def fault (extra : Nat) : Front := ⟨none, extra⟩

def ascii (b : UInt8) : Front := char (Char.ofNat b.toNat)

/-- What two bytes stand for. Where it is nothing, a second byte of the ASCII range counts for
itself. -/
def pair (chars : Option (List Char)) (second : UInt8) : Front :=
  if chars.isNone && second < 0x80 then fault 0 else ⟨chars, 1⟩

end Front

/-- The text of bytes by what stands at their front, with a replacement for what is nothing; `fuel`
is at least the number of bytes. -/
def decodeBy (front : UInt8 → List UInt8 → Front) : Nat → List UInt8 → List Char
  | 0, _ => []
  | _ + 1, [] => []
  | fuel + 1, b :: rest =>
    let here := front b rest
    here.chars.getD [replacement] ++ decodeBy front fuel (rest.drop here.extra)

end SessionGateway.Text
