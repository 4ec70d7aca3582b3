import SessionGateway.Number.Binary64

/-! Bytes of texts, and texts of bytes: where bytes are no text, each longest start of a character
that goes no further becomes one replacement character. -/

namespace SessionGateway.Text

def utf8 (cs : List Char) : List UInt8 := cs.flatMap String.utf8EncodeChar

/-- How many continuation bytes follow a first byte, and the range of the first of them; none for
a byte that starts no character of several bytes. -/
def sequenceShape? (b : UInt8) : Option (Nat × UInt8 × UInt8) :=
  if 0xC2 ≤ b && b ≤ 0xDF then some (1, 0x80, 0xBF)
  else if b == 0xE0 then some (2, 0xA0, 0xBF)
  else if b == 0xED then some (2, 0x80, 0x9F)
  else if 0xE1 ≤ b && b ≤ 0xEF then some (2, 0x80, 0xBF)
  else if b == 0xF0 then some (3, 0x90, 0xBF)
  else if b == 0xF4 then some (3, 0x80, 0x8F)
  else if 0xF1 ≤ b && b ≤ 0xF3 then some (3, 0x80, 0xBF)
  else none

/-- The continuation bytes at the front, at most `count`; the first lies between `low` and
`high`. -/
def takeContinuation : Nat → UInt8 → UInt8 → List UInt8 → List UInt8
  | 0, _, _, _ => []
  | _ + 1, _, _, [] => []
  | count + 1, low, high, b :: rest =>
    if low ≤ b && b ≤ high then b :: takeContinuation count 0x80 0xBF rest else []

/-- The bits of the first byte that belong to the character. -/
def leadingBits (count : Nat) (b : UInt8) : Nat :=
  b.toNat % power 2 (6 - count)

def replacement : Char := '\ufffd'

/-- The first character of bytes, or none where a replacement stands, with the number of bytes it
takes. -/
def nextChar (b : UInt8) (rest : List UInt8) : Option Char × Nat :=
  if b < 0x80 then (some (Char.ofNat b.toNat), 1)
  else match sequenceShape? b with
    | none => (none, 1)
    | some (count, low, high) =>
      let more := takeContinuation count low high rest
      if more.length = count then
        (some (Char.ofNat
          (more.foldl (fun n b => 64 * n + b.toNat % 64) (leadingBits count b))), count + 1)
      else (none, more.length + 1)

/-- `fuel` is at least the number of bytes. -/
def decodeUtf8 : Nat → List UInt8 → List (Option Char)
  | 0, _ => []
  | _ + 1, [] => []
  | fuel + 1, b :: rest =>
    let (c, used) := nextChar b rest
    c :: decodeUtf8 fuel (rest.drop (used - 1))

/-- The characters, with replacements for what is none. -/
def ofUtf8Lossy (bytes : List UInt8) : List Char :=
  (decodeUtf8 bytes.length bytes).map (·.getD replacement)

/-- The characters, if the bytes are a text throughout. -/
def ofUtf8? (bytes : List UInt8) : Option (List Char) :=
  (decodeUtf8 bytes.length bytes).mapM id

end SessionGateway.Text
