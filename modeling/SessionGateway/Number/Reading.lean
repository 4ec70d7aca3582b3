import SessionGateway.Number.Binary64
import SessionGateway.Text.Ascii

/-! Reading numbers from plain text: signed integers of 64 bits, and decimal numbers with an
optional fraction and exponent or one of the words for infinity and for no number. -/

namespace SessionGateway

open Text

/-- An optional sign and the rest. -/
def splitSign : List Char → Bool × List Char
  | '-' :: rest => (true, rest)
  | '+' :: rest => (false, rest)
  | cs => (false, cs)

/-- A sign and at least one digit, within the range of 64 bits with a sign. -/
def readInt64? (s : String) : Option Int :=
  let (negative, digits) := splitSign s.toList
  if digits.isEmpty || !digits.all Char.isDigit then none
  else
    let n : Int := if negative then -decimalValue digits else decimalValue digits
    if -(power 2 63) ≤ n ∧ n < power 2 63 then some n else none

/-- The exponent after its mark; none when it is not a sign and digits. -/
def readExponent? : List Char → Option Int
  | [] => some 0
  | mark :: rest =>
    if mark = 'e' ∨ mark = 'E' then
      let (negative, digits) := splitSign rest
      if digits.isEmpty || !digits.all Char.isDigit then none
      else some (if negative then -decimalValue digits else decimalValue digits)
    else none

/-- Digits, a point among them or not, then an exponent. -/
def readUnsigned? (negative : Bool) (cs : List Char) : Option Binary64 :=
  let whole := cs.takeWhile Char.isDigit
  let afterWhole := cs.dropWhile Char.isDigit
  let part := match afterWhole with
    | '.' :: rest => rest.takeWhile Char.isDigit
    | _ => []
  let afterPart := match afterWhole with
    | '.' :: rest => rest.dropWhile Char.isDigit
    | _ => afterWhole
  if whole.isEmpty && part.isEmpty then none
  else
    (readExponent? afterPart).map fun exponent =>
      .ofDecimal negative (decimalValue (whole ++ part)) (exponent - part.length)

def readBinary64? (s : String) : Option Binary64 :=
  let (negative, rest) := splitSign s.toList
  let word := String.ofList (rest.map Char.toLower)
  if word = "inf" ∨ word = "infinity" then some (.infinity negative)
  else if word = "nan" then
    some (.ofMagnitude negative (2047 * power 2 52 + power 2 51))
  else readUnsigned? negative rest

end SessionGateway
