import SessionGateway.Json.Fault
import SessionGateway.Json.Value
import SessionGateway.Number.Binary64
import SessionGateway.Text.Ascii

/-! Reading the parts of a JSON text that hold no other values: words, numbers and strings. -/

namespace SessionGateway.JsonText

/-- Reads something from the front of a text and leaves the rest. -/
abbrev Reader (α : Type) := List Char → Except Fault (α × List Char)

def isBlank (c : Char) : Bool := c = ' ' || c = '\n' || c = '\t' || c = '\r'

def skipBlanks (cs : List Char) : List Char := cs.dropWhile isBlank

/-- The rest after the expected characters. -/
def readWord : List Char → List Char → Except Fault (List Char)
  | [], cs => .ok cs
  | _ :: _, [] => .error (.here .endInValue [])
  | w :: word, c :: cs =>
    if c = w then readWord word cs else .error (.next .badWord (c :: cs))

/-- Digits, with no zero before another digit. -/
def readWhole : List Char → Except Fault (List Char × List Char)
  | [] => .error (.here .endInValue [])
  | c :: cs =>
    if !c.isDigit then .error (.next .badNumber (c :: cs))
    else if c = '0' && (cs.takeWhile Char.isDigit) ≠ [] then .error (.next .badNumber cs)
    else .ok (c :: cs.takeWhile Char.isDigit, cs.dropWhile Char.isDigit)

/-- The digits after a point, if there is one. -/
def readFraction : List Char → Except Fault (List Char × List Char)
  | '.' :: cs =>
    if cs.takeWhile Char.isDigit ≠ [] then
      .ok (cs.takeWhile Char.isDigit, cs.dropWhile Char.isDigit)
    else if cs = [] then .error (.next .endInValue cs)
    else .error (.next .badNumber cs)
  | cs => .ok ([], cs)

def isExponentMark (c : Char) : Bool := c = 'e' || c = 'E'

/-- How many digits it takes to write an exponent that is too large to be kept. -/
def overflowAt? (digits : List Char) : Option Nat :=
  (List.range digits.length).find? fun n => power 2 31 ≤ Text.decimalValue (digits.take (n + 1))

/-- The exponent, none without a mark. An exponent too large for a number that is not zero is
refused at the digit that makes it so. -/
def readExponent (isZero : Bool) : List Char → Except Fault (Option Int × List Char)
  | [] => .ok (none, [])
  | mark :: cs =>
    if !isExponentMark mark then .ok (none, mark :: cs)
    else
      let negative := cs.head? = some '-'
      let unsigned := if negative || cs.head? = some '+' then cs.drop 1 else cs
      let digits := unsigned.takeWhile Char.isDigit
      if unsigned = [] then .error (.here .endInValue unsigned)
      else if digits = [] then .error (.next .badNumber unsigned)
      else match overflowAt? digits with
        | some n =>
          if isZero || negative then
            .ok (some (if negative then -(power 2 31) else power 2 31),
              unsigned.dropWhile Char.isDigit)
          else .error (.past (n + 1) .numberOutOfRange unsigned)
        | none =>
          let n : Int := Text.decimalValue digits
          .ok (some (if negative then -n else n), unsigned.dropWhile Char.isDigit)

/-- Goes on with a number by its next digits as long as it has 64 bits, and counts those that are
left over. -/
def goOn (n : Nat) : List Char → Nat × Nat
  | [] => (n, 0)
  | c :: cs =>
    let next := 10 * n + (c.toNat - 48)
    if next < power 2 64 then goOn next cs else (n, cs.length + 1)

def tenTo (n : Nat) : Binary64 := .ofRatio false (power 10 n) 1

/-- The quotient by ten to the power of `308 * blocks + n`. No more than `10 ^ 308` is divided by at
a time, so that more than one quotient may be rounded. -/
def scaleDown (x : Binary64) (n : Nat) : Nat → Binary64
  | 0 => x.dividedBy (tenTo n)
  | blocks + 1 => if x.isZero then x else scaleDown (x.dividedBy (tenTo 308)) n blocks

/-- The real that digits and an exponent stand for, with the digits and the power of ten rounded
before their product or quotient is, which need not be the nearest real. There is none beyond the
range. -/
def real? (negative : Bool) (digits : Nat) (exponent : Int) : Option Binary64 :=
  let x := Binary64.ofRatio negative digits 1
  if x.isZero then some x
  else if exponent < 0 then
    let n := (-exponent).toNat - 1
    some (scaleDown x (n % 308 + 1) (n / 308))
  else if 308 < exponent then none
  else some (x.times (tenTo exponent.toNat)) |>.filter (!·.isInfinite)

/-- A number after its sign. Whole numbers without an exponent stay integers where they fit, but
minus zero is a real; a real beyond the range is refused. Digits that do not fit into 64 bits behind
the others only count for the exponent. -/
def readNumber (negative : Bool) : Reader Json := fun cs => do
  let (whole, cs) ← readWhole cs
  let (part, cs) ← readFraction cs
  let (front, above) := goOn 0 whole
  let (digits, below) := goOn front part
  let (exponent, cs) ← readExponent (digits == 0) cs
  if part = [] && above == 0 && exponent.isNone && !(negative && digits == 0) then
    return (Json.ofInt (if negative then -digits else digits), cs)
  else match real? negative digits (above + below - part.length + exponent.getD 0) with
    | some x => return (.real x, cs)
    | none => .error (.here .numberOutOfRange cs)

def hexValue4? : List Char → Option (Nat × List Char)
  | a :: b :: c :: d :: cs => do
    let a ← Text.hexValue? a
    let b ← Text.hexValue? b
    let c ← Text.hexValue? c
    let d ← Text.hexValue? d
    return (((a * 16 + b) * 16 + c) * 16 + d, cs)
  | _ => none

/-- Four bytes are taken for hexadecimal digits, whatever they are. -/
def readHex4 (cs : List Char) : Except Fault (Nat × List Char) :=
  match hexValue4? cs with
  | some r => .ok r
  | none =>
    if byteCount cs < 4 then .error (.here .endInString [])
    else .error (.past 4 .badEscape cs)

/-- What must follow a high surrogate: the escape of a low one. -/
def readLowSurrogate (high : Nat) : List Char → Except Fault (Char × List Char)
  | [] => .error (.here .endInString [])
  | '\\' :: [] => .error (.here .endInString [])
  | '\\' :: 'u' :: cs => do
    let (low, cs) ← readHex4 cs
    if 0xDC00 ≤ low ∧ low ≤ 0xDFFF then
      return (Char.ofNat ((high - 0xD800) * 1024 + (low - 0xDC00) + 0x10000), cs)
    else .error (.here .loneSurrogate cs)
  | '\\' :: c :: cs => .error (.next .brokenSurrogatePair (c :: cs))
  | c :: cs => .error (.next .brokenSurrogatePair (c :: cs))

def simpleEscape? (c : Char) : Option Char :=
  if c = '"' ∨ c = '\\' ∨ c = '/' then some c
  else if c = 'b' then some '\x08'
  else if c = 'f' then some '\x0c'
  else if c = 'n' then some '\n'
  else if c = 'r' then some '\r'
  else if c = 't' then some '\t'
  else none

/-- The character that an escape stands for, after the backslash. -/
def readEscape : List Char → Except Fault (Char × List Char)
  | [] => .error (.here .endInString [])
  | c :: cs =>
    match simpleEscape? c with
    | some d => .ok (d, cs)
    | none =>
      if c = 'u' then do
        let (n, cs) ← readHex4 cs
        if 0xDC00 ≤ n ∧ n ≤ 0xDFFF then .error (.here .loneSurrogate cs)
        else if 0xD800 ≤ n ∧ n ≤ 0xDBFF then readLowSurrogate n cs
        else return (Char.ofNat n, cs)
      else .error (.next .badEscape (c :: cs))

/-- The characters up to the closing quote, those already read standing in reverse. -/
def readChars : Nat → List Char → List Char → Except Fault (List Char × List Char)
  | 0, _, cs => .error (.here .endInString cs)
  | _ + 1, _, [] => .error (.here .endInString [])
  | fuel + 1, done, c :: cs =>
    if c = '"' then .ok (done.reverse, cs)
    else if c = '\\' then do
      let (d, cs) ← readEscape cs
      readChars fuel (d :: done) cs
    else if c.toNat < 0x20 then .error (.next .controlCharacter (c :: cs))
    else readChars fuel (c :: done) cs

/-- A string after its opening quote. `fuel` exceeds the length of the text. -/
def readString (fuel : Nat) : Reader String := fun cs => do
  let (chars, cs) ← readChars fuel [] cs
  return (String.ofList chars, cs)

/-- The rest after a colon. -/
def readColon (cs : List Char) : Except Fault (List Char) :=
  match skipBlanks cs with
  | [] => .error (.next .endInObject [])
  | ':' :: cs => .ok cs
  | cs => .error (.next .noColon cs)

/-- Whether another item follows, with the text from it or from the closing bracket on. -/
def nextItem (first : Bool) (cs : List Char) : Except Fault (Bool × List Char) :=
  match skipBlanks cs with
  | [] => .error (.next .endInList [])
  | c :: cs =>
    if c = ']' then .ok (false, c :: cs)
    else if first then .ok (true, c :: cs)
    else if c = ',' then
      match skipBlanks cs with
      | [] => .error (.next .endInValue [])
      | ']' :: cs => .error (.next .trailingComma (']' :: cs))
      | cs => .ok (true, cs)
    else .error (.next .noCommaInList (c :: cs))

/-- Whether another member follows, with the text after its opening quote or from the closing
brace on. -/
def nextKey (first : Bool) (cs : List Char) : Except Fault (Bool × List Char) :=
  match skipBlanks cs with
  | [] => .error (.next .endInObject [])
  | c :: cs =>
    if c = '\x7d' then .ok (false, c :: cs)
    else if first then
      if c = '"' then .ok (true, cs) else .error (.next .keyNotString (c :: cs))
    else if c = ',' then
      match skipBlanks cs with
      | [] => .error (.next .endInValue [])
      | '"' :: cs => .ok (true, cs)
      | '\x7d' :: cs => .error (.next .trailingComma ('\x7d' :: cs))
      | cs => .error (.next .keyNotString cs)
    else .error (.next .noCommaInObject (c :: cs))

end SessionGateway.JsonText
