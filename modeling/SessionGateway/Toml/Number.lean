import SessionGateway.Number.Binary64
import SessionGateway.Number.Reading
import SessionGateway.Toml.Moment

/-! Whole numbers and reals. -/

namespace SessionGateway.TomlText

/-- The digits that go on a run, with single underscores between them. -/
def moreDigits (isDigit : Char → Bool) : Reader (List Char)
  | [] => .ok ([], [])
  | '_' :: c :: cs =>
    if isDigit c then do
      let (more, rest) ← moreDigits isDigit cs
      return (c :: more, rest)
    else .error (((Fault.before (c :: cs)).wanting "digit").commit)
  | c :: cs =>
    if isDigit c then do
      let (more, rest) ← moreDigits isDigit cs
      return (c :: more, rest)
    else if c = '_' then .error (((Fault.before cs).wanting "digit").commit)
    else .ok ([], c :: cs)

/-- A run of digits. -/
def readRun (isDigit : Char → Bool) (cs : List Char) : Except Fault (List Char × List Char) :=
  if cs.head?.any isDigit then moreDigits isDigit cs else .error (.before cs)

/-- A decimal number: its sign and digits, without zeros at the front. -/
def readWhole (cs : List Char) : Except Fault ((Bool × List Char) × List Char) :=
  inside "integer" <|
    let (negative, unsigned) := splitSign cs
    match unsigned with
    | '0' :: rest => .ok ((negative, ['0']), rest)
    | unsigned => (readRun Char.isDigit unsigned).map fun (ds, rest) => ((negative, ds), rest)

/-- An exponent after its mark. -/
def readExponent (cs : List Char) : Except Fault (Int × List Char) :=
  match cs with
  | mark :: rest =>
    if mark = 'e' ∨ mark = 'E' then committed do
      let (negative, rest) := splitSign rest
      let (digits, rest) ← readRun Char.isDigit rest
      return (if negative then -Text.decimalValue digits else Text.decimalValue digits, rest)
    else .error (.before cs)
  | [] => .error (.before [])

/-- A fraction after its point. -/
def readFraction (cs : List Char) : Except Fault (List Char × List Char) :=
  match cs with
  | '.' :: rest => committed (wanting "digit" (readRun Char.isDigit rest))
  | cs => .error (.before cs)

/-- What makes a number a real: a fraction, an exponent or both. -/
def readScale (cs : List Char) : Except Fault ((List Char × Int) × List Char) := do
  match ← attempt (readExponent cs) with
  | some (exponent, rest) => return (([], exponent), rest)
  | none =>
    let (part, rest) ← readFraction cs
    let (exponent, rest) := (← attempt (readExponent rest)).getD (0, rest)
    return ((part, exponent), rest)

/-- A decimal number with a fraction or an exponent; too large a one is none. -/
def readDecimal (cs : List Char) : Except Fault (Toml × List Char) := do
  let ((negative, whole), rest) ← readWhole cs
  let ((part, exponent), rest) ← readScale rest
  let x : Binary64 :=
    .ofDecimal negative (Text.decimalValue (whole ++ part)) (exponent - part.length)
  if x = .infinity false then .error (Fault.before cs).commit else return (.real x, rest)

def readInfinity (negative : Bool) : Reader Toml
  | 'i' :: 'n' :: 'f' :: rest => .ok (.real (.infinity negative), rest)
  | cs => .error (.before cs)

def readNaN (negative : Bool) : Reader Toml
  | 'n' :: 'a' :: 'n' :: rest =>
    .ok (.real (.ofMagnitude negative (2047 * power 2 52 + power 2 51)), rest)
  | cs => .error (.before cs)

def readSpecial (cs : List Char) : Except Fault (Toml × List Char) :=
  let (negative, rest) := splitSign cs
  oneOf [readInfinity negative, readNaN negative] rest

def readReal (cs : List Char) : Except Fault (Toml × List Char) :=
  inside "floating-point number" (oneOf [readDecimal, readSpecial] cs)

def isBinaryDigit (c : Char) : Bool := c = '0' || c = '1'

def isOctalDigit (c : Char) : Bool := '0' ≤ c && c ≤ '7'

def isHexDigit (c : Char) : Bool := (Text.hexValue? c).isSome

def valueInBase (base : Nat) (digits : List Char) : Nat :=
  digits.foldl (fun n c => base * n + (Text.hexValue? c).getD 0) 0

/-- A whole number, if it is one of sixty-four bits with a sign; `start` is where it was written. -/
def sized (i : Int) (start : List Char) : Except Fault Toml :=
  if i < -(power 2 63) then .error (Fault.because .tooSmall start).commit
  else if i < power 2 63 then .ok (.integer i)
  else .error (Fault.because .tooLarge start).commit

/-- A whole number in another base, after its mark. -/
def readBased (label : String) (base : Nat) (isDigit : Char → Bool) (start cs : List Char) :
    Except Fault (Toml × List Char) :=
  committed do
    let (digits, rest) ← inside label (readRun isDigit cs)
    return (← sized (valueInBase base digits) start, rest)

def readInteger (cs : List Char) : Except Fault (Toml × List Char) :=
  match cs with
  | '0' :: 'x' :: rest => readBased "hexadecimal integer" 16 isHexDigit cs rest
  | '0' :: 'o' :: rest => readBased "octal integer" 8 isOctalDigit cs rest
  | '0' :: 'b' :: rest => readBased "binary integer" 2 isBinaryDigit cs rest
  | cs => do
    let ((negative, digits), rest) ← readWhole cs
    let n : Int := Text.decimalValue digits
    return (← sized (if negative then -n else n) cs, rest)

/-- A date or a number, by its first character. -/
def readNumeric : Reader Toml := oneOf [readMoment, readReal, readInteger]

end SessionGateway.TomlText
