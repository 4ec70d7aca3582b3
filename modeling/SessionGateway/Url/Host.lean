import SessionGateway.Number.Binary64
import SessionGateway.Url.Idna
import SessionGateway.Url.Percent

/-! Hosts of URLs: names, and addresses of 32 and 128 bits. -/

namespace SessionGateway

inductive Host where
  | domain (name : String)
  | ipv4 (address : Nat)
  /-- Eight pieces of sixteen bits. -/
  | ipv6 (pieces : List Nat)
  deriving DecidableEq, Repr

namespace Host

/-- Characters that no host may hold. -/
def isForbidden (c : Char) : Bool := "\x00\t\n\r #/:<>?@[\\]^|".toList.contains c

def isForbiddenInDomain (c : Char) : Bool :=
  isForbidden c || c.toNat < 0x20 || c.toNat = 0x7F || c = '%'

/-- The number a part of an address writes: hexadecimal after `0x`, octal after a zero. -/
def ipv4Number? (part : List Char) : Option Nat :=
  match part with
  | [] => none
  | '0' :: x :: digits =>
    if x = 'x' ∨ x = 'X' then number? 16 digits
    else number? 8 (x :: digits)
  | digits => number? 10 digits
where
  number? (base : Nat) (digits : List Char) : Option Nat :=
    digits.foldl (fun n c => do
      let d ← Text.hexValue? c
      if d < base then return base * (← n) + d else none) (some 0)

/-- The parts between points, without an empty one at the end. -/
def dottedParts (cs : List Char) : List (List Char) :=
  let parts := Text.splitAtChar (· == '.') cs
  if parts.length > 1 && parts.getLast? = some [] then parts.dropLast else parts

/-- Whether a name has to be an address. -/
def endsInNumber (cs : List Char) : Bool :=
  match (dottedParts cs).getLast? with
  | none => false
  | some last => !last.isEmpty && (last.all Char.isDigit || isHexNumber last)
where
  isHexNumber : List Char → Bool
    | '0' :: x :: digits => (x = 'x' || x = 'X') && digits.all fun c => (Text.hexValue? c).isSome
    | _ => false

/-- All parts but the last are bytes, and the last fills up the rest. -/
def ipv4OfParts? : List Nat → Option Nat
  | [] => none
  | parts =>
    let front := parts.dropLast
    let last := parts.getLast?.getD 0
    if 4 < parts.length || front.any (255 < ·) || power 256 (5 - parts.length) ≤ last then none
    else some (front.foldr (fun p acc => acc / 256 + p * power 256 3) 0 + last)

def ipv4? (cs : List Char) : Option Nat := do
  ipv4OfParts? (← (dottedParts cs).mapM ipv4Number?)

/-- A piece of an address of 128 bits: up to four hexadecimal digits. -/
def ipv6Piece? (cs : List Char) : Option Nat :=
  if cs.isEmpty || 4 < cs.length then none
  else cs.foldl (fun n c => do return 16 * (← n) + (← Text.hexValue? c)) (some 0)

/-- The pieces between colons at the end of an address; the last may be an address of four bytes in
decimal digits. -/
def ipv6Tail? : List (List Char) → Option (List Nat)
  | [] => some []
  | [last] => if last.contains '.' then dottedPieces? last else do return [← ipv6Piece? last]
  | part :: rest => do return (← ipv6Piece? part) :: (← ipv6Tail? rest)
where
  byte? (cs : List Char) : Option Nat :=
    if cs.isEmpty || !cs.all Char.isDigit || (cs.length > 1 && cs.head? = some '0') then none
    else if Text.decimalValue cs < 256 then some (Text.decimalValue cs) else none
  dottedPieces? (cs : List Char) : Option (List Nat) := do
    match ← (Text.splitAtChar (· == '.') cs).mapM byte? with
    | [a, b, c, d] => some [256 * a + b, 256 * c + d]
    | _ => none

/-- The text before the first pair of colons and the text after it, if there is one. -/
def splitAtGap : List Char → List Char × Option (List Char)
  | ':' :: ':' :: rest => ([], some rest)
  | c :: rest =>
    let (front, back) := splitAtGap rest
    (c :: front, back)
  | [] => ([], none)

def colonParts (cs : List Char) : List (List Char) :=
  if cs.isEmpty then [] else Text.splitAtChar (· == ':') cs

/-- A pair of colons stands for as many zero pieces as are missing, and at least one. -/
def ipv6? (cs : List Char) : Option (List Nat) :=
  match splitAtGap cs with
  | (all, none) => do
    let pieces ← ipv6Tail? (colonParts all)
    if pieces.length = 8 then some pieces else none
  | (front, some back) => do
    let front ← (colonParts front).mapM ipv6Piece?
    let back ← ipv6Tail? (colonParts back)
    if front.length + back.length < 8 then
      some (front ++ List.replicate (8 - front.length - back.length) 0 ++ back)
    else none

/-- The host of a special URL, after decoding and in its one spelling. -/
def ofChars? (cs : List Char) : Option Host :=
  match cs with
  | '[' :: rest =>
    if rest.getLast? = some ']' then (ipv6? rest.dropLast).map .ipv6 else none
  | cs => do
    let name ← Url.Idna.toAscii? (← Text.ofUtf8? (Url.percentDecode cs))
    if name.isEmpty || name.any isForbiddenInDomain then none
    else if endsInNumber name then (ipv4? name).map .ipv4
    else some (.domain (String.ofList name))

/-- The host of any other URL, which is kept as it is. -/
def ofOther? (cs : List Char) : Option Host :=
  match cs with
  | '[' :: rest =>
    if rest.getLast? = some ']' then (ipv6? rest.dropLast).map .ipv6 else none
  | cs =>
    if cs.any isForbidden then none
    else some (.domain (String.ofList (Url.percentEncode Url.isControl cs)))

/-- The length of the run of zeros at the front. -/
def zeroRun (pieces : List Nat) : Nat := (pieces.takeWhile (· == 0)).length

/-- The start and length of the longest run of zeros, the first of several. -/
def longestZeros : Nat → List Nat → Nat × Nat
  | _, [] => (0, 0)
  | start, p :: rest =>
    let here := zeroRun (p :: rest)
    let later := longestZeros (start + 1) rest
    if later.2 ≤ here then (start, here) else later

def hexPieces (pieces : List Nat) : String :=
  ":".intercalate (pieces.map fun p => String.ofList (Text.hexText p))

def ipv6Text (pieces : List Nat) : String :=
  let (start, length) := longestZeros 0 pieces
  if length < 2 then hexPieces pieces
  else hexPieces (pieces.take start) ++ "::" ++ hexPieces (pieces.drop (start + length))

def text : Host → String
  | domain name => name
  | ipv4 a =>
    ".".intercalate
      ([a / power 2 24, a / power 2 16 % 256, a / power 2 8 % 256, a % 256].map toString)
  | ipv6 pieces => "[" ++ ipv6Text pieces ++ "]"

end Host

end SessionGateway
