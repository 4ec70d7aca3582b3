import SessionGateway.Text.Utf8

/-! Texts in units of sixteen bits. -/

namespace SessionGateway.Text.Utf16

def isHighSurrogate (n : Nat) : Bool := 0xD800 ≤ n && n ≤ 0xDBFF

def isLowSurrogate (n : Nat) : Bool := 0xDC00 ≤ n && n ≤ 0xDFFF

/-- Units of sixteen bits, with none for a byte left over. -/
def units (bigEndian : Bool) : List UInt8 → List (Option Nat)
  | a :: b :: rest =>
    some (if bigEndian then 256 * a.toNat + b.toNat else 256 * b.toNat + a.toNat) ::
      units bigEndian rest
  | [_] => [none]
  | [] => []

def ofUnits : List (Option Nat) → List Char
  | some high :: some low :: rest =>
    if isHighSurrogate high && isLowSurrogate low then
      Char.ofNat ((high - 0xD800) * 1024 + (low - 0xDC00) + 0x10000) :: ofUnits rest
    else if isHighSurrogate high || isLowSurrogate high then
      replacement :: ofUnits (some low :: rest)
    else Char.ofNat high :: ofUnits (some low :: rest)
  | some n :: none :: rest =>
    if isHighSurrogate n then replacement :: ofUnits rest
    else (if isLowSurrogate n then replacement else Char.ofNat n) :: ofUnits (none :: rest)
  | [some n] => [if isHighSurrogate n || isLowSurrogate n then replacement else Char.ofNat n]
  | none :: rest => replacement :: ofUnits rest
  | [] => []

def decode (bigEndian : Bool) (bytes : List UInt8) : List Char := ofUnits (units bigEndian bytes)

end SessionGateway.Text.Utf16
