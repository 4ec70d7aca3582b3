import SessionGateway.Text.Charset.Jis

/-! Three encodings of the Japanese sets: by shifted bytes, by bytes of the upper half, and by
escape sequences that switch between sets. -/

namespace SessionGateway.Text

/-- The narrow katakana, from the first on. -/
def narrowKatakana (n : Nat) : Char := Char.ofNat (0xFF61 + n)

namespace ShiftJis

/-- The number of a pair, if its second byte is one. -/
def number? (first second : UInt8) : Option Nat :=
  if (0x40 ≤ second && second ≤ 0x7E) || (0x80 ≤ second && second ≤ 0xFC) then
    let row := first.toNat - if first < 0xA0 then 0x81 else 0xC1
    some (188 * row + (second.toNat - if second < 0x7F then 0x40 else 0x41))
  else none

/-- Numbers that are left to users. -/
def userFirst : Nat := 8836

def userLast : Nat := 10715

def char? (number : Nat) : Option Char :=
  if userFirst ≤ number && number ≤ userLast then some (Char.ofNat (0xE000 + number - userFirst))
  else Jis.basic.char? number

def isFirst (b : UInt8) : Bool := (0x81 ≤ b && b ≤ 0x9F) || (0xE0 ≤ b && b ≤ 0xFC)

def front (b : UInt8) (rest : List UInt8) : Front :=
  if b ≤ 0x80 then .ascii b
  else if 0xA1 ≤ b && b ≤ 0xDF then .char (narrowKatakana (b.toNat - 0xA1))
  else if isFirst b then
    match rest with
    | [] => .fault 0
    | second :: _ => .pair (((number? b second).bind char?).map ([·])) second
  else .fault 0

def decode (bytes : List UInt8) : List Char := decodeBy front bytes.length bytes

end ShiftJis

namespace EucJp

def isUpper (b : UInt8) : Bool := 0xA1 ≤ b && b ≤ 0xFE

def char? (table : CodeTable) (first second : UInt8) : Option Char :=
  if isUpper first && isUpper second then
    table.char? (94 * (first.toNat - 0xA1) + (second.toNat - 0xA1))
  else none

def pairFront (first second : UInt8) : Front :=
  if first == 0x8E && 0xA1 ≤ second && second ≤ 0xDF then
    .pair (some [narrowKatakana (second.toNat - 0xA1)]) second
  else .pair ((char? Jis.basic first second).map ([·])) second

/-- A character of the supplement has a byte before its pair. -/
def supplementFront (rest : List UInt8) : Front :=
  match rest with
  | [_] => .fault 1
  | first :: second :: _ =>
    match char? Jis.supplement first second with
    | some c => ⟨some [c], 2⟩
    | none => .fault (if second < 0x80 then 1 else 2)
  | [] => .fault 0

def front (b : UInt8) (rest : List UInt8) : Front :=
  if b < 0x80 then .ascii b
  else if b == 0x8E || b == 0x8F || isUpper b then
    match rest with
    | [] => .fault 0
    | second :: _ =>
      if b == 0x8F && isUpper second then supplementFront rest else pairFront b second
  else .fault 0

def decode (bytes : List UInt8) : List Char := decodeBy front bytes.length bytes

end EucJp

namespace Iso2022Jp

/-- The sets that escape sequences switch to. -/
inductive Shift where
  | ascii
  | roman
  | katakana
  | kanji
  deriving DecidableEq, Repr

def escape : UInt8 := 0x1B

/-- The set that the two bytes after an escape name. -/
def Shift.named? (first second : UInt8) : Option Shift :=
  if first == 0x28 && second == 0x42 then some ascii
  else if first == 0x28 && second == 0x4A then some roman
  else if first == 0x28 && second == 0x49 then some katakana
  else if first == 0x24 && (second == 0x40 || second == 0x42) then some kanji
  else none

def asciiFront (b : UInt8) : Front :=
  if b < 0x80 && b != 0x0E && b != 0x0F then .ascii b else .fault 0

def isColumn (b : UInt8) : Bool := 0x21 ≤ b && b ≤ 0x7E

/-- A pair of columns; an escape in the place of the second counts for itself. -/
def kanjiFront (b : UInt8) (rest : List UInt8) : Front :=
  match isColumn b, rest with
  | true, second :: _ =>
    if second == escape then .fault 0
    else if isColumn second then
      ⟨(Jis.basic.char? (94 * (b.toNat - 0x21) + (second.toNat - 0x21))).map ([·]), 1⟩
    else .fault 1
  | _, _ => .fault 0

def Shift.front (shift : Shift) (b : UInt8) (rest : List UInt8) : Front :=
  match shift with
  | ascii => asciiFront b
  | roman =>
    if b == 0x5C then .char '¥' else if b == 0x7E then .char '‾' else asciiFront b
  | katakana =>
    if 0x21 ≤ b && b ≤ 0x5F then .char (narrowKatakana (b.toNat - 0x21)) else .fault 0
  | kanji => kanjiFront b rest

/-- The text of bytes after a switch to `shift`; `idle` when nothing has come since. Two switches
in a row are a fault. -/
def decodeFrom : Nat → Shift → Bool → List UInt8 → List Char
  | 0, _, _, _ => []
  | _ + 1, _, _, [] => []
  | fuel + 1, shift, idle, b :: rest =>
    if b == escape then
      match rest with
      | first :: second :: after =>
        match Shift.named? first second with
        | some next => (if idle then [replacement] else []) ++ decodeFrom fuel next true after
        | none => replacement :: decodeFrom fuel shift false rest
      | _ => replacement :: decodeFrom fuel shift false rest
    else
      let here := shift.front b rest
      here.chars.getD [replacement] ++ decodeFrom fuel shift false (rest.drop here.extra)

def decode (bytes : List UInt8) : List Char := decodeFrom bytes.length .ascii false bytes

end Iso2022Jp

end SessionGateway.Text
