/-! Labels with letters beyond the ASCII range written in ASCII letters. The ASCII letters come
first; then each other character is a number that tells how far it lies behind the one before it,
in code points and places together. Numbers have digits of base 36 whose thresholds adapt. -/

namespace SessionGateway.Url.Punycode

def digitChar (d : Nat) : Char :=
  if d < 26 then Char.ofNat (97 + d) else Char.ofNat (22 + d)

def digitValue? (c : Char) : Option Nat :=
  if c.isLower then some (c.toNat - 97)
  else if c.isUpper then some (c.toNat - 65)
  else if c.isDigit then some (c.toNat - 22)
  else none

/-- The least digit at place `k` that does not end a number. -/
def threshold (k bias : Nat) : Nat := if k ≤ bias then 1 else min 26 (k - bias)

theorem threshold_pos (k bias : Nat) : 1 ≤ threshold k bias := by
  unfold threshold
  split <;> omega

theorem threshold_le (k bias : Nat) : threshold k bias ≤ 26 := by
  unfold threshold
  split <;> omega

/-- Divides by 35 until what is left is at most 455. -/
def shrink (delta k : Nat) : Nat × Nat :=
  if 455 < delta then shrink (delta / 35) (k + 36) else (delta, k)
termination_by delta
decreasing_by exact Nat.div_lt_self (by omega) (by omega)

/-- The bias after a number, from its size and the count of characters so far. -/
def adapt (delta count : Nat) (first : Bool) : Nat :=
  let delta := if first then delta / 700 else delta / 2
  let (delta, k) := shrink (delta + delta / count) 0
  k + 36 * delta / (delta + 38)

/-- The digits of a number, the lowest first. -/
def writeNumber (bias k n : Nat) : List Char :=
  let t := threshold k bias
  if n < t then [digitChar n]
  else digitChar (t + (n - t) % (36 - t)) :: writeNumber bias (k + 36) ((n - t) / (36 - t))
termination_by n
decreasing_by
  have low := threshold_pos k bias
  have high := threshold_le k bias
  have := Nat.div_le_self (n - threshold k bias) (36 - threshold k bias)
  omega

/-- What has been written, the distance since the last number, the bias and the count of
characters that are done. -/
structure Writing where
  text : List Char
  delta : Nat
  bias : Nat
  count : Nat

/-- Passes one character of the label; one at `code` is written. -/
def Writing.pass (basics code : Nat) (w : Writing) (c : Char) : Writing :=
  if c.toNat < code then { w with delta := w.delta + 1 }
  else if c.toNat = code then
    ⟨w.text ++ writeNumber w.bias 36 w.delta, 0, adapt w.delta (w.count + 1) (w.count == basics),
      w.count + 1⟩
  else w

/-- Writes the characters of each code point in turn; all below `next` are done. -/
def writeCodes (label : List Char) (basics next : Nat) : List Nat → Writing → List Char
  | [], w => w.text
  | code :: codes, w =>
    let moved := { w with delta := w.delta + (code - next) * (w.count + 1) }
    let w := label.foldl (Writing.pass basics code) moved
    writeCodes label basics (code + 1) codes { w with delta := w.delta + 1 }

def isBasic (c : Char) : Bool := c.toNat < 0x80

/-- The code points of a label beyond the ASCII range, each once, in ascending order. -/
def otherCodes (label : List Char) : List Nat :=
  (((label.filter (!isBasic ·)).map Char.toNat).mergeSort (· ≤ ·)).eraseDups

def encode (label : List Char) : List Char :=
  let basic := label.filter isBasic
  let mark := if basic.isEmpty then [] else ['-']
  basic ++ mark ++
    writeCodes label basic.length 0x80 (otherCodes label) ⟨[], 0, 72, basic.length⟩

/-- Reads a number on top of `total`; `weight` is what a digit at place `k` counts. -/
def readNumber? (bias : Nat) : List Char → Nat → Nat → Nat → Option (Nat × List Char)
  | [], _, _, _ => none
  | c :: rest, k, weight, total => do
    let digit ← digitValue? c
    let total := total + digit * weight
    let t := threshold k bias
    if digit < t then some (total, rest)
    else readNumber? bias rest (k + 36) (weight * (36 - t)) total

/-- Puts in one character for each number; `fuel` is at least the number of letters. -/
def insertCodes? : Nat → Nat → Nat → Nat → List Char → List Char → Option (List Char)
  | _, _, _, _, done, [] => some done
  | 0, _, _, _, _, _ => none
  | fuel + 1, bias, code, place, done, letters => do
    let (total, rest) ← readNumber? bias letters 36 1 place
    let count := done.length + 1
    let code := code + total / count
    guard (code < 0xD800 || (0xDFFF < code && code < 0x110000))
    let spot := total % count
    insertCodes? fuel (adapt (total - place) count (place == 0)) code (spot + 1)
      (done.insertIdx spot (Char.ofNat code)) rest

/-- A hyphen ends the basic letters if there are any. -/
def decode? (letters : List Char) : Option (List Char) :=
  let tail := (letters.reverse.takeWhile (· ≠ '-')).reverse
  let basic := letters.take (letters.length - tail.length - 1)
  let other := if basic.isEmpty then letters else tail
  insertCodes? other.length 72 0x80 0 basic other

end SessionGateway.Url.Punycode
