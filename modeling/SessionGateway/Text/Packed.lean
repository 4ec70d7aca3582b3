/-! Lists of numbers written as text, for tables that would fill pages otherwise. A number is
written in base 32, its lowest digit first. Each digit has two letters: one says that the number
ends with it, the other that a digit follows. Blanks and line breaks divide the text into lines and
say nothing. -/

namespace SessionGateway.Text.Packed

/-- The place of a letter among the sixty-four: capitals, small letters, digits, plus and slash. -/
def letterValue (c : Char) : Nat :=
  if c.isUpper then c.toNat - 65
  else if c.isLower then c.toNat - 71
  else if c.isDigit then c.toNat + 4
  else if c = '+' then 62
  else 63

/-- The numbers read so far, and the digits of the one that goes on. -/
structure Progress where
  done : Array Nat
  pending : Nat
  weight : Nat

def Progress.read (p : Progress) (c : Char) : Progress :=
  let digit := letterValue c
  if digit < 32 then ⟨p.done.push (p.pending + digit * p.weight), 0, 1⟩
  else ⟨p.done, p.pending + (digit - 32) * p.weight, 32 * p.weight⟩

def isLetter (c : Char) : Bool := c ≠ ' ' && c ≠ '\n'

def numbers (text : String) : Array Nat :=
  ((text.toList.filter isLetter).foldl Progress.read ⟨#[], 0, 1⟩).done

/-- An integer as a number: even ones count up from zero, odd ones down. -/
def signed (n : Nat) : Int :=
  if n % 2 = 0 then (n / 2 : Nat) else -((n / 2 + 1 : Nat) : Int)

end SessionGateway.Text.Packed
