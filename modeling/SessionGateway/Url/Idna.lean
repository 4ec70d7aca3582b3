import SessionGateway.Text.Ascii
import SessionGateway.Url.Idna.Direction
import SessionGateway.Url.Idna.Joining
import SessionGateway.Url.Idna.Mapping
import SessionGateway.Url.Idna.Punycode

/-! Domain names with letters of all scripts: a name is brought into one spelling, its labels are
checked, and those with letters beyond the ASCII range are written in ASCII after a mark. -/

namespace SessionGateway.Url.Idna

open Text

/-- The mark of a label whose letters are written in ASCII. -/
def asciiMark : List Char := "xn--".toList

/-- The longest label that is written in ASCII, and the longest such text that is read. -/
def longestLabel : Nat := 1000

def longestLetters : Nat := 2000

/-- A label does not start with a combining mark, and its joiners stand where they may. -/
def isWellFormed (label : List Char) : Bool :=
  !label.head?.any combiningMarks.contains && joinersFit [] label

/-- The label that ASCII letters after the mark stand for. It must be one that is written so: in
its one spelling, with letters beyond the ASCII range. -/
def ofLetters? (letters : List Char) : Option (List Char) := do
  guard (letters.all Punycode.isBasic && letters.length ≤ longestLetters)
  guard (letters.getLast? ≠ some '-')
  let label ← Punycode.decode? letters
  guard (label.any (!Punycode.isBasic ·) && !label.contains '.')
  guard (mapped? label = some label && !asciiMark.isPrefixOf label)
  return label

/-- The label in letters of all scripts. -/
def label? (label : List Char) : Option (List Char) := do
  let label ← match afterStart? asciiMark label with
    | some letters => ofLetters? letters
    | none => some label
  guard (isWellFormed label)
  return label

/-- The label in ASCII letters. -/
def asciiLabel? (label : List Char) : Option (List Char) :=
  if label.all Punycode.isBasic then some label
  else if label.length ≤ longestLabel then some (asciiMark ++ Punycode.encode label)
  else none

/-- The name in ASCII letters, if it is one. -/
def toAscii? (name : List Char) : Option (List Char) := do
  let labels ← (splitAtChar (· = '.') (← mapped? name)).mapM label?
  guard (directionsFit labels)
  return ['.'].intercalate (← labels.mapM asciiLabel?)

end SessionGateway.Url.Idna
