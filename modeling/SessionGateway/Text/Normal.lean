import SessionGateway.Text.Decomposition

/-! The composed normal form of texts: characters are taken apart, the marks after each letter are
ordered by their classes, and what can be joined is joined again. -/

namespace SessionGateway.Text

/-- Puts a mark before all that are not of a lower class; other characters stay at the front. -/
def placeMark (c : Char) : List Char → List Char
  | [] => [c]
  | d :: rest =>
    if 0 < combiningClass d ∧ combiningClass d < combiningClass c then d :: placeMark c rest
    else c :: d :: rest

/-- Marks in the order of their classes; equal ones keep theirs. -/
def orderMarks (cs : List Char) : List Char := cs.foldr placeMark []

/-- The characters of a text in full decomposition. -/
def decomposed (cs : List Char) : List Char := orderMarks (cs.flatMap decompose)

/-- A syllable of an initial and a vowel, or of an open syllable and a final. -/
def joinSyllable? (a b : Nat) : Option Char :=
  if 0x1100 ≤ a && a ≤ 0x1112 && 0x1161 ≤ b && b ≤ 0x1175 then
    some (Char.ofNat (0xAC00 + (a - 0x1100) * 588 + (b - 0x1161) * 28))
  else if isSyllable a && (a - 0xAC00) % 28 == 0 && 0x11A8 ≤ b && b ≤ 0x11C2 then
    some (Char.ofNat (a + (b - 0x11A7)))
  else none

/-- The characters with their parts, without those that are never joined. -/
def compositions : List (List Char × Char) :=
  decompositions.runs.flatMap fun run =>
    ((List.range' run.first ((run.last - run.first) / run.step + 1) run.step).map fun n =>
      (run.apply n, Char.ofNat n)).filter fun entry => !uncomposed.contains entry.2

/-- The character whose parts are those of `a` and then `b`. -/
def join? (a b : Char) : Option Char :=
  if b.toNat < 0x80 then none
  else match joinSyllable? a.toNat b.toNat with
    | some c => some c
    | none => compositions.lookup (decompose a ++ [b])

/-- Joins marks to the letter before them, except those behind a mark that is not of a lower class.
`held` are the marks that were not joined, the last one first. -/
def joinFrom (letter : Char) (held : List Char) : List Char → List Char
  | [] => letter :: held.reverse
  | c :: rest =>
    let reached := match held with
      | [] => true
      | mark :: _ => combiningClass mark < combiningClass c
    match if reached then join? letter c else none with
    | some joined => joinFrom joined held rest
    | none =>
      if combiningClass c = 0 then letter :: held.reverse ++ joinFrom c [] rest
      else joinFrom letter (c :: held) rest

def composed : List Char → List Char
  | [] => []
  | c :: rest => if combiningClass c = 0 then joinFrom c [] rest else c :: composed rest

def normalForm (cs : List Char) : List Char := composed (decomposed cs)

end SessionGateway.Text
