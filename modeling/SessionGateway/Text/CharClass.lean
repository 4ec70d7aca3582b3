import SessionGateway.Text.Packed

/-! Sets of characters as runs of code points, and maps from characters to texts as runs that
shift alike. -/

namespace SessionGateway.Text

/-- A set of characters: the first and the last code point of each run. -/
structure CharClass where
  runs : List (Nat × Nat)

namespace CharClass

/-- Runs from the gap before each and what it has beyond its first; `next` follows the last run. -/
def runsOf (next : Nat) : List Nat → List (Nat × Nat)
  | gap :: extent :: rest =>
    (next + gap, next + gap + extent) :: runsOf (next + gap + extent + 1) rest
  | _ => []

def ofText (packed : String) : CharClass := ⟨runsOf 0 (Packed.numbers packed).toList⟩

def contains (cls : CharClass) (c : Char) : Bool :=
  cls.runs.any fun run => run.1 ≤ c.toNat && c.toNat ≤ run.2

end CharClass

/-- The characters `first`, `first + step`, …, `last` become texts of as many characters as there
are shifts, each the given distance away. -/
structure MapRun where
  first : Nat
  last : Nat
  step : Nat
  shifts : List Int

namespace MapRun

def covers (run : MapRun) (n : Nat) : Bool :=
  run.first ≤ n && n ≤ run.last && (n - run.first) % run.step == 0

def apply (run : MapRun) (n : Nat) : List Char :=
  run.shifts.map fun shift => Char.ofNat ((n : Int) + shift).toNat

end MapRun

/-- A map from characters to texts; characters outside its runs have none. -/
structure CharMap where
  runs : List MapRun

namespace CharMap

/-- Runs from numbers: the distance from the run before, how many characters there are, the number
of shifts and the shifts. A run of several characters also tells whether it skips every other. -/
def runsOf : Nat → Nat → List Nat → List MapRun
  | 0, _, _ => []
  | fuel + 1, before, distance :: extent :: count :: rest =>
    let first := before + distance
    let step := if extent % 2 = 0 then 1 else 2
    let last := first + extent / 2 * step
    ⟨first, last, step, (rest.take count).map Packed.signed⟩ :: runsOf fuel last (rest.drop count)
  | _ + 1, _, _ => []

def ofText (packed : String) : CharMap :=
  let numbers := (Packed.numbers packed).toList
  ⟨runsOf numbers.length 0 numbers⟩

def lookup? (map : CharMap) (c : Char) : Option (List Char) :=
  (map.runs.find? (·.covers c.toNat)).map (·.apply c.toNat)

end CharMap

end SessionGateway.Text
