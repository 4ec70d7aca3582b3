import SessionGateway.Number.Binary64

/-! The fewest decimal digits that read back as a given number, and the layouts in which numbers
are written. -/

namespace SessionGateway

/-- The number `digits * 10 ^ scale`. -/
structure Decimal where
  digits : Nat
  scale : Int
  deriving DecidableEq, Repr

/-- Which of two decimals is taken that are equally near. -/
inductive TieRule where
  | up
  | toEven
  deriving DecidableEq, Repr

namespace Binary64

/-- The point of the decimal grid `10 ^ scale` that reads back as `m * 2 ^ e` and is nearest to
it, if there is one: everything is counted in quarters of the last binary place. -/
def onGrid? (tie : TieRule) (m : Nat) (e scale : Int) : Option Nat :=
  let up := power 2 (e - 2).toNat * power 10 (-scale).toNat
  let step := power 2 (2 - e).toNat * power 10 scale.toNat
  let low := (4 * m - if m = power 2 52 ∧ -1074 < e then 1 else 2) * up
  let high := (4 * m + 2) * up
  let reads (c : Nat) : Bool :=
    if m % 2 = 0 then low ≤ c * step && c * step ≤ high else low < c * step && c * step < high
  let below := 4 * m * up / step
  let pastBelow := 4 * m * up % step
  if reads below && reads (below + 1) then
    if 2 * pastBelow < step ∨ (2 * pastBelow = step ∧ tie = .toEven ∧ below % 2 = 0) then some below
    else some (below + 1)
  else if reads below then some below
  else if reads (below + 1) then some (below + 1)
  else none

/-- Tries finer and finer grids. -/
def searchGrids (tie : TieRule) (m : Nat) (e : Int) : Nat → Int → Decimal
  | 0, _ => ⟨0, 0⟩
  | tries + 1, scale =>
    match onGrid? tie m e scale with
    | some digits => ⟨digits, scale⟩
    | none => searchGrids tie m e tries (scale - 1)

/-- The shortest decimal that reads back as the magnitude of a finite number. -/
def shortest (tie : TieRule) (x : Binary64) : Decimal :=
  if x.significand = 0 then ⟨0, 0⟩
  else
    searchGrids tie x.significand x.exponent 24
      (((x.significand.log2 + 1 : Nat) + x.exponent) * 30103 / 100000 + 1)

end Binary64

/-- How a number is laid out: positionally while the decimal exponent of its first digit lies
between `least` and `most`, with an exponent mark otherwise. -/
structure NumberLayout where
  least : Option Int
  most : Option Int
  /-- Whole numbers written positionally end in `.0`. -/
  pointAlways : Bool
  /-- Positive exponents carry a sign. -/
  plusSign : Bool
  tie : TieRule

namespace NumberLayout

/-- The layout of shown records. -/
def shown : NumberLayout := ⟨some (-4), some 15, true, false, .up⟩

/-- Plain digits, whatever the size. -/
def plain : NumberLayout := ⟨none, none, false, false, .up⟩

/-- The layout of JSON texts. -/
def json : NumberLayout := ⟨some (-5), some 15, true, true, .toEven⟩

def positional (layout : NumberLayout) (digits : List Char) (scale : Int) : List Char :=
  let count : Int := digits.length
  if 0 ≤ scale then
    digits ++ List.replicate scale.toNat '0' ++ if layout.pointAlways then ['.', '0'] else []
  else if 0 < count + scale then
    digits.take (count + scale).toNat ++ '.' :: digits.drop (count + scale).toNat
  else '0' :: '.' :: List.replicate (-(count + scale)).toNat '0' ++ digits

def withExponent (layout : NumberLayout) (digits : List Char) (exponent : Int) : List Char :=
  digits.take 1 ++ (if digits.length ≤ 1 then [] else '.' :: digits.drop 1) ++
    'e' :: (if layout.plusSign && 0 ≤ exponent then ['+'] else []) ++ (toString exponent).toList

def magnitude (layout : NumberLayout) (d : Decimal) : List Char :=
  let digits := Nat.toDigits 10 d.digits
  let exponent := digits.length + d.scale - 1
  if d.digits = 0 ∨ (layout.least.all (· ≤ exponent) ∧ layout.most.all (exponent ≤ ·)) then
    layout.positional digits d.scale
  else layout.withExponent digits exponent

def write (layout : NumberLayout) (x : Binary64) : String :=
  if x.isNaN then "NaN"
  else
    (if x.negative then "-" else "") ++
      if x.isInfinite then "inf" else String.ofList (layout.magnitude (x.shortest layout.tie))

end NumberLayout

end SessionGateway
