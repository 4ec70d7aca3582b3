/-! Double-precision numbers as bit patterns, and the nearest one to a quotient of naturals. -/

namespace SessionGateway

/-- The `n`-th power of `b`. -/
abbrev power (b n : Nat) : Nat := Nat.pow b n

/-- The quotient rounded to the nearest natural number, a half to the even neighbour. -/
def roundHalfEven (n d : Nat) : Nat :=
  if 2 * (n % d) > d ∨ (2 * (n % d) = d ∧ n / d % 2 = 1) then n / d + 1 else n / d

/-- A sign bit, eleven exponent bits and fifty-two fraction bits. -/
structure Binary64 where
  bits : UInt64
  deriving DecidableEq, Repr

namespace Binary64

def negative (x : Binary64) : Bool := x.bits.toNat / power 2 63 == 1

def exponentField (x : Binary64) : Nat := x.bits.toNat / power 2 52 % power 2 11

def fraction (x : Binary64) : Nat := x.bits.toNat % power 2 52

def isNaN (x : Binary64) : Bool := x.exponentField == 2047 && x.fraction != 0

def isInfinite (x : Binary64) : Bool := x.exponentField == 2047 && x.fraction == 0

def isFinite (x : Binary64) : Bool := x.exponentField != 2047

/-- A finite number is `significand * 2 ^ exponent`, up to its sign. -/
def significand (x : Binary64) : Nat :=
  if x.exponentField = 0 then x.fraction else power 2 52 + x.fraction

def exponent (x : Binary64) : Int := max x.exponentField 1 - 1075

def isZero (x : Binary64) : Bool := x.isFinite && x.significand == 0

def ofMagnitude (negative : Bool) (magnitude : Nat) : Binary64 :=
  ⟨UInt64.ofNat (if negative then power 2 63 + magnitude else magnitude)⟩

def infinity (negative : Bool) : Binary64 := ofMagnitude negative (2047 * power 2 52)

def nan : Binary64 := ofMagnitude false (2047 * power 2 52 + power 2 51)

def zero (negative : Bool) : Binary64 := ofMagnitude negative 0

/-- The largest `e` with `2 ^ e ≤ n / d`, for positive `n` and `d`. -/
def floorLog2 (n d : Nat) : Int :=
  let e : Int := (n.log2 : Int) - d.log2
  if n * power 2 (-e).toNat < d * power 2 e.toNat then e - 1 else e

/-- The number nearest to `n / d`, a tie to the even significand; infinity beyond the range. -/
def ofRatio (negative : Bool) (n d : Nat) : Binary64 :=
  if n = 0 then zero negative
  else
    let e := floorLog2 n d
    if e > 1023 then infinity negative
    else
      let unit := max (e - 52) (-1074)
      let m := roundHalfEven (n * power 2 (-unit).toNat) (d * power 2 unit.toNat)
      ofMagnitude negative ((unit + 1074).toNat * power 2 52 + m)

def digitCount (n : Nat) : Nat := (Nat.toDigits 10 n).length

/-- The number nearest to `digits * 10 ^ scale`. Far outside the range the power is not formed. -/
def ofDecimal (negative : Bool) (digits : Nat) (scale : Int) : Binary64 :=
  if digits = 0 then zero negative
  else if (digitCount digits : Int) + scale > 310 then infinity negative
  else if (digitCount digits : Int) + scale < -330 then zero negative
  else ofRatio negative (digits * power 10 scale.toNat) (power 10 (-scale).toNat)

def ofInt (i : Int) : Binary64 := ofRatio (i < 0) i.natAbs 1

/-- The number nearest to the product of two finite ones. -/
def times (x y : Binary64) : Binary64 :=
  let e := x.exponent + y.exponent
  ofRatio (x.negative != y.negative) (x.significand * y.significand * power 2 e.toNat)
    (power 2 (-e).toNat)

/-- The number nearest to the quotient of two finite ones, the second of which is not zero. -/
def dividedBy (x y : Binary64) : Binary64 :=
  let e := x.exponent - y.exponent
  ofRatio (x.negative != y.negative) (x.significand * power 2 e.toNat)
    (y.significand * power 2 (-e).toNat)

/-- Less than or equal to zero; false of a number that is not comparable. -/
def isNonpositive (x : Binary64) : Bool :=
  !x.isNaN && (x.negative || x.isZero)

end Binary64

end SessionGateway
