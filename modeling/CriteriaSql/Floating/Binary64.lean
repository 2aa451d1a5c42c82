import CriteriaSql.Floating.Format

/-!
# Numbers of the 64-bit format

A number is its word. Equality of words is equality of numbers as data (each NaN equals itself, the
two zeros differ); `equal` is the comparison of the arithmetic standard.

* `ofInt`, `ofDecimal`: the nearest number to an integer or a decimal.
* `narrow`, `widen`: conversion to the 32-bit format and back.
-/

namespace CriteriaSql.Floating

/-- A word of the 64-bit format. -/
structure Binary64 where
  bits : UInt64
  deriving DecidableEq, Repr

namespace Binary64

/-- The number with a sign and a magnitude word. -/
def ofMagnitude (negative : Bool) (magnitude : Nat) : Binary64 :=
  ⟨UInt64.ofNat ((if negative then Format.binary64.signBit else 0) + magnitude)⟩

/-- Whether the sign bit is set. -/
def isNegative (x : Binary64) : Bool :=
  Format.binary64.signBit ≤ x.bits.toNat

/-- The word without its sign bit. -/
def magnitude (x : Binary64) : Nat :=
  x.bits.toNat % Format.binary64.signBit

/-- No number at all. -/
def isNaN (x : Binary64) : Bool :=
  Format.binary64.infinity < x.magnitude

/-- A number that is neither infinite nor a NaN. -/
def isFinite (x : Binary64) : Bool :=
  x.magnitude < Format.binary64.infinity

/-- One of the two zeros. -/
def isZero (x : Binary64) : Bool :=
  x.magnitude == 0

/-- The units of a finite number's absolute value. -/
def units (x : Binary64) : Nat :=
  Format.binary64.units x.magnitude

/-- The comparison of the arithmetic standard: a NaN equals nothing, the zeros equal each other. -/
def equal (x y : Binary64) : Bool :=
  !x.isNaN && !y.isNaN && (x == y || (x.isZero && y.isZero))

/-- The quiet NaN with a sign and nothing else. -/
def nan (negative : Bool) : Binary64 :=
  ofMagnitude negative (Format.binary64.quietNaN 0)

/-- The number nearest to an integer. -/
def ofInt (n : Int) : Binary64 :=
  ofMagnitude (n < 0) (Format.binary64.encode (n.natAbs * Format.binary64.one) 1)

/-- The number nearest to `± significand * 10 ^ exponent`. -/
def ofDecimal (negative : Bool) (significand : Nat) (exponent : Int) : Binary64 :=
  ofMagnitude negative (Format.binary64.ofDecimal significand exponent)

/-- The fraction bits that the 64-bit format has below those of the 32-bit one. -/
def extraBits : Nat := Format.binary64.fractionBits - Format.binary32.fractionBits

/-- The word of the 32-bit number nearest to a number. A NaN keeps its sign and the high bits of its
fraction, and becomes quiet. -/
def narrow (x : Binary64) : UInt32 :=
  let f := Format.binary32
  let magnitude :=
    if x.isNaN then f.quietNaN (x.magnitude / pow2 extraBits)
    else if x.isFinite then f.encode (x.units * f.one) Format.binary64.one
    else f.infinity
  UInt32.ofNat ((if x.isNegative then f.signBit else 0) + magnitude)

/-- The 64-bit number with the value of a 32-bit word. A NaN keeps its sign and fraction, and becomes
quiet. -/
def widen (word : UInt32) : Binary64 :=
  let f := Format.binary32
  let magnitude := word.toNat % f.signBit
  ofMagnitude (f.signBit ≤ word.toNat)
    (if f.infinity < magnitude then Format.binary64.quietNaN (magnitude * pow2 extraBits)
      else if magnitude = f.infinity then Format.binary64.infinity
      else Format.binary64.encode (f.units magnitude * Format.binary64.one) f.one)

end Binary64

end CriteriaSql.Floating
