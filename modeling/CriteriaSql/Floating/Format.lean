import CriteriaSql.Power

/-!
# Binary floating-point formats

A format has a count of fraction bits and of exponent bits. A finite magnitude is a whole number of
the format's **units**, its smallest positive numbers, so rounding is a rounding of natural numbers.
A magnitude is written as its word without the sign bit.

* `roundEven`: the nearest whole number to a ratio, ties to even.
* `Format.encode`: the magnitude word nearest to a ratio of units, infinity when it is too large.
* `Format.units`: the number of units that a finite magnitude word stands for.
-/

namespace CriteriaSql.Floating

/-- The whole number nearest to `num / den`; a tie goes to the even one. -/
def roundEven (num den : Nat) : Nat :=
  let q := num / den
  let r := num % den
  if 2 * r < den then q
  else if den < 2 * r then q + 1
  else q + q % 2

/-- A binary interchange format. -/
structure Format where
  fractionBits : Nat
  exponentBits : Nat
  deriving DecidableEq, Repr

namespace Format

/-- The format with 32 bits. -/
def binary32 : Format := ⟨23, 8⟩

/-- The format with 64 bits. -/
def binary64 : Format := ⟨52, 11⟩

/-- A unit is `2 ^ -unitShift`. -/
def unitShift (f : Format) : Nat :=
  pow2 (f.exponentBits - 1) - 2 + f.fractionBits

/-- The number of units in one. -/
def one (f : Format) : Nat :=
  pow2 f.unitShift

/-- The magnitude word of infinity; larger ones are no numbers. -/
def infinity (f : Format) : Nat :=
  (pow2 f.exponentBits - 1) * pow2 f.fractionBits

/-- The magnitude word of the quiet NaN that carries a number in its fraction. The highest fraction bit
marks it as quiet, so the number counts modulo that bit. -/
def quietNaN (f : Format) (payload : Nat) : Nat :=
  let quiet := pow2 (f.fractionBits - 1)
  f.infinity + quiet + payload % quiet

/-- The word bit that holds the sign. -/
def signBit (f : Format) : Nat :=
  pow2 (f.fractionBits + f.exponentBits)

/-- The magnitude word nearest to `num / den` units, ties to the even word. A significand that rounds
up to the next power of two carries into the exponent field by itself. -/
def encode (f : Format) (num den : Nat) : Nat :=
  let p := (num / den).log2 - f.fractionBits
  min (p * pow2 f.fractionBits + roundEven num (den * pow2 p)) f.infinity

/-- The number of units of a finite magnitude word. -/
def units (f : Format) (word : Nat) : Nat :=
  let hidden := pow2 f.fractionBits
  if word < 2 * hidden then word else (hidden + word % hidden) * pow2 (word / hidden - 1)

/-- The magnitude word nearest to `significand * 10 ^ exponent`. The two guards only cut short what
is out of the format's range on either side. -/
def ofDecimal (f : Format) (significand : Nat) (exponent : Int) : Nat :=
  if significand = 0 then 0
  else if 0 ≤ exponent then
    if f.unitShift < exponent then f.infinity
    else f.encode (significand * pow10 exponent.toNat * f.one) 1
  else if f.unitShift + significand.log2 + 1 < -exponent then 0
  else f.encode (significand * f.one) (pow10 (-exponent).toNat)

end Format

end CriteriaSql.Floating
