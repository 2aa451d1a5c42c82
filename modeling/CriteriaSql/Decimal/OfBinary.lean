import CriteriaSql.Decimal.Basic
import CriteriaSql.Floating.Binary64

/-!
# Decimals from binary numbers

A finite binary number `m * 2 ^ e` becomes `m' * 10 ^ e'` by trading factors: a factor two in the
exponent is paid for by a factor five. The mantissa keeps to 96 bits, so digits are lost where it
would grow further. At the end the places are cut to 28 and the mantissa to 52 bits, rounding half up
digit by digit, and zeros at the end go.

* `ofBinary64?`: the decimal, `none` for what is not finite or too large.
-/

namespace CriteriaSql.Decimal

/-- A mantissa with powers of ten beside it. -/
structure Trade where
  mantissa : Nat
  tens : Int
  deriving DecidableEq, Repr

namespace Trade

/-- Pays for `n` factors one fifth, halving where the mantissa is even or has no room. -/
def fifths : Nat → Trade → Trade
  | 0, t => t
  | n + 1, t =>
    if t.mantissa % 2 = 0 then fifths n ⟨t.mantissa / 2, t.tens + 1⟩
    else if t.mantissa * 5 < limit then fifths n ⟨t.mantissa * 5, t.tens⟩
    else fifths n ⟨t.mantissa / 2, t.tens + 1⟩

/-- Pays for `n` factors five, doubling as long as there is room. -/
def fives? : Nat → Trade → Option Trade
  | 0, t => some t
  | n + 1, t =>
    if t.mantissa < limit / 2 then fives? n ⟨t.mantissa * 2, t.tens - 1⟩
    else if (n + 1 : Int) < t.tens * 2 then none
    else fives? n ⟨t.mantissa / 5, t.tens⟩

/-- Multiplies `n` powers of ten into the mantissa. -/
def absorb? : Nat → Nat → Option Nat
  | 0, m => some m
  | n + 1, m => if m * 10 < limit then absorb? n (m * 10) else none

/-- Rounds off one digit. -/
def dropDigit (m : Nat) : Nat :=
  m / 10 + if 5 ≤ m % 10 then 1 else 0

/-- Cuts `n` places, one digit at a time; a mantissa that vanishes leaves zero without places. -/
def cut : Nat → Nat → Nat → Nat × Nat
  | 0, m, places => (m, places)
  | n + 1, m, places => if m / 10 = 0 then (0, 0) else cut n (dropDigit m) (places - 1)

/-- Cuts places as long as the mantissa has more than 52 bits. -/
def narrow : Nat → Nat → Nat × Nat
  | m, 0 => (m, 0)
  | m, places + 1 => if pow2 52 ≤ m then narrow (dropDigit m) places else (m, places + 1)

/-- Drops places that hold zero. -/
def dropZeros : Nat → Nat → Nat × Nat
  | m, 0 => (m, 0)
  | m, places + 1 => if m % 10 = 0 then dropZeros (m / 10) places else (m, places + 1)

/-- The mantissa and places of `m * 2 ^ e`. -/
def finish? (t : Trade) : Option (Nat × Nat) :=
  if 0 ≤ t.tens then (absorb? t.tens.toNat t.mantissa).map fun m => (m, 0)
  else
    let places := (-t.tens).toNat
    let (m, places) := cut (places - maxScale) t.mantissa places
    let (m, places) := narrow m places
    some (dropZeros m places)

end Trade

/-- The significand and power of two of a finite number that is not zero. -/
def significand (x : Floating.Binary64) : Nat × Int :=
  let fraction := x.magnitude % pow2 52
  let exponent := x.magnitude / pow2 52
  if exponent = 0 then (fraction, -1074) else (pow2 52 + fraction, (exponent : Int) - 1075)

/-- The decimal of a binary number. -/
def ofBinary64? (x : Floating.Binary64) : Option Decimal :=
  if !x.isFinite then none
  else if x.isZero then some zero
  else do
    let (m, twos) := significand x
    let start : Trade := ⟨m, twos⟩
    let traded ←
      if twos ≤ 0 then some (Trade.fifths (-twos).toNat start) else Trade.fives? twos.toNat start
    let (m, places) ← traded.finish?
    return ⟨x.isNegative, m, places⟩

end CriteriaSql.Decimal
