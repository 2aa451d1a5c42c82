import CriteriaSql.Floating.Format
import CriteriaSql.Text.Digits

/-!
# Fixed-point decimals

A sign, a whole mantissa of at most 96 bits and a count of decimal places up to 28. Results that do
not fit lose places, never whole digits.

* `rescale`: the same number with another count of places, rounded half away from zero.
* `add?`, `shift?`: exact sums and products with ten thousand, as far as they fit.
* `text`: all places, with a sign also before a negative zero.
-/

namespace CriteriaSql

/-- The number `± mantissa / 10 ^ scale`. -/
structure Decimal where
  negative : Bool
  mantissa : Nat
  scale : Nat
  deriving DecidableEq, Repr

namespace Decimal

/-- Mantissas lie below this bound. -/
def limit : Nat := pow2 96

/-- The largest count of places. -/
def maxScale : Nat := 28

/-- A whole number without places. -/
def ofInt (n : Int) : Decimal :=
  ⟨n < 0, n.natAbs, 0⟩

def zero : Decimal := ⟨false, 0, 0⟩

def isZero (d : Decimal) : Bool :=
  d.mantissa == 0

/-- Up to `places` more places, as long as the mantissa fits. -/
def pad : Nat → Decimal → Decimal
  | 0, d => d
  | places + 1, d =>
    if d.mantissa * 10 < limit then pad places ⟨d.negative, d.mantissa * 10, d.scale + 1⟩ else d

/-- A mantissa with its last `places` digits rounded off, a half going up. -/
def roundOff (mantissa places : Nat) : Nat :=
  if places = 0 then mantissa else (mantissa + 5 * pow10 (places - 1)) / pow10 places

/-- The number with `scale` places: rounded half away from zero, or filled up with zeros as far as
the mantissa fits. -/
def rescale (scale : Nat) (d : Decimal) : Decimal :=
  if d.isZero then ⟨d.negative, 0, scale⟩
  else if scale < d.scale then ⟨d.negative, roundOff d.mantissa (d.scale - scale), scale⟩
  else pad (scale - d.scale) d

/-- A mantissa with `dropped` places rounded off, ties to even, and then as many more as it takes to
fit; `none` if there are too few places. -/
def fit? (mantissa scale : Nat) : Nat → Option (Nat × Nat)
  | 0 => let m := Floating.roundEven mantissa (pow10 scale); if m < limit then some (m, 0) else none
  | kept + 1 =>
    let m := Floating.roundEven mantissa (pow10 (scale - (kept + 1)))
    if m < limit then some (m, kept + 1) else fit? mantissa scale kept

/-- The sum of two numbers that are not negative, with as many places as fit. -/
def add? (a b : Decimal) : Option Decimal :=
  let scale := max a.scale b.scale
  (fit? (a.mantissa * pow10 (scale - a.scale) + b.mantissa * pow10 (scale - b.scale)) scale scale).map
    fun (m, s) => ⟨false, m, s⟩

/-- All digits, the places after a point. -/
def text (d : Decimal) : List Char :=
  let ds := Text.naturalPadded (d.scale + 1) d.mantissa
  let whole := ds.take (ds.length - d.scale)
  let cs := if d.scale = 0 then whole else whole ++ '.' :: ds.drop (ds.length - d.scale)
  if d.negative then '-' :: cs else cs

end Decimal

end CriteriaSql
