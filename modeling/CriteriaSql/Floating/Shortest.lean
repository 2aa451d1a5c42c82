import CriteriaSql.Floating.Binary64

/-!
# The fewest digits that read back

A finite number is written with as few significant digits as still read back as that number. On the
grid of decimals with a given count of digits only the two neighbours of the number can be nearest to
it, so those two are tried, with one digit, then two, and so on.

* `Digits`: a whole number times a power of ten.
* `shortest`: the digits of a magnitude, for either way to break a tie.
-/

namespace CriteriaSql.Floating

/-- The decimal `significand * 10 ^ exponent`. -/
structure Digits where
  significand : Nat
  exponent : Int
  deriving DecidableEq, Repr

/-- Where a tie between two equally near decimals goes. -/
inductive Tie where
  | up
  | even
  deriving DecidableEq, Repr

namespace Digits

/-- Whether a decimal reads back as a magnitude word. -/
def readsAs (d : Digits) (magnitude : Nat) : Bool :=
  Format.binary64.ofDecimal d.significand d.exponent == magnitude

/-- The same decimal with at most `fuel` zeros moved from the end of its significand into the
exponent. -/
def dropZeros : Nat → Digits → Digits
  | 0, d => d
  | fuel + 1, d =>
    if d.significand ≠ 0 ∧ d.significand % 10 = 0 then
      dropZeros fuel ⟨d.significand / 10, d.exponent + 1⟩
    else d

end Digits

/-- The power of ten of the first significant digit of a positive number of units. -/
def leadingExponent (units : Nat) : Int :=
  let one := Format.binary64.one
  if one ≤ units then ((Nat.toDigits 10 (units / one)).length : Int) - 1
  else -((Nat.toDigits 10 ((one - 1) / units)).length : Int)

/-- The decimals next to a number of units on the grid of step `10 ^ exponent`, the lower one first,
with twice the distance to the lower one compared with the step. -/
def neighbours (units : Nat) (exponent : Int) : Digits × Digits × Ordering :=
  let num := units * pow10 (-exponent).toNat
  let den := Format.binary64.one * pow10 exponent.toNat
  let low := num / den
  (⟨low, exponent⟩, ⟨low + 1, exponent⟩, compare (2 * (num % den)) den)

/-- The better of the two neighbours on one grid among those that read back. -/
def onGrid (tie : Tie) (magnitude : Nat) (exponent : Int) : Option Digits :=
  let (low, high, side) := neighbours (Format.binary64.units magnitude) exponent
  match low.readsAs magnitude, high.readsAs magnitude with
  | false, false => none
  | true, false => some low
  | false, true => some high
  | true, true =>
    match side, tie with
    | .lt, _ => some low
    | .gt, _ => some high
    | .eq, .up => some high
    | .eq, .even => some (if low.significand % 2 = 0 then low else high)

/-- The exact decimal of a magnitude word, which always reads back. -/
def exactDigits (magnitude : Nat) : Digits :=
  let f := Format.binary64
  ⟨f.units magnitude * Nat.pow 5 f.unitShift, -(f.unitShift : Int)⟩

/-- Tries grids with ever more digits, the next of them `10 ^ exponent`. -/
def search (tie : Tie) (magnitude : Nat) : Nat → Int → Digits
  | 0, _ => exactDigits magnitude
  | fuel + 1, exponent => (onGrid tie magnitude exponent).getD (search tie magnitude fuel (exponent - 1))

/-- The fewest digits that read back as a finite magnitude word, and of those the nearest. -/
def shortest (tie : Tie) (magnitude : Nat) : Digits :=
  if magnitude = 0 then ⟨0, 0⟩
  else
    (search tie magnitude 17 (leadingExponent (Format.binary64.units magnitude))).dropZeros 20

end CriteriaSql.Floating
