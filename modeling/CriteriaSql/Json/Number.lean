import CriteriaSql.Floating.Binary64
import CriteriaSql.Json.Basic

/-!
# JSON numbers, read

A whole number that fits 64 bits is kept. Every other number is read in three roundings at most: the
leading digits as far as they fit 64 bits become the nearest binary number, and that is multiplied or
divided by a power of ten, itself rounded. What overflows is no number.

* `Literal`: the parts of a number's text.
* `Literal.number?`: the number it stands for.
-/

namespace CriteriaSql.Json

open CriteriaSql.Floating

/-- The parts of a number: sign, digits before and after the point, and exponent. `fraction` and
`exponent` tell apart what is missing and what is there. -/
structure Literal where
  negative : Bool
  whole : List Char
  fraction : Option (List Char)
  exponent : Option Int
  deriving DecidableEq

/-- Digits as far as they fit 64 bits: the number so far and the digits that are left. -/
def takeWord (significand : Nat) : List Char → Nat × List Char
  | [] => (significand, [])
  | c :: rest =>
    let next := significand * 10 + (c.toNat - '0'.toNat)
    if next < UInt64.size then takeWord next rest else (significand, c :: rest)

/-- The magnitude word of a power of ten. -/
def powerOfTen (n : Nat) : Nat :=
  Format.binary64.encode (pow10 n * Format.binary64.one) 1

/-- The largest power of ten that is a binary number. -/
def largestPower : Nat := 308

/-- The nearest magnitude words to a product and to a quotient of two. -/
def timesWord (a b : Nat) : Nat :=
  let f := Format.binary64
  f.encode (f.units a * f.units b) f.one

@[inherit_doc timesWord]
def overWord (a b : Nat) : Nat :=
  let f := Format.binary64
  f.encode (f.units a * f.one) (f.units b)

/-- Divides a magnitude word by a power of ten, in steps of the largest one. Zero stays zero. -/
def divideByPower : Nat → Nat → Nat → Nat
  | 0, word, n => overWord word (powerOfTen n)
  | steps + 1, word, n =>
    if n ≤ largestPower then overWord word (powerOfTen n)
    else if word = 0 then 0
    else divideByPower steps (overWord word (powerOfTen largestPower)) (n - largestPower)

/-- The magnitude word of `significand * 10 ^ exponent`, if it does not overflow. -/
def scaled? (significand : Nat) (exponent : Int) : Option Nat :=
  let f := Format.binary64
  let word := f.encode (significand * f.one) 1
  if exponent < 0 then
    let n := (-exponent).toNat
    some (divideByPower (n / largestPower) word n)
  else if word = 0 then some 0
  else if largestPower < exponent then none
  else
    let product := timesWord word (powerOfTen exponent.toNat)
    if product < f.infinity then some product else none

namespace Literal

/-- The number as a binary one. -/
def float? (l : Literal) : Option Number := do
  let (significand, dropped) := takeWord 0 l.whole
  let (significand, left) := takeWord significand (l.fraction.getD [])
  let places := (l.fraction.getD []).length - left.length
  let word ← scaled? significand (l.exponent.getD 0 + dropped.length - places)
  let x := Binary64.ofMagnitude l.negative word
  if h : x.isFinite = true then some (.float x h) else none

/-- The number of a literal: whole if it is written so and fits, though never a negative zero. -/
def number? (l : Literal) : Option Number :=
  let magnitude : Int := Nat.ofDigitChars 10 l.whole 0
  let n := if l.negative then -magnitude else magnitude
  if h : (wholeLow ≤ n ∧ n ≤ wholeHigh) ∧ l.fraction = none ∧ l.exponent = none ∧
      ¬(l.negative = true ∧ magnitude = 0) then
    some (.int n h.1)
  else l.float?

end Literal

end CriteriaSql.Json
