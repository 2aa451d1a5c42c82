/-!
# Whole numbers as text

Decimal and hexadecimal digits of natural numbers and integers. Printing uses the digits of the
standard library; reading accepts one or more ASCII digits and nothing else.

* `natural`, `integer`: the decimal form.
* `natural?`, `integer?`: reading it back, with an optional sign for `integer?`.
* `integerWithin?`: reading an integer of a bounded range.
-/

namespace CriteriaSql.Text

/-- The decimal digits of a natural number. -/
def natural (n : Nat) : List Char :=
  Nat.toDigits 10 n

/-- The decimal digits of a natural number, filled up with zeros to a least width. -/
def naturalPadded (width n : Nat) : List Char :=
  List.replicate (width - (natural n).length) '0' ++ natural n

/-- The decimal form of an integer, with a minus sign before a negative one. -/
def integer (n : Int) : List Char :=
  if n < 0 then '-' :: natural n.natAbs else natural n.natAbs

/-- Reads one or more decimal digits. -/
def natural? (cs : List Char) : Option Nat :=
  if cs ≠ [] ∧ cs.all Char.isDigit then some (Nat.ofDigitChars 10 cs 0) else none

/-- Reads decimal digits with an optional plus sign. -/
def unsigned? : List Char → Option Nat
  | '+' :: cs => natural? cs
  | cs => natural? cs

/-- Reads decimal digits with an optional sign. -/
def integer? : List Char → Option Int
  | '-' :: cs => (natural? cs).map fun n => -(n : Int)
  | cs => (unsigned? cs).map Int.ofNat

/-- Reads an integer that lies in a range, ends included. -/
def integerWithin? (low high : Int) (cs : List Char) : Option Int :=
  (integer? cs).filter fun n => decide (low ≤ n ∧ n ≤ high)

/-- The leading decimal digits of a text, and what follows them. -/
def digits (cs : List Char) : List Char × List Char :=
  cs.span Char.isDigit

/-- The smallest and the largest integer of 64 bits. -/
def int64Low : Int := -9223372036854775808

@[inherit_doc int64Low]
def int64High : Int := 9223372036854775807

/-- Reads a signed integer of 64 bits. -/
def int64? (cs : List Char) : Option Int :=
  integerWithin? int64Low int64High cs

/-- Reads an unsigned integer below a bound, with an optional plus sign. -/
def below? (bound : Nat) (cs : List Char) : Option Nat :=
  (unsigned? cs).filter fun n => decide (n < bound)

theorem natural_ne_nil (n : Nat) : natural n ≠ [] := Nat.toDigits_ne_nil

theorem isDigit_of_mem_natural {n : Nat} {c : Char} (h : c ∈ natural n) : c.isDigit = true :=
  Nat.isDigit_of_mem_toDigits (by decide) (by decide) h

/-- **A printed number reads back.** -/
theorem natural?_natural (n : Nat) : natural? (natural n) = some n := by
  have hd : (natural n).all Char.isDigit = true :=
    List.all_eq_true.2 fun _ h => isDigit_of_mem_natural h
  simp [natural?, natural_ne_nil, hd]
  exact Nat.ofDigitChars_ten_toDigits

end CriteriaSql.Text
