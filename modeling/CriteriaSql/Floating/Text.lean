import CriteriaSql.Floating.Shortest
import CriteriaSql.Text.Digits

/-!
# Numbers of the 64-bit format as text

Two ways to write a number, both with the fewest digits that read back, and the reader of plain
number text.

* `plain`: positional, never an exponent and no fraction for a whole number.
* `scientific`: positional for moderate sizes and always with a fraction, an exponent for the rest;
  finite numbers only.
* `read?`: an optional sign, then digits with an optional point and exponent, or a name.
-/

namespace CriteriaSql.Floating

open CriteriaSql.Text

/-- Digits with the point placed so that the last of them counts `10 ^ exponent`. -/
def positional (ds : List Char) (exponent : Int) : List Char :=
  if 0 ≤ exponent then ds ++ List.replicate exponent.toNat '0'
  else
    let places := (-exponent).toNat
    if places < ds.length then
      ds.take (ds.length - places) ++ '.' :: ds.drop (ds.length - places)
    else '0' :: '.' :: (List.replicate (places - ds.length) '0' ++ ds)

/-- A minus sign before a negative number. -/
def signed (negative : Bool) (cs : List Char) : List Char :=
  if negative then '-' :: cs else cs

/-- A number without exponent: whole numbers have no point, and a tie for the last digit goes up. -/
def plain (x : Binary64) : List Char :=
  if x.isNaN then ['N', 'a', 'N']
  else
    signed x.isNegative <|
      if x.isFinite then
        let d := shortest .up x.magnitude
        positional (natural d.significand) d.exponent
      else ['i', 'n', 'f']

/-- The powers of ten of the first digit that `scientific` writes without exponent. -/
def positionalFrom : Int := -5

@[inherit_doc positionalFrom]
def positionalTo : Int := 15

/-- A finite number, always with a point or an exponent; a tie for the last digit goes to even. -/
def scientific (x : Binary64) : List Char :=
  let d := shortest .even x.magnitude
  let ds := natural d.significand
  let leading := d.exponent + ds.length - 1
  signed x.isNegative <|
    if positionalFrom ≤ leading ∧ leading ≤ positionalTo then
      if 0 ≤ d.exponent then positional ds d.exponent ++ ['.', '0'] else positional ds d.exponent
    else
      let fraction := ds.drop 1
      ds.take 1 ++ (if fraction = [] then [] else '.' :: fraction) ++
        'e' :: (if leading < 0 then '-' else '+') :: natural leading.natAbs

/-- The exponent part of a number: nothing, or the letter and a signed number. -/
def exponent? : List Char → Option Int
  | [] => some 0
  | c :: cs => if c = 'e' ∨ c = 'E' then integer? cs else none

/-- Reads digits with an optional point and exponent as a significand and a power of ten. -/
def decimal? (cs : List Char) : Option Digits :=
  let (whole, rest) := digits cs
  let (fraction, rest) :=
    match rest with
    | '.' :: rest => digits rest
    | rest => ([], rest)
  if whole ++ fraction = [] then none
  else
    (exponent? rest).map fun e =>
      ⟨Nat.ofDigitChars 10 (whole ++ fraction) 0, e - fraction.length⟩

/-- The names of infinity and of what is no number, in lower case. -/
def infinityNames : List String := ["inf", "infinity"]

@[inherit_doc infinityNames]
def nanNames : List String := ["nan"]

/-- Reads a number text without its sign. -/
def unsigned? (negative : Bool) (cs : List Char) : Option Binary64 :=
  let name := String.ofList (cs.map Char.toLower)
  if name ∈ infinityNames then some (Binary64.ofMagnitude negative Format.binary64.infinity)
  else if name ∈ nanNames then some (Binary64.nan negative)
  else (decimal? cs).map fun d => Binary64.ofDecimal negative d.significand d.exponent

/-- Reads a number text: an optional sign, then a decimal or a name. What is too large becomes
infinite. -/
def read? : List Char → Option Binary64
  | '-' :: cs => unsigned? true cs
  | '+' :: cs => unsigned? false cs
  | cs => unsigned? false cs

end CriteriaSql.Floating
