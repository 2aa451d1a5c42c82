import CriteriaSql.Decimal.Basic

/-!
# Decimal text

Reading a decimal from text: an optional sign, digits with at most one point, and underscores after
the first digit. The places from the first digit that does not fit on are rounded off half up by that
digit; the rest of the text must still be digits and underscores. After the last place of a short
mantissa an underscore stands for a zero there, so that what follows it is cut off. Where this fails,
the text may have an exponent.

* `plain?`: the form without exponent.
* `scientific?`: the form with an exponent, which is at most the largest count of places.
* `read?`: either of them.
-/

namespace CriteriaSql.Decimal

/-- Rounds by the first digit left out. A mantissa that grows too large gives up its last place. -/
def roundBy? (mantissa scale digit : Nat) : Option (Nat × Nat) :=
  if digit < 5 then some (mantissa, scale)
  else if mantissa + 1 < limit then some (mantissa + 1, scale)
  else if scale = 0 then none
  else some ((mantissa + 5) / 10, scale - 1)

/-- Whether a character may stand among the places that are rounded off. -/
def isTail (c : Char) : Bool :=
  c.isDigit || c == '_'

/-- Mantissas below this bound are short: one more digit leaves them within 64 bits, with room to
spare. -/
def shortLimit : Nat := UInt64.size / 10 - 255

/-- Whether no place is left, and the mantissa was short up to its last digit. -/
def isShortAndFull (mantissa scale : Nat) : Bool :=
  scale = maxScale && mantissa / 10 < shortLimit

/-- Reads the digits after the sign. `point` and `started` say whether a point and a digit have been
seen. -/
def scan? (mantissa scale : Nat) (point started : Bool) : List Char → Option (Nat × Nat)
  | [] => if started then some (mantissa, scale) else none
  | c :: rest =>
    if c.isDigit then
      let digit := c.toNat - '0'.toNat
      let m := mantissa * 10 + digit
      if m < limit ∧ scale < maxScale then scan? m (if point then scale + 1 else scale) point true rest
      else if point ∧ rest.all isTail then roundBy? mantissa scale digit
      else none
    else if c = '.' ∧ !point then scan? mantissa scale true started rest
    else if c = '_' ∧ started then
      if isShortAndFull mantissa scale then
        if rest.all isTail then some (mantissa, scale) else none
      else scan? mantissa scale point started rest
    else none

/-- Reads a decimal without exponent. -/
def plain? : List Char → Option Decimal
  | '-' :: cs => (scan? 0 0 false false cs).map fun (m, s) => ⟨true, m, s⟩
  | '+' :: cs => (scan? 0 0 false false cs).map fun (m, s) => ⟨false, m, s⟩
  | cs => (scan? 0 0 false false cs).map fun (m, s) => ⟨false, m, s⟩

/-- Whether a character starts an exponent. -/
def isExponentMark (c : Char) : Bool :=
  c == 'e' || c == 'E'

/-- Moves the point to the left; places beyond the largest count are rounded off first. -/
def moveLeft (places : Nat) (d : Decimal) : Decimal :=
  let d := if maxScale < d.scale + places then d.rescale (maxScale - places) else d
  ⟨d.negative, d.mantissa, d.scale + places⟩

/-- Moves the point to the right, into whole numbers as far as they fit. -/
def moveRight? (places : Nat) (d : Decimal) : Option Decimal :=
  if places ≤ d.scale then some ⟨d.negative, d.mantissa, d.scale - places⟩
  else
    let m := d.mantissa * pow10 (places - d.scale)
    if m < limit then some ⟨d.negative, m, 0⟩ else none

/-- Reads an exponent's digits: at most the largest count of places. -/
def places? (cs : List Char) : Option Nat :=
  (Text.unsigned? cs).filter (· ≤ maxScale)

/-- Reads a decimal with an exponent. -/
def scientific? (cs : List Char) : Option Decimal := do
  let d ← plain? (cs.takeWhile (!isExponentMark ·))
  match cs.dropWhile (!isExponentMark ·) with
  | _ :: '-' :: rest => (places? rest).map fun e => moveLeft e d
  | _ :: rest => (places? rest).bind fun e => moveRight? e d
  | [] => none

/-- Reads a decimal text. -/
def read? (cs : List Char) : Option Decimal :=
  (plain? cs).or (scientific? cs)

end CriteriaSql.Decimal
