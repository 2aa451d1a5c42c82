import CriteriaSql.Column.Type
import CriteriaSql.Decimal.Basic

/-!
# Decimal columns

Decimals in groups of four digits around the point: a header with the count of groups, the weight of
the first, the sign and the count of places, then the groups.

* `Numeric.encode`: the bytes of a decimal.
* `Numeric.decode`: the decimal of bytes, as far as it fits.
-/

namespace CriteriaSql.Numeric

/-- Each group holds four digits. -/
def base : Nat := 10000

/-- The sign field of negative numbers. -/
def negativeSign : Nat := 0x4000

/-- Whether a sign field has both of its high bits, as it has where there is no number. -/
def isNoNumber (sign : Nat) : Bool :=
  sign / negativeSign = 3

/-! ## Writing -/

/-- The groups of a number, the highest first. -/
def groups (n : Nat) : List Nat :=
  if n = 0 then [] else groups (n / base) ++ [n % base]
termination_by n
decreasing_by exact Nat.div_lt_self (Nat.pos_of_ne_zero ‹_›) (by decide)

/-- A list without the zeros at its end. -/
def dropZeros (gs : List Nat) : List Nat :=
  (gs.reverse.dropWhile (· = 0)).reverse

/-- The bytes of a header and groups. -/
def frame (weight : Int) (sign scale : Nat) (gs : List Nat) : Bytes :=
  Bytes.bigEndian 2 gs.length ++ Bytes.ofInt 2 weight ++ Bytes.bigEndian 2 sign ++
    Bytes.bigEndian 2 scale ++ gs.flatMap (Bytes.bigEndian 2)

/-- The bytes of a decimal. Zero has no groups; zeros at the end go only where whole groups stand
before the point. -/
def encode (d : Decimal) : Bytes :=
  if d.isZero then frame 0 0 0 []
  else
    let after := (d.scale + 3) / 4
    let gs := groups (d.mantissa * pow10 (4 * after - d.scale))
    let before := gs.length - after
    let gs := if after < gs.length then gs.take before ++ dropZeros (gs.drop before) else gs
    let weight : Int := (groups (d.mantissa * pow10 (4 * after - d.scale))).length - after - 1
    frame weight (if d.negative then negativeSign else 0) d.scale gs

/-! ## Reading -/

/-- A whole number with one more group. -/
def appendGroup? (m group : Nat) : Option Nat :=
  if m * base < Decimal.limit ∧ m * base + group < Decimal.limit then some (m * base + group)
  else none

/-- Adds the group that starts after `position` groups of places. A group past the last place counts
only for rounding, and later ones not at all. -/
def addGroup? (d : Decimal) (group position : Nat) : Option Decimal :=
  let scale := 4 * (position + 1)
  if scale ≤ Decimal.maxScale then d.add? ⟨false, group, scale⟩
  else if scale = Decimal.maxScale + 4 ∧ base / 2 ≤ group then d.add? ⟨false, 1, Decimal.maxScale⟩
  else some d

/-- A whole number with groups of zeros after it. Their power of ten must fit by itself, even where
the number is zero. -/
def appendZeros? (m count : Nat) : Option Nat :=
  if 4 * count ≤ Decimal.maxScale ∧ m * pow10 (4 * count) < Decimal.limit then
    some (m * pow10 (4 * count))
  else none

/-- The decimal of groups, of which the first has a weight. -/
def ofGroups? (weight : Int) (gs : List Nat) : Option Decimal := do
  let before := (weight + 1).toNat
  let m ← (gs.take before).foldlM appendGroup? 0
  let m ← appendZeros? m (before - gs.length)
  let skipped := (-(weight + 1)).toNat
  ((gs.drop before).zipIdx skipped).foldlM (fun d (group, position) => addGroup? d group position)
    ⟨false, m, 0⟩

/-- Reads a number of two bytes. -/
def word? (bytes : Bytes) : Except CodecError (Bytes × Bytes) :=
  if bytes.length < 2 then .error .tooShort else .ok (bytes.take 2, bytes.drop 2)

/-- Reads groups, and leaves what follows them unread. -/
def words? : Nat → Bytes → Except CodecError (List Nat)
  | 0, _ => .ok []
  | n + 1, bytes => do
    let (w, rest) ← word? bytes
    return Bytes.toNat w :: (← words? n rest)

/-- The decimal of bytes, with as many places as its header says. The sign is looked at before
anything after it is read. -/
def decode (bytes : Bytes) : Except CodecError Decimal := do
  let (count, rest) ← word? bytes
  let (weight, rest) ← word? rest
  let (sign, rest) ← word? rest
  if isNoNumber (Bytes.toNat sign) then .error .decimal
  else
    let (scale, rest) ← word? rest
    let gs ← words? (Bytes.toNat count) rest
    match ofGroups? (Bytes.toInt weight) gs with
    | none => .error .decimal
    | some d =>
      let signed : Decimal := ⟨Bytes.toNat sign = negativeSign, d.mantissa, d.scale⟩
      .ok (signed.rescale (min (Bytes.toNat scale) Decimal.maxScale))

end CriteriaSql.Numeric
