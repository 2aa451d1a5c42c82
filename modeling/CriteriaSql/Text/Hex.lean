import CriteriaSql.Bytes

/-!
# Hexadecimal text

Bytes and small numbers in base sixteen. Printing is in lower case, reading takes either case.

* `hexBytes`, `hexBytes?`: two digits a byte.
* `hexNumber?`: a number written in a fixed count of digits.
-/

namespace CriteriaSql.Text

/-- The lower-case digit of a number below sixteen. -/
def hexDigit (n : Nat) : Char :=
  Nat.digitChar n

/-- The value of a hexadecimal digit of either case. -/
def hexValue? (c : Char) : Option Nat :=
  if c.isDigit then some (c.toNat - '0'.toNat)
  else if 'a' ≤ c ∧ c ≤ 'f' then some (c.toNat - 'a'.toNat + 10)
  else if 'A' ≤ c ∧ c ≤ 'F' then some (c.toNat - 'A'.toNat + 10)
  else none

/-- A byte as two digits. -/
def hexByte (b : UInt8) : List Char :=
  [hexDigit (b.toNat / 16), hexDigit (b.toNat % 16)]

/-- Bytes as digits, two a byte. -/
def hexBytes (bytes : Bytes) : List Char :=
  bytes.flatMap hexByte

/-- Reads bytes, two digits each. -/
def hexBytes? : List Char → Option Bytes
  | [] => some []
  | [_] => none
  | a :: b :: rest => do
    let high ← hexValue? a
    let low ← hexValue? b
    let bytes ← hexBytes? rest
    return UInt8.ofNat (high * 16 + low) :: bytes

/-- The number that a list of digits writes, if all are hexadecimal. -/
def hexNumber? (cs : List Char) : Option Nat :=
  cs.foldlM (fun n c => (hexValue? c).map (n * 16 + ·)) 0

end CriteriaSql.Text
