import CriteriaSql.Power

/-!
# Byte strings

Numbers as bytes with the most significant one first, and text as UTF-8.

* `bigEndian`, `toNat`: unsigned numbers of a fixed size.
* `ofInt`, `toInt`: signed numbers of a fixed size, in two's complement.
* `ofText`, `toText?`: text.
-/

namespace CriteriaSql

/-- A byte string. -/
abbrev Bytes := List UInt8

namespace Bytes

/-- The lowest `8 * size` bits of a number. -/
def bigEndian : Nat → Nat → Bytes
  | 0, _ => []
  | size + 1, n => bigEndian size (n / 256) ++ [UInt8.ofNat n]

/-- The unsigned number of a byte string. -/
def toNat (bytes : Bytes) : Nat :=
  bytes.foldl (fun n b => n * 256 + b.toNat) 0

/-- The lowest `8 * size` bits of an integer in two's complement. -/
def ofInt (size : Nat) (n : Int) : Bytes :=
  bigEndian size (n % pow2 (8 * size)).toNat

/-- The signed number of a byte string. -/
def toInt (bytes : Bytes) : Int :=
  let n := toNat bytes
  let bound := pow2 (8 * bytes.length)
  if 2 * n < bound then n else (n : Int) - bound

/-- The UTF-8 bytes of a text. -/
def ofText (s : String) : Bytes :=
  s.toUTF8.toList

/-- The text of UTF-8 bytes. -/
def toText? (bytes : Bytes) : Option String :=
  String.fromUTF8? ⟨bytes.toArray⟩

end Bytes

end CriteriaSql
