import CriteriaSql.Calendar.Text
import CriteriaSql.Column.Numeric
import CriteriaSql.Decimal.OfBinary
import CriteriaSql.Decimal.Reader
import CriteriaSql.Identifier.Uuid
import CriteriaSql.Json.Parser
import CriteriaSql.Value

/-!
# Values into columns

The bytes that bind a value to a parameter of a type. Text is read in the form in which the type's
columns are decoded; a value of another kind than the type is written in its own way.

* `Value.encode`: the bytes, or `none` for null.
-/

namespace CriteriaSql.Value

open CriteriaSql.Floating

/-- The bytes of a text for a type; a label tree has a version byte before it. -/
def encodeText (t : ColumnType) (s : String) : Bytes :=
  if t = .ltree then 1 :: Bytes.ofText s else Bytes.ofText s

/-- The bytes of an integer of a fixed size, which must lie in a range. -/
def encodeWithin (size : Nat) (low high n : Int) : Except CodecError Bytes :=
  if low ≤ n ∧ n ≤ high then .ok (Bytes.ofInt size n) else .error .integerRange

/-- The bytes of a number in the 64-bit format. -/
def encodeBinary64 (x : Binary64) : Bytes :=
  Bytes.bigEndian 8 x.bits.toNat

/-- The bytes of a number in the 32-bit format. -/
def encodeBinary32 (x : Binary64) : Bytes :=
  Bytes.bigEndian 4 x.narrow.toNat

/-- The bytes of an integer in the 32-bit format, which it reaches in one rounding. -/
def encodeIntBinary32 (n : Int) : Bytes :=
  let f := Format.binary32
  Bytes.bigEndian 4 ((if n < 0 then f.signBit else 0) + f.encode (n.natAbs * f.one) 1)

/-- The bytes of a truth value. -/
def encodeBool (t : ColumnType) (b : Bool) : Bytes :=
  if t.isText then encodeText t (if b then "true" else "false") else [if b then 1 else 0]

/-- The bytes of an integer. -/
def encodeInt (t : ColumnType) (n : Int) : Except CodecError Bytes :=
  match t with
  | .int2 => encodeWithin 2 (-32768) 32767 n
  | .int4 => encodeWithin 4 (-2147483648) 2147483647 n
  | .oid => encodeWithin 4 0 4294967295 n
  | .float4 => .ok (encodeIntBinary32 n)
  | .float8 => .ok (encodeBinary64 (Binary64.ofInt n))
  | .numeric => .ok (Numeric.encode (Decimal.ofInt n))
  | t =>
    .ok (if t.isText then encodeText t (String.ofList (Text.integer n)) else Bytes.ofInt 8 n)

/-- The bytes of a binary number. -/
def encodeFloat (t : ColumnType) (x : Binary64) : Except CodecError Bytes :=
  match t with
  | .float4 => .ok (encodeBinary32 x)
  | .numeric =>
    match Decimal.ofBinary64? x with
    | some d => .ok (Numeric.encode d)
    | none => .error .decimal
  | t => .ok (if t.isText then encodeText t (String.ofList (plain x)) else encodeBinary64 x)

/-- The result of a reader, or the error of its kind of text. -/
def orError (e : CodecError) : Option α → Except CodecError α
  | some a => .ok a
  | none => .error e

/-- The bytes of a text, read in the form of the type. -/
def encodeTextAs (t : ColumnType) (s : String) : Except CodecError Bytes :=
  let cs := s.toList
  match t with
  | .uuid => orError .uuidText (Identifier.read? cs)
  | .json => (orError .json (Json.parse? s)).map fun j => Bytes.ofText j.render
  | .jsonb => (orError .json (Json.parse? s)).map fun j => 1 :: Bytes.ofText j.render
  | .timestamptz => (orError .calendar (Calendar.internet? cs)).map (Bytes.ofInt 8)
  | .timestamp => (orError .calendar (Calendar.timestamp? cs)).map (Bytes.ofInt 8)
  | .date => (orError .calendar (Calendar.date? cs)).map (Bytes.ofInt 4)
  | .time =>
    (orError .calendar (Calendar.clock? cs)).map fun nanos => Bytes.bigEndian 8 (nanos / 1000)
  | .numeric => (orError .decimal (Decimal.read? (Text.trim cs))).map Numeric.encode
  | .bool =>
    let word := String.ofList (Text.trim cs)
    if word = "true" then .ok (encodeBool t true)
    else if word = "false" then .ok (encodeBool t false)
    else .error .boolText
  | .int2 | .int4 | .int8 | .oid =>
    (orError .integerText (Text.int64? (Text.trim cs))).bind (encodeInt t)
  | .float4 | .float8 => (orError .floatText (read? (Text.trim cs))).bind (encodeFloat t)
  | t => .ok (encodeText t s)

/-- The bytes that bind a value to a parameter of a type; null has none. -/
def encode (t : ColumnType) : Value → Except CodecError (Option Bytes)
  | .null => .ok none
  | .bool b => .ok (some (encodeBool t b))
  | .int n => (encodeInt t n.toInt).map some
  | .float x => (encodeFloat t x).map some
  | .text s => (encodeTextAs t s).map some

end CriteriaSql.Value
