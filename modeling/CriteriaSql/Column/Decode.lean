import CriteriaSql.Calendar.Text
import CriteriaSql.Column.Numeric
import CriteriaSql.Identifier.Uuid
import CriteriaSql.Json.Parser
import CriteriaSql.Value

/-!
# Values out of columns

The value that the bytes of a column stand for. Numbers and truth values stay what they are, all else
becomes text.

* `Value.decode`: the value of a column, null for a column without bytes.
-/

namespace CriteriaSql.Value

open CriteriaSql.Floating

/-- The bytes of a column that must have exactly `size` of them; `excess` is the error of more. -/
def exactly (size : Nat) (excess : CodecError) (raw : Bytes) : Except CodecError Bytes :=
  if raw.length < size then .error .tooShort
  else if size < raw.length then .error excess
  else .ok raw

/-- The signed integer of a column of a fixed size. -/
def decodeInt (size : Nat) (raw : Bytes) : Except CodecError Value :=
  (exactly size .wrongSize raw).map fun bytes => .int (Int64.ofInt (Bytes.toInt bytes))

/-- The text of a column. -/
def decodeText (raw : Bytes) : Except CodecError String :=
  match Bytes.toText? raw with
  | some s => .ok s
  | none => .error .utf8

/-- The JSON text of a column in its compact form. -/
def decodeJson (raw : Bytes) : Except CodecError Value :=
  match (Bytes.toText? raw).bind Json.parse? with
  | some j => .ok (.text j.render)
  | none => .error .json

/-- The text of a moment whose date is supported. -/
def decodeMoment (separator : Char) (suffix : String) (raw : Bytes) : Except CodecError Value :=
  (exactly 8 (.leftOver "timestamp") raw).bind fun bytes =>
    let micros := Bytes.toInt bytes
    if Calendar.Date.inRange (micros / Calendar.microsPerDay) then
      .ok (.text (String.ofList (Calendar.momentText separator micros) ++ suffix))
    else .error .tooLarge

/-- The value of a column that has bytes. -/
def decodeBytes (t : ColumnType) (raw : Bytes) : Except CodecError Value :=
  match t with
  | .bool => match raw with | [b] => .ok (.bool (b ≠ 0)) | _ => .error .wrongSize
  | .int2 => decodeInt 2 raw
  | .int4 => decodeInt 4 raw
  | .int8 => decodeInt 8 raw
  | .oid => (exactly 4 .wrongSize raw).map fun bytes => .int (Int64.ofInt (Bytes.toNat bytes))
  | .float4 =>
    (exactly 4 .wrongSize raw).map fun bytes =>
      .float (Binary64.widen (UInt32.ofNat (Bytes.toNat bytes)))
  | .float8 =>
    (exactly 8 .wrongSize raw).map fun bytes => .float ⟨UInt64.ofNat (Bytes.toNat bytes)⟩
  | .numeric => (Numeric.decode raw).map fun d => .text (String.ofList d.text)
  | .uuid =>
    if raw.length = Identifier.byteCount then .ok (.text (String.ofList (Identifier.text raw)))
    else .error .uuidSize
  | .json => decodeJson raw
  | .jsonb =>
    match raw with
    | [] => .error .tooShort
    | version :: rest => if version = 1 then decodeJson rest else .error .jsonbVersion
  | .timestamptz => decodeMoment 'T' "+00:00" raw
  | .timestamp => decodeMoment ' ' "" raw
  | .date =>
    (exactly 4 (.leftOver "date") raw).bind fun bytes =>
      let days := Bytes.toInt bytes
      if Calendar.Date.inRange days then .ok (.text (String.ofList (Calendar.dateText days)))
      else .error .tooLarge
  | .time =>
    (exactly 8 (.leftOver "time") raw).map fun bytes =>
      .text (String.ofList (Calendar.clockText (Bytes.toInt bytes % Calendar.microsPerDay).toNat))
  | .ltree =>
    match raw with
    | version :: rest =>
      if version = 1 then (decodeText rest).map .text else .error .ltreeVersion
    | [] => .error .ltreeVersion
  | .text | .varchar | .bpchar | .name | .unknown | .citext => (decodeText raw).map .text
  | .other name => .error (.unsupported name)

/-- The value of a column. -/
def decode (t : ColumnType) : Option Bytes → Except CodecError Value
  | none => .ok .null
  | some raw => decodeBytes t raw

end CriteriaSql.Value
