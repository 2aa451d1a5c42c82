import CriteriaSql.Bytes

/-!
# Column types

The types of columns and parameters, as far as values are written to and read from them in ways of
their own. All further types are told apart by their names only.

* `ColumnType.isText`: the types that hold plain text.
* `CodecError`: why a value does not go into a column, or a column gives no value.
-/

namespace CriteriaSql

/-- The type of a column or parameter. -/
inductive ColumnType where
  | bool
  | int2
  | int4
  | int8
  | oid
  | float4
  | float8
  | numeric
  | text
  | varchar
  | bpchar
  | name
  | unknown
  | citext
  | ltree
  | uuid
  | json
  | jsonb
  | timestamptz
  | timestamp
  | date
  | time
  | other (name : String)
  deriving DecidableEq, Repr

namespace ColumnType

/-- The types with codecs of their own, with their names. -/
def named : List (String × ColumnType) :=
  [("bool", .bool), ("int2", .int2), ("int4", .int4), ("int8", .int8), ("oid", .oid),
    ("float4", .float4), ("float8", .float8), ("numeric", .numeric), ("text", .text),
    ("varchar", .varchar), ("bpchar", .bpchar), ("name", .name), ("unknown", .unknown),
    ("citext", .citext), ("ltree", .ltree), ("uuid", .uuid), ("json", .json), ("jsonb", .jsonb),
    ("timestamptz", .timestamptz), ("timestamp", .timestamp), ("date", .date), ("time", .time)]

/-- The type of a name. The type of an array is named by its element with an underscore before it. -/
def ofName (name : String) : ColumnType :=
  match named.lookup name with
  | some t => t
  | none =>
    .other (if name.endsWith "[]" then
      "_" ++ String.ofList (name.toList.take (name.length - 2)) else name)

/-- The types that hold plain text. -/
def isText : ColumnType → Bool
  | .text | .varchar | .bpchar | .name | .unknown | .citext | .ltree => true
  | _ => false

end ColumnType

/-- Why a value cannot be written, or a column cannot be read. -/
inductive CodecError where
  | integerRange
  | integerText
  | floatText
  | boolText
  | utf8
  | calendar
  | uuidText
  | json
  | decimal
  | tooShort
  | wrongSize
  | leftOver (part : String)
  | tooLarge
  | uuidSize
  | ltreeVersion
  | jsonbVersion
  | unsupported (type : String)
  deriving DecidableEq, Repr

/-- The wording of the errors that have no other form than text. -/
def CodecError.message? : CodecError → Option String
  | .wrongSize => some "invalid buffer size"
  | .leftOver part => some ("invalid message length: " ++ part ++ " not drained")
  | .tooLarge => some "value too large to decode"
  | .uuidSize => some "invalid message length: uuid size mismatch"
  | .ltreeVersion => some "ltree version 1 only supported"
  | .jsonbVersion => some "unsupported JSONB encoding version"
  | .unsupported type => some ("unsupported column type `" ++ type ++ "`")
  | _ => none

end CriteriaSql
