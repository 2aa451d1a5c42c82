import CriteriaSql.Floating.Text
import CriteriaSql.Json.Basic
import CriteriaSql.Json.Printer
import CriteriaSql.Text.Blank

/-!
# Values

A scalar that is bound to a placeholder or decoded from a column.

* `Value.isFalsy`: the values that stand for "no value given" in a filter.
* `Value.int?`, `Value.float?`, `Value.text?`, `Value.bool?`: views, which also read number text.
* `Value.ofJson?`, `Value.toJson`: JSON scalars.
* `Value.equal`: the comparison of values, under which no NaN equals itself.
-/

namespace CriteriaSql

open Floating

/-- A scalar value. -/
inductive Value where
  | null
  | bool (b : Bool)
  | int (n : Int64)
  | float (x : Binary64)
  | text (s : String)
  deriving DecidableEq

namespace Value

instance : Inhabited Value := ⟨.null⟩

/-- Null, the empty text and `false` count as no value; zero is one. -/
def isFalsy : Value → Bool
  | .null => true
  | .bool b => !b
  | .text s => s.isEmpty
  | .int _ | .float _ => false

def isNull : Value → Bool
  | .null => true
  | _ => false

/-- The value as an integer; a text is read, without the blanks around it. -/
def int? : Value → Option Int64
  | .int n => some n
  | .text s => (Text.int64? (Text.trim s.toList)).map Int64.ofInt
  | _ => none

/-- The value as a binary number; a text is read, without the blanks around it. -/
def float? : Value → Option Binary64
  | .int n => some (Binary64.ofInt n.toInt)
  | .float x => some x
  | .text s => read? (Text.trim s.toList)
  | _ => none

def text? : Value → Option String
  | .text s => some s
  | _ => none

def bool? : Value → Option Bool
  | .bool b => some b
  | _ => none

/-- Whether two values are equal, numbers by the rule of their standard. -/
def equal : Value → Value → Bool
  | .float x, .float y => x.equal y
  | v, w => v == w

/-- The value of a JSON scalar: whole numbers of 64 signed bits stay whole, others become binary. -/
def ofJson? : Json → Option Value
  | .null => some .null
  | .bool b => some (.bool b)
  | .number (.int n _) =>
    some (if Text.int64Low ≤ n ∧ n ≤ Text.int64High then .int (Int64.ofInt n)
      else .float (Binary64.ofInt n))
  | .number (.float x _) => some (.float x)
  | .string s => some (.text s)
  | .array _ | .object _ => none

/-- The value as JSON; a number that is not finite becomes null. -/
def toJson : Value → Json
  | .null => .null
  | .bool b => .bool b
  | .int n => Json.ofInt n.toInt
  | .float x => Json.ofBinary64 x
  | .text s => .string s

/-- The JSON text of a value, written without a JSON value in between. -/
def serialize : Value → String
  | .null => "null"
  | .bool b => if b then "true" else "false"
  | .int n => String.ofList (Text.integer n.toInt)
  | .float x => if x.isFinite then String.ofList (scientific x) else "null"
  | .text s => Json.quote s

end Value

end CriteriaSql
