import CriteriaSql.Floating.Binary64
import CriteriaSql.Text.Digits

/-!
# JSON values

Values with the members of an object in written order. A number is a whole number that fits 64 bits,
signed or unsigned, or a finite binary number; nothing else is representable.

* `Number`, `Json`: the values.
* `Json.ofInt`, `Json.ofBinary64`: a number as a value, as far as it is one.
* `Json.kind`: the kind of a value in words.
* `Json.put`: adds a member, or replaces it where it stands.
-/

namespace CriteriaSql

namespace Json

/-- The whole numbers that are kept as such. -/
def wholeLow : Int := -9223372036854775808

@[inherit_doc wholeLow]
def wholeHigh : Int := 18446744073709551615

/-- A JSON number. -/
inductive Number where
  | int (n : Int) (h : wholeLow ≤ n ∧ n ≤ wholeHigh)
  | float (x : Floating.Binary64) (h : x.isFinite = true)
  deriving DecidableEq

end Json

/-- A JSON value. -/
inductive Json where
  | null
  | bool (b : Bool)
  | number (n : Json.Number)
  | string (s : String)
  | array (items : List Json)
  | object (members : List (String × Json))

namespace Json

instance : Inhabited Json := ⟨.null⟩

/-- A finite number; what is not finite has no JSON form and becomes null. -/
def ofBinary64 (x : Floating.Binary64) : Json :=
  if h : x.isFinite = true then .number (.float x h) else .null

/-- A whole number, as the nearest binary number when it does not fit 64 bits. -/
def ofInt (n : Int) : Json :=
  if h : wholeLow ≤ n ∧ n ≤ wholeHigh then .number (.int n h)
  else ofBinary64 (Floating.Binary64.ofInt n)

/-- The kind of a value, with its article. -/
def kind : Json → String
  | .null => "null"
  | .bool _ => "a boolean"
  | .number _ => "a number"
  | .string _ => "a string"
  | .array _ => "an array"
  | .object _ => "an object"

/-- Adds a member at the end, or replaces the value of one with the same name where it stands. -/
def put (name : String) (value : Json) : List (String × Json) → List (String × Json)
  | [] => [(name, value)]
  | m :: rest => if m.1 = name then (name, value) :: rest else m :: put name value rest

end Json

end CriteriaSql
