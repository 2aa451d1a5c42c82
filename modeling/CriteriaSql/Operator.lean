import CriteriaSql.Error
import CriteriaSql.Value

/-!
# Operators

A comparison with its operand: one value, a list of values, or a pattern.

* `Operator.key`: the name of the operator in a filter document.
* `Operator.operands`: the values it binds, one placeholder each.
* `Operator.check`: an empty list is no operand.
-/

namespace CriteriaSql

/-- A comparison with one value. -/
inductive Comparison where
  | eq
  | ne
  | lt
  | lte
  | gt
  | gte
  deriving DecidableEq, Repr

namespace Comparison

/-- The name in a filter document. -/
def key : Comparison → String
  | .eq => "$eq"
  | .ne => "$ne"
  | .lt => "$lt"
  | .lte => "$lte"
  | .gt => "$gt"
  | .gte => "$gte"

/-- The token in SQL. -/
def sql : Comparison → String
  | .eq => "="
  | .ne => "!="
  | .lt => "<"
  | .lte => "<="
  | .gt => ">"
  | .gte => ">="

/-- All comparisons. -/
def all : List Comparison := [.eq, .ne, .lt, .lte, .gt, .gte]

/-- The comparison of a name. -/
def ofKey? (key : String) : Option Comparison :=
  all.find? fun c => c.key = key

end Comparison

/-- An operator with its operand. -/
inductive Operator where
  | compare (comparison : Comparison) (value : Value)
  | inList (values : List Value)
  | like (pattern : String)
  deriving DecidableEq

namespace Operator

/-- The name in a filter document. -/
def key : Operator → String
  | .compare c _ => c.key
  | .inList _ => "$in"
  | .like _ => "$like"

/-- The token in SQL. -/
def sql : Operator → String
  | .compare c _ => c.sql
  | .inList _ => "IN"
  | .like _ => "LIKE"

/-- The values that the operator binds, in order. -/
def operands : Operator → List Value
  | .compare _ v => [v]
  | .inList vs => vs
  | .like pattern => [.text pattern]

/-- The number of placeholders: one for each listed value, else one. -/
def paramCount : Operator → Nat
  | .inList vs => vs.length
  | _ => 1

/-- Refuses an empty list for a field. -/
def check (field : String) : Operator → Except Invalid Unit
  | .inList [] => .error (.emptyList field)
  | _ => .ok ()

end Operator

end CriteriaSql
