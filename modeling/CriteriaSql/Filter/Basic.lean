import CriteriaSql.Criteria

/-!
# Filters

Fields with what is asked of them, the argument of a WHERE clause. A bare value asks for equality and
counts only if it is a value at all; an operator always counts.

* `Filter.literal`, `Filter.operator`: building a filter entry by entry.
* `Filter.predicates`: the conditions of a filter.
* `Criteria.addFilter`: adds all of them, or none when one is refused.
-/

namespace CriteriaSql

/-- What is asked of a field. -/
inductive Condition where
  | literal (v : Value)
  | operator (op : Operator)
  deriving DecidableEq

/-- Whether a condition counts: bare values that stand for no value do not. -/
def Condition.operator? : Condition → Option Operator
  | .literal v => if v.isFalsy then none else some (.compare .eq v)
  | .operator op => some op

/-- Fields with their conditions, in order. -/
structure Filter where
  entries : List (String × Condition)
  deriving DecidableEq

namespace Filter

def empty : Filter := ⟨[]⟩

/-- Adds an entry; one without a field name is dropped. -/
def add (field : String) (condition : Condition) (f : Filter) : Filter :=
  if field.isEmpty then f else ⟨f.entries ++ [(field, condition)]⟩

/-- Asks for equality with a bare value. -/
def literal (field : String) (v : Value) (f : Filter) : Filter :=
  f.add field (.literal v)

/-- Asks for an operator. -/
def operator (field : String) (op : Operator) (f : Filter) : Filter :=
  f.add field (.operator op)

def size (f : Filter) : Nat := f.entries.length

def isEmpty (f : Filter) : Bool := f.entries.isEmpty

/-- Whether two filters have the same fields and conditions, values compared by `Value.equal`. -/
def equal (f g : Filter) : Bool :=
  f.entries.length == g.entries.length &&
    (f.entries.zip g.entries).all fun ((a, c), (b, d)) =>
      a == b &&
        match c, d with
        | .literal v, .literal w => v.equal w
        | .operator p, .operator q =>
          p.key == q.key && p.operands.length == q.operands.length &&
            (p.operands.zip q.operands).all fun (v, w) => v.equal w
        | _, _ => false

/-- The entries that count, in order. -/
def usable (f : Filter) : List (String × Operator) :=
  f.entries.filterMap fun e => e.2.operator?.map (e.1, ·)

/-- The conditions of a filter, or the fault of the first one that is refused. -/
def predicates (f : Filter) : Except Invalid (List Predicate) :=
  f.usable.mapM fun e => Predicate.ofField e.1 e.2

end Filter

/-- Adds every condition of a filter with one connective; a refused one leaves all out. -/
def Criteria.addFilter (connective : Connective) (f : Filter) (c : Criteria) :
    Except Invalid Criteria :=
  f.predicates.map fun ps => c.pushAll connective ps

end CriteriaSql
