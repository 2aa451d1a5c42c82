import CriteriaSql.Operator

/-!
# Criteria

The conditions of one statement in two sequences, those joined with AND and those joined with OR, and
their compilation to a flat WHERE clause: the first sequence comes first, and every condition but the
very first has its own connective before it.

* `Predicate.sql`, `Predicate.operands`: the text of a condition and the values it binds.
* `Criteria.compile`: the clause, numbered after an offset.
-/

namespace CriteriaSql

/-- The SQL text of the placeholder with a number. -/
def placeholder (n : Nat) : String := "$" ++ toString n

/-- What joins a condition to those before it. -/
inductive Connective where
  | and
  | or
  deriving DecidableEq, Repr

/-- The keyword of a connective. -/
def Connective.sql : Connective → String
  | .and => "AND"
  | .or => "OR"

/-- One condition: a field under an operator, or trusted SQL without placeholders. -/
inductive Predicate where
  | field (name : String) (op : Operator)
  | raw (sql : String)
  deriving DecidableEq

namespace Predicate

/-- A field under an operator, whose list must not be empty. -/
def ofField (name : String) (op : Operator) : Except Invalid Predicate :=
  (op.check name).map fun _ => .field name op

/-- The values that a condition binds, in order. -/
def operands : Predicate → List Value
  | .field _ op => op.operands
  | .raw _ => []

/-- The number of placeholders of a condition. -/
def paramCount : Predicate → Nat
  | .field _ op => op.paramCount
  | .raw _ => 0

/-- The text of a condition whose placeholders are numbered after `offset`. -/
def sql (offset : Nat) : Predicate → String
  | .field name (.compare c _) => name ++ " " ++ c.sql ++ " " ++ placeholder (offset + 1)
  | .field name (.inList values) =>
    name ++ " IN (" ++
      ",".intercalate ((List.range' (offset + 1) values.length).map placeholder) ++ ")"
  | .field name (.like _) =>
    "LOWER(" ++ name ++ ") LIKE LOWER(" ++ placeholder (offset + 1) ++ ")"
  | .raw sql => sql

end Predicate

/-- A compiled clause: its fragments and the values they bind, in placeholder order. -/
structure CompiledCriteria where
  fragments : List String
  values : List Value
  deriving DecidableEq

/-- The conditions of one statement, in call order within each sequence. -/
structure Criteria where
  conjuncts : List Predicate
  disjuncts : List Predicate
  deriving DecidableEq

namespace Criteria

def empty : Criteria := ⟨[], []⟩

/-- Adds a condition to the sequence of its connective. -/
def push (connective : Connective) (p : Predicate) (c : Criteria) : Criteria :=
  match connective with
  | .and => { c with conjuncts := c.conjuncts ++ [p] }
  | .or => { c with disjuncts := c.disjuncts ++ [p] }

/-- Adds conditions one after another. -/
def pushAll (connective : Connective) (ps : List Predicate) (c : Criteria) : Criteria :=
  ps.foldl (fun c p => c.push connective p) c

/-- The conditions in the order in which they are written, with their connectives. -/
def toList (c : Criteria) : List (Connective × Predicate) :=
  c.conjuncts.map (Connective.and, ·) ++ c.disjuncts.map (Connective.or, ·)

def isEmpty (c : Criteria) : Bool := c.conjuncts.isEmpty && c.disjuncts.isEmpty

def size (c : Criteria) : Nat := c.conjuncts.length + c.disjuncts.length

/-- The number of placeholders of the compiled clause. -/
def paramCount (c : Criteria) : Nat :=
  c.toList.foldr (fun p n => p.2.paramCount + n) 0

/-- The fragments of conditions that follow others, numbered after `offset`. -/
def following (offset : Nat) : List (Connective × Predicate) → List String
  | [] => []
  | (connective, p) :: rest =>
    connective.sql :: p.sql offset :: following (offset + p.operands.length) rest

/-- The fragments of a whole clause, numbered after `offset`: none without conditions. -/
def clause (offset : Nat) : List (Connective × Predicate) → List String
  | [] => []
  | (_, p) :: rest => "WHERE" :: p.sql offset :: following (offset + p.operands.length) rest

/-- The WHERE clause, whose placeholders follow the `offset` ones bound before it. -/
def compile (offset : Nat) (c : Criteria) : CompiledCriteria :=
  ⟨clause offset c.toList, c.toList.flatMap fun p => p.2.operands⟩

end Criteria

end CriteriaSql
