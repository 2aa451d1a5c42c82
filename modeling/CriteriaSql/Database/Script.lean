import CriteriaSql.Database.Executor

/-!
# Scripted executors

An executor that answers from a list prepared beforehand, whatever it is asked.

* `Script.executor`: takes one prepared answer for each request.
-/

namespace CriteriaSql.Script

/-- A prepared answer: a failure, or the rows for a query and the count for an execution. -/
inductive Answer where
  | fail (e : Error)
  | give (rows : List Record) (count : Nat)

/-- The answer when nothing is prepared. -/
def nothing : Answer := .give [] 0

/-- Takes the next prepared answer. -/
def take (f : Answer → Except Error α) (answers : List Answer) : Reply (List Answer) α :=
  ⟨f (answers.headD nothing), [], answers.tail⟩

/-- The rows of an answer. -/
def Answer.rows : Answer → Except Error (List Record)
  | .fail e => .error e
  | .give rows _ => .ok rows

/-- The count of an answer. -/
def Answer.count : Answer → Except Error Nat
  | .fail e => .error e
  | .give _ n => .ok n

/-- The executor of prepared answers. -/
def executor : Executor (List Answer) where
  query _ _ := take Answer.rows
  execute _ _ := take Answer.count

end CriteriaSql.Script
