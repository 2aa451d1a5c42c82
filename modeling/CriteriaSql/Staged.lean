import CriteriaSql.Builder.Build
import CriteriaSql.Builder.Call

/-!
# Writes of a single row

An UPDATE or DELETE has no limit, so the row is selected first, in a common table expression, and the
write joins back to it by the row identifier. Both halves are one statement, and the write's
placeholders go on after those of the selection.

* `Staged.update`, `Staged.delete`: the two writes.
-/

namespace CriteriaSql.Staged

/-- The name of the selected row. -/
def rowAlias : String := "cte"

/-- The column that identifies a row. -/
def rowId : String := "_id"

/-- The selection of one row by a filter. -/
def selection (schema : Schema) (criteria : Filter) : Builder :=
  ((Builder.ofSchema schema .ignore).selectUnchecked [rowId] |>.restrict .and criteria).limit 1

/-- The selection as a common table expression. -/
def stage (schema : Schema) (criteria : Filter) : Except Error Statement :=
  (selection schema criteria).build.map (·.wrapped ("WITH " ++ rowAlias ++ " AS (") ")")

/-- The condition that the written row is the selected one. -/
def joinBack (schema : Schema) : Predicate :=
  .raw (rowAlias ++ "." ++ rowId ++ " = " ++ schema.name ++ "." ++ rowId)

/-- The write that a builder gathers, on the selected row. -/
def write (schema : Schema) (target : Builder) : Builder :=
  (target.staged rowAlias).predicate .and (joinBack schema)

/-- The selection followed by the write. -/
def finish (schema : Schema) (stage : Statement) (target : Builder) : Except Error Statement :=
  (((write schema target).buildFrom stage.values.length).mapError .validation).bind
    fun s => Builder.validated (stage ++ s)

/-- An empty write of a kind. -/
def target (schema : Schema) (kind : StatementKind) : Builder :=
  (Builder.ofSchema schema .ignore).prepare kind

/-- Updates the row that a filter selects, in the fields that the schema knows. -/
def update (schema : Schema) (criteria : Filter) (updates : Record) : Except Error Statement :=
  (stage schema criteria).bind fun s =>
    finish schema s ((target schema .update).setFields updates)

/-- What an update reports: nothing if the selection cannot be made. -/
def updateEvents (schema : Schema) (criteria : Filter) (updates : Record) : List Event :=
  match stage schema criteria with
  | .ok _ => (target schema .update).droppedUpdates updates
  | .error _ => []

/-- Deletes the row that a filter selects; the filter must bind something. -/
def delete (schema : Schema) (criteria : Filter) : Except Error Statement :=
  (stage schema criteria).bind fun s =>
    if s.values.isEmpty then .error (.validation (.unguardedDelete schema.name))
    else finish schema s (target schema .delete)

end CriteriaSql.Staged
