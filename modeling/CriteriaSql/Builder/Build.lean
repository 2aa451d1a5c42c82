import CriteriaSql.Builder.Basic
import CriteriaSql.Statement

/-!
# Building statements

The statement that a builder has gathered, with its placeholders numbered after an offset.

* `Builder.buildFrom`: the statement, or the fault that was remembered or is found now.
* `Builder.build`: the statement numbered from one, with its numbering checked.
-/

namespace CriteriaSql.Builder

/-- A statement followed by the WHERE clause of a builder, numbered after all that is bound. -/
def withCriteria (offset : Nat) (b : Builder) (s : Statement) : Statement :=
  let start := offset + s.values.length
  let compiled := b.criteria.compile start
  s ++ Statement.bound compiled.fragments compiled.values (start + 1)

/-- The text of the projection. -/
def projectionText (b : Builder) : Except Invalid String :=
  match b.projection with
  | none => .ok "*"
  | some [] => .error (.noSelectableField b.table)
  | some fields => .ok (", ".intercalate fields)

/-- The SELECT of a builder up to its criteria. -/
def selectHead (projection : String) (b : Builder) : Statement :=
  .ofFragments (("SELECT " ++ projection ++ " FROM " ++ b.table) :: b.joins.flatMap Join.fragments)

/-- What follows the criteria of a SELECT. -/
def selectTail (b : Builder) : List String :=
  SortKey.fragments b.sorts ++ b.page.fragments

/-- The SELECT of a builder. -/
def buildSelect (offset : Nat) (b : Builder) : Except Invalid Statement :=
  b.projectionText.map fun projection =>
    b.withCriteria offset (b.selectHead projection) ++ .ofFragments b.selectTail

/-- The text of an assignment to a column. -/
def assignment (column : String) (n : Nat) : String :=
  column ++ " = " ++ placeholder n

/-- The assignments to columns, numbered after `offset`. -/
def assignmentTexts (offset : Nat) (columns : List String) : List String :=
  (columns.zip (List.range' (offset + 1) columns.length)).map fun (c, n) => assignment c n

/-- The UPDATE of a builder up to its criteria. -/
def updateHead (offset : Nat) (b : Builder) : Statement :=
  Statement.bound
      ["UPDATE " ++ b.table ++ " SET",
        ", ".intercalate (assignmentTexts offset b.assignments.columns)]
      b.assignments.values (offset + 1) ++
    .ofFragments (b.staging.toList.map ("FROM " ++ ·))

/-- The UPDATE of a builder, which must have fields to set. -/
def buildUpdate (offset : Nat) (b : Builder) : Except Invalid Statement :=
  if b.assignments.isEmpty then .error (.noUpdatableField b.table)
  else .ok (b.withCriteria offset (b.updateHead offset))

/-- The DELETE of a builder up to its criteria. -/
def deleteHead (b : Builder) : Statement :=
  .ofFragments (("DELETE FROM " ++ b.table) :: b.staging.toList.map ("USING " ++ ·))

/-- The DELETE of a builder, which must have conditions. -/
def buildDelete (offset : Nat) (b : Builder) : Except Invalid Statement :=
  if b.criteria.isEmpty then .error (.unguardedDelete b.table)
  else .ok (b.withCriteria offset b.deleteHead)

/-- The statement of a builder, numbered after `offset` values bound before it. -/
def buildFrom (offset : Nat) (b : Builder) : Except Invalid Statement :=
  match b.failure with
  | some cause => .error cause
  | none =>
    match b.kind with
    | .select => b.buildSelect offset
    | .update => b.buildUpdate offset
    | .delete => b.buildDelete offset

/-- A statement whose numbering has been checked. -/
def validated (s : Statement) : Except Error Statement :=
  (s.validate.mapError .queryBuild).map fun _ => s

/-- The statement of a builder, numbered from one. -/
def build (b : Builder) : Except Error Statement :=
  ((b.buildFrom 0).mapError .validation).bind validated

end CriteriaSql.Builder
