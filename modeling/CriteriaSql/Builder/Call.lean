import CriteriaSql.Builder.Basic
import CriteriaSql.Event

/-!
# Calls

The calls of a builder as data, so that a chain of them is a list.

* `Builder.apply`, `Builder.run`: one call, and a chain.
* `Builder.events`: what a call reports, on the builder that it is applied to.
-/

namespace CriteriaSql

/-- A call of a builder. -/
inductive Call where
  | select (fields : List String)
  | selectUnchecked (fields : List String)
  | fromTable (table : String)
  | restrict (connective : Connective) (filter : Filter)
  | restrictJson (connective : Connective) (document : Json)
  | predicate (connective : Connective) (p : Predicate)
  | join (kind : JoinKind) (table condition : String)
  | sortBy (field : String) (direction : Direction)
  | limit (n : Nat)
  | offset (n : Nat)
  | setFields (updates : Record)
  | unknownOperators (policy : Policy)
  | prepare (kind : StatementKind)
  | reset

namespace Builder

/-- Carries out a call. -/
def apply (b : Builder) : Call → Builder
  | .select fields => b.select fields
  | .selectUnchecked fields => b.selectUnchecked fields
  | .fromTable table => b.fromTable table
  | .restrict connective filter => b.restrict connective filter
  | .restrictJson connective document => b.restrictJson connective document
  | .predicate connective p => b.predicate connective p
  | .join kind table condition => b.join kind table condition
  | .sortBy field direction => b.sortBy field direction
  | .limit n => b.limit n
  | .offset n => b.offset n
  | .setFields updates => b.setFields updates
  | .unknownOperators policy => b.unknownOperators policy
  | .prepare kind => b.prepare kind
  | .reset => b.reset

/-- Carries out calls one after another. -/
def run (b : Builder) (calls : List Call) : Builder :=
  calls.foldl apply b

/-- The projected fields that `select` leaves out. -/
def droppedProjections (fields : List String) (b : Builder) : List Event :=
  ((starred fields).filter (!b.schema.allowsProjection ·)).map (.droppedProjection b.table ·)

/-- The columns that `setFields` leaves out. -/
def droppedUpdates (updates : Record) (b : Builder) : List Event :=
  (updates.columns.filter (!b.schema.hasField ·)).map (.droppedUpdate b.table ·)

/-- What a call reports. -/
def events (b : Builder) : Call → List Event
  | .select fields => b.droppedProjections fields
  | .setFields updates => b.droppedUpdates updates
  | .restrictJson _ document => (Filter.ofJson b.policy document).events
  | _ => []

/-- What a chain of calls reports. -/
def eventsOfRun (b : Builder) : List Call → List Event
  | [] => []
  | call :: rest => b.events call ++ (b.apply call).eventsOfRun rest

end Builder

end CriteriaSql
