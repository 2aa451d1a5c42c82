import CriteriaSql.Clause
import CriteriaSql.Filter.Document
import CriteriaSql.Record
import CriteriaSql.Schema

/-!
# Builders

Everything that belongs to one statement, gathered call by call. A call that cannot be carried out
leaves its fault behind; the first fault is kept until the builder is emptied.

* `Builder.ofSchema`, `Builder.reset`, `Builder.prepare`: empty builders.
* `Builder.select`, `Builder.restrict`, `Builder.join`, `Builder.setFields` and others: the calls.
-/

namespace CriteriaSql

/-- The statements that a builder makes. -/
inductive StatementKind where
  | select
  | update
  | delete
  deriving DecidableEq, Repr

/-- What has been gathered for one statement. Without a projection, all columns are selected. -/
structure Builder where
  schema : Schema
  table : String
  kind : StatementKind
  projection : Option (List String)
  criteria : Criteria
  joins : List Join
  sorts : List SortKey
  page : Page
  assignments : Record
  staging : Option String
  policy : Policy
  failure : Option Invalid
  deriving DecidableEq

namespace Builder

/-- An empty SELECT over a table. -/
def ofSchema (schema : Schema) (policy : Policy) : Builder where
  schema := schema
  table := schema.name
  kind := .select
  projection := none
  criteria := .empty
  joins := []
  sorts := []
  page := .all
  assignments := .empty
  staging := none
  policy := policy
  failure := none

/-- Empties a builder; schema and policy stay. -/
def reset (b : Builder) : Builder := ofSchema b.schema b.policy

/-- Empties a builder and fixes the kind of its statement. -/
def prepare (kind : StatementKind) (b : Builder) : Builder := { b.reset with kind := kind }

/-- Sets what happens to unknown operators of filter documents. -/
def unknownOperators (policy : Policy) (b : Builder) : Builder := { b with policy := policy }

/-- Remembers a fault, unless there is an earlier one. -/
def fail (cause : Invalid) (b : Builder) : Builder :=
  { b with failure := b.failure.or (some cause) }

/-- Goes on with a result, or remembers its fault. -/
def attempt (r : Except Invalid α) (f : α → Builder → Builder) (b : Builder) : Builder :=
  match r with
  | .ok a => f a b
  | .error cause => b.fail cause

/-! ## Projection -/

/-- Fields to project: all columns when none is named. -/
def starred (fields : List String) : List String :=
  if fields.isEmpty then ["*"] else fields

/-- Adds projected fields as they are. -/
def project (fields : List String) (b : Builder) : Builder :=
  { b with projection := some (b.projection.getD [] ++ fields) }

/-- Adds the projected fields that the schema admits. -/
def select (fields : List String) (b : Builder) : Builder :=
  b.project ((starred fields).filter (b.schema.allowsProjection ·))

/-- Adds projected fields that the schema need not know. -/
def selectUnchecked (fields : List String) (b : Builder) : Builder :=
  b.project (starred fields)

/-- Sets the table. -/
def fromTable (table : String) (b : Builder) : Builder := { b with table := table }

/-! ## Criteria -/

/-- Adds the conditions of a filter. -/
def restrict (connective : Connective) (filter : Filter) (b : Builder) : Builder :=
  b.attempt (b.criteria.addFilter connective filter) fun c b => { b with criteria := c }

/-- Adds the conditions of a filter document. -/
def restrictJson (connective : Connective) (document : Json) (b : Builder) : Builder :=
  b.attempt (Filter.ofJson b.policy document).result (restrict connective)

/-- Adds one condition. -/
def predicate (connective : Connective) (p : Predicate) (b : Builder) : Builder :=
  { b with criteria := b.criteria.push connective p }

/-! ## Joins, sorts and pages -/

/-- Adds a join. -/
def join (kind : JoinKind) (table condition : String) (b : Builder) : Builder :=
  b.attempt (Join.make kind table condition) fun j b => { b with joins := b.joins ++ [j] }

/-- Adds a sort after those before it. -/
def sortBy (field : String) (direction : Direction) (b : Builder) : Builder :=
  b.attempt (SortKey.make field direction) fun s b => { b with sorts := b.sorts ++ [s] }

/-- Sets how many rows to return; zero for all. -/
def limit (n : Nat) (b : Builder) : Builder := { b with page := { b.page with limit := n } }

/-- Sets how many rows to skip. -/
def offset (n : Nat) (b : Builder) : Builder := { b with page := { b.page with offset := n } }

/-! ## Updated fields -/

/-- The entries of a record that a schema knows, in the schema's order. -/
def knownFields (schema : Schema) (updates : Record) : Record :=
  ⟨schema.fields.filterMap fun f => (updates.get? f).map (f, ·)⟩

/-- Sets the fields to update, as far as the schema knows them. -/
def setFields (updates : Record) (b : Builder) : Builder :=
  { b with assignments := knownFields b.schema updates }

/-- Sets the name under which another part of the statement selects the rows to write. -/
def staged (name : String) (b : Builder) : Builder := { b with staging := some name }

end Builder

end CriteriaSql
