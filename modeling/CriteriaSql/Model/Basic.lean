import CriteriaSql.Config
import CriteriaSql.Database.Executor
import CriteriaSql.Identifier.Source
import CriteriaSql.Staged
import CriteriaSql.UpdateDoc

/-!
# Models

The facade of one table: its schema, settings and source of row identifiers, with what its operations
have in common.

* `Model.fetch`, `Model.exec`: hand a statement to the executor, with its event before and the
  operation's name around an error.
* `placeWithin`, `truncateSql`: SQL text cut for an event.
-/

namespace CriteriaSql

/-- The facade of one table. -/
structure Model where
  schema : Schema
  config : Config
  ids : Identifier.Source

/-- The last place between two characters of a text that is at most `bytes` bytes from its start, searched for
backwards. -/
def placeWithin (s : String) : Nat → s.Pos
  | 0 => s.startPos
  | bytes + 1 =>
    if h : String.Pos.Raw.IsValid s ⟨bytes + 1⟩ then ⟨⟨bytes + 1⟩, h⟩ else placeWithin s bytes

/-- SQL text cut to a length in bytes between two characters, with a mark where it was cut. -/
def truncateSql (limit : Option Nat) (sql : String) : String :=
  match limit with
  | none => sql
  | some bytes =>
    if bytes < sql.utf8ByteSize then (sql.sliceTo (placeWithin sql bytes)).copy ++ "..." else sql

/-- Options of the find operations. Without a limit, the operation's own holds. -/
structure FindOptions where
  select : List String
  skipValidation : Bool
  joins : List Join
  sorts : List SortKey
  limit : Option Nat
  offset : Nat
  deriving DecidableEq, Repr

/-- All columns of all rows. -/
def FindOptions.usual : FindOptions := ⟨[], false, [], [], none, 0⟩

/-- The keys of an inserted row: the database's, and the generated one. -/
structure InsertResult where
  id : Option Int64
  syntheticId : Option String
  deriving DecidableEq

/-- What an update or upsert did. -/
inductive UpsertOutcome where
  | inserted (result : InsertResult)
  | updated (count : Nat)
  | notFound
  deriving DecidableEq

namespace Model

/-- An empty builder for the table. -/
def builder (m : Model) : Builder := .ofSchema m.schema m.config.policy

/-- The filter of a document under the model's policy. -/
def filter (m : Model) (document : Json) : Noted Filter := Filter.ofJson m.config.policy document

/-- Puts the operation and its table around an error. -/
def around (m : Model) (operation : String) (e : Error) : Error :=
  .context (operation ++ "(" ++ m.schema.name ++ ")") e

/-- The event of a statement that is about to be sent. -/
def executing (m : Model) (operation : String) (s : Statement) : Event :=
  .executing operation m.schema.name s.values.length
    (truncateSql m.config.maxSqlLogLength s.sql)

/-- A statement that can be refused, with the operation around the error. -/
def compiled (m : Model) (operation : String) (s : Except Error Statement) : Action Statement :=
  .ofExcept (s.mapError (m.around operation))

/-- Queries with a statement. -/
def fetch (m : Model) (operation : String) (s : Statement) : Action (List Record) := do
  Action.emitAll [m.executing operation s]
  (Action.query s.sql s.values).mapError (m.around operation)

/-- Executes a statement. -/
def exec (m : Model) (operation : String) (s : Statement) : Action Nat := do
  Action.emitAll [m.executing operation s]
  (Action.execute s.sql s.values).mapError (m.around operation)

end Model

end CriteriaSql
