import CriteriaSql.Event
import CriteriaSql.Record

/-!
# Executors

The boundary to a database: SQL with values goes in, rows or a count come back. What an executor
answers may depend on all that it was asked before, which it keeps in a state.

* `Executor`: anything that can run a statement.
* `Plan`: an operation as a tree of requests, each with what follows its answer.
* `Plan.run`: carries out a plan, with everything it asked and reported.
-/

namespace CriteriaSql

/-- An executor's answer, what it reported, and its next state. -/
structure Reply (σ α : Type) where
  result : Except Error α
  events : List Event
  next : σ

/-- Runs statements: a query gives rows, an execution the count of rows it changed. -/
structure Executor (σ : Type) where
  query : String → List Value → σ → Reply σ (List Record)
  execute : String → List Value → σ → Reply σ Nat

/-- What an executor is asked. -/
inductive Request where
  | query (sql : String) (params : List Value)
  | execute (sql : String) (params : List Value)
  deriving DecidableEq

/-- An operation that may ask an executor and emit events on its way to a result. -/
inductive Plan (α : Type) where
  | done (a : α)
  | emit (event : Event) (next : Plan α)
  | query (sql : String) (params : List Value) (next : Except Error (List Record) → Plan α)
  | execute (sql : String) (params : List Value) (next : Except Error Nat → Plan α)

/-- A plan carried out: its result, its requests, all events in order, and the executor's state. -/
structure Run (σ α : Type) where
  result : α
  requests : List Request
  events : List Event
  next : σ

namespace Plan

/-- A plan that goes on with the result of another. -/
def andThen : Plan α → (α → Plan β) → Plan β
  | .done a, f => f a
  | .emit event next, f => .emit event (next.andThen f)
  | .query sql params next, f => .query sql params fun r => (next r).andThen f
  | .execute sql params next, f => .execute sql params fun r => (next r).andThen f

instance : Monad Plan where
  pure := .done
  bind := andThen

/-- Emits events one after another. -/
def emitAll : List Event → Plan Unit
  | [] => .done ()
  | event :: rest => .emit event (emitAll rest)

/-- Carries out a plan. -/
def run (ex : Executor σ) : Plan α → σ → Run σ α
  | .done a, s => ⟨a, [], [], s⟩
  | .emit event next, s =>
    let r := next.run ex s
    ⟨r.result, r.requests, event :: r.events, r.next⟩
  | .query sql params next, s =>
    let reply := ex.query sql params s
    let r := (next reply.result).run ex reply.next
    ⟨r.result, .query sql params :: r.requests, reply.events ++ r.events, r.next⟩
  | .execute sql params next, s =>
    let reply := ex.execute sql params s
    let r := (next reply.result).run ex reply.next
    ⟨r.result, .execute sql params :: r.requests, reply.events ++ r.events, r.next⟩

end Plan

/-- A plan that can fail. -/
abbrev Action (α : Type) : Type := ExceptT Error Plan α

namespace Action

/-- An action without requests. -/
def ofExcept (r : Except Error α) : Action α := ExceptT.mk (.done r)

/-- Emits events. -/
def emitAll (events : List Event) : Action Unit := ExceptT.lift (Plan.emitAll events)

/-- An action whose error is changed. -/
def mapError (f : Error → Error) (action : Action α) : Action α :=
  ExceptT.mk (action.run.andThen fun r => .done (r.mapError f))

/-- Asks for rows. -/
def query (sql : String) (params : List Value) : Action (List Record) :=
  ExceptT.mk (.query sql params .done)

/-- Asks for an execution. -/
def execute (sql : String) (params : List Value) : Action Nat :=
  ExceptT.mk (.execute sql params .done)

end Action

end CriteriaSql
