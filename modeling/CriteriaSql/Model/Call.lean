import CriteriaSql.Model.Operations

/-!
# Operations as data

The operations of a model with their arguments, so that a statement can be made about all of them.

* `Operation`: an operation; `Model.perform` carries it out without its result.
-/

namespace CriteriaSql

/-- An operation of a model. -/
inductive Operation where
  | insertOne (data : Record)
  | findOne (criteria : Filter) (options : FindOptions)
  | findAll (criteria : Filter) (options : FindOptions)
  | findBy (criteria : Filter)
  | findOneAndUpdate (criteria : Filter) (doc : UpdateDoc) (upsert : Bool)
  | updateOne (criteria : Filter) (updates : Record) (upsert : Bool)
  | updateMany (criteria : Filter) (updates : Record)
  | deleteOne (criteria : Filter)
  | remove (criteria : Filter)
  | count (criteria : Filter)
  | rawQuery (sql : String) (params : List Value)

/-- An action whose result does not matter. -/
def Action.only (action : Action α) : Action Unit := do
  let _ ← action
  return ()

/-- Carries out an operation. -/
def Model.perform (m : Model) : Operation → Action Unit
  | .insertOne data => (m.insertOne data).only
  | .findOne criteria options => (m.findOne criteria options).only
  | .findAll criteria options => (m.findAll criteria options).only
  | .findBy criteria => (m.findBy criteria).only
  | .findOneAndUpdate criteria doc upsert => (m.findOneAndUpdate criteria doc upsert).only
  | .updateOne criteria updates upsert => (m.updateOne criteria updates upsert).only
  | .updateMany criteria updates => (m.updateMany criteria updates).only
  | .deleteOne criteria => (m.deleteOne criteria).only
  | .remove criteria => (m.remove criteria).only
  | .count criteria => (m.count criteria).only
  | .rawQuery sql params => (m.rawQuery sql params).only

end CriteriaSql
