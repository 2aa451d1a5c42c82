import CriteriaSql.Model.Basic

/-!
# The operations of a model

Creating, reading, updating and deleting rows of one table. Each operation starts from an empty
builder, so nothing passes from one to the next.

* `Model.insertOne`, `Model.findOne`, `Model.findAll`, `Model.count`: one query each.
* `Model.updateOne`, `Model.updateMany`, `Model.deleteOne`, `Model.remove`: one execution each.
* `Model.findOneAndUpdate`: a query, then an insertion, a staged update, or nothing.
-/

namespace CriteriaSql.Model

/-- The column that an insertion returns. -/
def returnedId : String := "id"

/-- The record to insert, with the identifier that was generated for it: one is, when the table has
such a column and the record does not. -/
def withIdentifier (m : Model) (data : Record) : Record × Option String :=
  if m.schema.hasField Staged.rowId && !data.contains Staged.rowId then
    let id := m.ids.generate m.schema.name
    (data.insert Staged.rowId (.text id), some id)
  else (data, none)

/-- The insertion of a record into the table. -/
def insertStatement (m : Model) (data : Record) : Except Error Statement :=
  (Statement.insert m.schema.name data
    (if m.schema.hasField returnedId then some returnedId else none)).mapError .validation

/-- Inserts a row. -/
def insertOne (m : Model) (data : Record) : Action InsertResult := do
  let (data, synthetic) := m.withIdentifier data
  let s ← m.compiled "insert_one" (m.insertStatement data)
  let rows ← m.fetch "insert_one" s
  return ⟨(rows.head?.bind (·.get? returnedId)).bind Value.int?, synthetic⟩

/-- The builder of a find operation, still without its limit. -/
def selection (m : Model) (criteria : Filter) (options : FindOptions) : Builder :=
  let b := m.builder
  let b := if options.skipValidation then b.selectUnchecked options.select
    else b.select options.select
  let b := options.joins.foldl (fun b j => b.join j.kind j.table j.condition) b
  let b := options.sorts.foldl (fun b s => b.sortBy s.field s.direction) b
  (b.restrict .and criteria).offset options.offset

/-- What the builder of a find operation reports. -/
def selectionEvents (m : Model) (options : FindOptions) : List Event :=
  if options.skipValidation then [] else m.builder.droppedProjections options.select

/-- The first matching row, or an empty record. At least one row is asked for. -/
def findOne (m : Model) (criteria : Filter) (options : FindOptions) : Action Record := do
  Action.emitAll (m.selectionEvents options)
  let b := (m.selection criteria options).limit (max (options.limit.getD 1) 1)
  let s ← m.compiled "find_one" b.build
  let rows ← m.fetch "find_one" s
  return rows.headD .empty

/-- Every matching row. -/
def findAll (m : Model) (criteria : Filter) (options : FindOptions) : Action (List Record) := do
  Action.emitAll (m.selectionEvents options)
  let b := (m.selection criteria options).limit (options.limit.getD 0)
  let s ← m.compiled "find_all" b.build
  m.fetch "find_all" s

/-- Every matching row, with all columns. -/
def findBy (m : Model) (criteria : Filter) : Action (List Record) :=
  m.findAll criteria .usual

/-- The row that a found row's identifier names, or the criteria if it has none. -/
def pinned (criteria : Filter) (found : Record) : Filter :=
  match found.get? Staged.rowId with
  | some id => if id.isFalsy then criteria else Filter.empty.literal Staged.rowId id
  | none => criteria

/-- Finds a row, then updates it or, if there is none, inserts one when asked to. -/
def findOneAndUpdate (m : Model) (criteria : Filter) (doc : UpdateDoc) (upsert : Bool) :
    Action UpsertOutcome := do
  let op := "find_one_and_update"
  let found ← (m.findOne criteria .usual).mapError (m.around op)
  if found.isEmpty then
    if upsert then
      return .inserted (← (m.insertOne doc.insertFields).mapError (m.around op))
    else return .notFound
  else
    match doc.set with
    | none => .ofExcept (.error (m.around op (.validation .updateWithoutSet)))
    | some set =>
      let target := pinned criteria found
      Action.emitAll (Staged.updateEvents m.schema target set)
      let s ← m.compiled op (Staged.update m.schema target set)
      return .updated (← m.exec op s)

/-- Updates the row that the criteria pick; with `upsert`, inserts it if there is none. -/
def updateOne (m : Model) (criteria : Filter) (updates : Record) (upsert : Bool) :
    Action UpsertOutcome :=
  if upsert then m.findOneAndUpdate criteria (.ofSet updates) upsert
  else do
    Action.emitAll (Staged.updateEvents m.schema criteria updates)
    let s ← m.compiled "update_one" (Staged.update m.schema criteria updates)
    let n ← m.exec "update_one" s
    return if n = 0 then .notFound else .updated n

/-- Updates every matching row. -/
def updateMany (m : Model) (criteria : Filter) (updates : Record) : Action Nat := do
  let b := m.builder.prepare .update
  Action.emitAll (b.droppedUpdates updates)
  let s ← m.compiled "update_many" ((b.setFields updates).restrict .and criteria).build
  m.exec "update_many" s

/-- Deletes the row that the criteria pick; they must bind something. -/
def deleteOne (m : Model) (criteria : Filter) : Action Nat := do
  let s ← m.compiled "delete_one" (Staged.delete m.schema criteria)
  m.exec "delete_one" s

/-- Deletes every matching row; there must be criteria. -/
def remove (m : Model) (criteria : Filter) : Action Nat := do
  let s ← m.compiled "remove" ((m.builder.prepare .delete).restrict .and criteria).build
  m.exec "remove" s

/-- The projection that counts rows. -/
def countProjection : String := "COUNT(" ++ Staged.rowId ++ ")"

/-- The number of matching rows: the first value of the first row as an integer, else zero. -/
def count (m : Model) (criteria : Filter) : Action Int64 := do
  let b := (m.builder.selectUnchecked [countProjection]).restrict .and criteria
  let s ← m.compiled "count" b.build
  let rows ← m.fetch "count" s
  return ((rows.head?.bind (·.values.head?)).bind Value.int?).getD 0

/-- Queries with trusted SQL as it is. -/
def rawQuery (m : Model) (sql : String) (params : List Value) : Action (List Record) :=
  m.fetch "raw_query" (.ofParts [sql] params)

end CriteriaSql.Model
