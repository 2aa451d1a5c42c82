import CriteriaSql.Error

/-!
# Table schemas

The fields that a table is known to have. They decide which projections and updates are let through.

* `Schema.allowsProjection`: the projections that a table admits.
* `Registry`: schemas by table name.
-/

namespace CriteriaSql

/-- A table and its fields, each once, in the order in which updates assign them. -/
structure Schema where
  name : String
  fields : List String
  distinct : fields.Nodup
  deriving DecidableEq

namespace Schema

/-- A table without fields. -/
def ofName (name : String) : Schema := ⟨name, [], .nil⟩

def hasField (field : String) (s : Schema) : Bool :=
  s.fields.contains field

theorem nodup_append_singleton {fields : List String} {field : String} (h : fields.Nodup)
    (hf : field ∉ fields) : (fields ++ [field]).Nodup := by
  simp only [List.nodup_append, h, List.nodup_cons, List.not_mem_nil, not_false_eq_true,
    List.nodup_nil, and_self, List.mem_singleton, forall_eq, true_and]
  exact fun f hm he => hf (he ▸ hm)

/-- Adds a field, unless it is there. -/
def addField (s : Schema) (field : String) : Schema :=
  if h : field ∈ s.fields then s
  else ⟨s.name, s.fields ++ [field], nodup_append_singleton s.distinct h⟩

/-- Adds fields one after another. -/
def withFields (s : Schema) (fields : List String) : Schema :=
  fields.foldl addField s

/-- What follows the last point of a name, or the whole name. -/
def unqualified (field : String) : String :=
  String.ofList (field.toList.reverse.takeWhile (· ≠ '.')).reverse

/-- A projection is a star, or a field with or without a table before it. -/
def allowsProjection (field : String) (s : Schema) : Bool :=
  field = "*" || s.hasField (unqualified field)

end Schema

/-- Schemas, looked up by table name. -/
structure Registry where
  schemas : List Schema
  deriving DecidableEq

namespace Registry

def empty : Registry := ⟨[]⟩

def get? (table : String) (r : Registry) : Option Schema :=
  r.schemas.find? fun s => s.name = table

/-- Adds a schema, or replaces the one of the same name. -/
def register (s : Schema) (r : Registry) : Registry :=
  ⟨s :: r.schemas.filter fun t => t.name ≠ s.name⟩

/-- The schema of a table that must be registered. -/
def require (table : String) (r : Registry) : Except Invalid Schema :=
  match r.get? table with
  | some s => .ok s
  | none => .error (.tableNotRegistered table)

def size (r : Registry) : Nat := r.schemas.length

end Registry

end CriteriaSql
