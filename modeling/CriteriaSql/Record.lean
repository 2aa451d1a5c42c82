import CriteriaSql.Error
import CriteriaSql.Value

/-!
# Records

Columns with their values, in order: the fields of an insert or update, and the rows of a result.
Inserting keeps columns distinct and replaces a value where it stands; only the rows of a result can
repeat a column.

* `Record.insert`, `Record.merge`, `Record.ofList`: building by insertion.
* `Record.get?`: the first value of a column.
* `Record.ofJson`, `Record.toJson`, `Record.serialize`: JSON objects and their text.
-/

namespace CriteriaSql

/-- Columns and values in order. -/
structure Record where
  entries : List (String × Value)
  deriving DecidableEq

namespace Record

def empty : Record := ⟨[]⟩

instance : Inhabited Record := ⟨empty⟩

/-- Entries with one more at the end, or with a column's value replaced where it stands. -/
def insertEntry (column : String) (value : Value) : List (String × Value) → List (String × Value)
  | [] => [(column, value)]
  | e :: rest => if e.1 = column then (column, value) :: rest else e :: insertEntry column value rest

/-- Adds a column, or replaces its value. -/
def insert (column : String) (value : Value) (r : Record) : Record :=
  ⟨insertEntry column value r.entries⟩

/-- The value of a column, the first one if it is repeated. -/
def get? (column : String) (r : Record) : Option Value :=
  (r.entries.find? fun e => e.1 = column).map (·.2)

def contains (column : String) (r : Record) : Bool :=
  (r.get? column).isSome

def size (r : Record) : Nat := r.entries.length

def isEmpty (r : Record) : Bool := r.entries.isEmpty

/-- The columns in order. -/
def columns (r : Record) : List String := r.entries.map (·.1)

/-- The values in order. -/
def values (r : Record) : List Value := r.entries.map (·.2)

/-- Inserts entries one after another. -/
def insertAll (r : Record) (entries : List (String × Value)) : Record :=
  entries.foldl (fun r e => r.insert e.1 e.2) r

/-- The record of entries inserted one after another. -/
def ofList (entries : List (String × Value)) : Record :=
  empty.insertAll entries

/-- Inserts every entry of another record, whose values win. -/
def merge (r other : Record) : Record :=
  r.insertAll other.entries

/-- Whether two records have the same columns in the same order with equal values. -/
def equal (r s : Record) : Bool :=
  r.columns == s.columns && (r.values.zip s.values).all fun (v, w) => v.equal w

/-- Inserts the members of a JSON object, all of which must be scalars. -/
def insertMembers (r : Record) : List (String × Json) → Except Invalid Record
  | [] => .ok r
  | (column, raw) :: rest =>
    match Value.ofJson? raw with
    | some value => (r.insert column value).insertMembers rest
    | none => .error (.fieldNotScalar column)

/-- The record of a JSON object of scalars. -/
def ofJson : Json → Except Invalid Record
  | .object members => empty.insertMembers members
  | _ => .error .recordNotObject

/-- The record as a JSON object; a repeated column keeps its place and its last value. -/
def toJson (r : Record) : Json :=
  .object (r.entries.foldl (fun ms e => Json.put e.1 e.2.toJson ms) [])

/-- The JSON text of the entries as they are, written without a JSON value in between. -/
def serialize (r : Record) : String :=
  Json.bracketed "\x7b" "\x7d" (r.entries.map fun e => Json.quote e.1 ++ ":" ++ e.2.serialize)

end Record

end CriteriaSql
