import CriteriaSql.Error
import CriteriaSql.Text.Blank

/-!
# Joins, sorts and pages

The parts of a SELECT that bind no values.

* `Join`, `SortKey`: made only from texts that are not blank.
* `Page`: limit and offset, zero for none.
-/

namespace CriteriaSql

/-- A text without blanks around it, in lower-case ASCII letters. -/
def keyword (text : String) : String :=
  String.ofList ((Text.trim text.toList).map Char.toLower)

/-- The flavours of a join. -/
inductive JoinKind where
  | inner
  | left
  | right
  | full
  deriving DecidableEq, Repr

namespace JoinKind

def sql : JoinKind → String
  | .inner => "INNER"
  | .left => "LEFT"
  | .right => "RIGHT"
  | .full => "FULL OUTER"

/-- The flavour that a text names. -/
def ofText (text : String) : Except Invalid JoinKind :=
  let word := keyword text
  if word = "inner" then .ok .inner
  else if word = "left" then .ok .left
  else if word = "right" then .ok .right
  else if word = "full" ∨ word = "full outer" then .ok .full
  else if word = "" then .error .joinKindMissing
  else .error (.joinKindUnknown word)

end JoinKind

/-- A join with a table on a condition, both trusted SQL. -/
structure Join where
  kind : JoinKind
  table : String
  condition : String
  deriving DecidableEq, Repr

namespace Join

/-- A join whose table and condition are not blank. -/
def make (kind : JoinKind) (table condition : String) : Except Invalid Join :=
  if Text.isBlankText table then .error .joinWithoutTable
  else if Text.isBlankText condition then .error (.joinWithoutCondition table)
  else .ok ⟨kind, table, condition⟩

def fragments (j : Join) : List String :=
  [j.kind.sql ++ " JOIN " ++ j.table, "ON " ++ j.condition]

end Join

/-- The direction of a sort. -/
inductive Direction where
  | asc
  | desc
  deriving DecidableEq, Repr

namespace Direction

def sql : Direction → String
  | .asc => "ASC"
  | .desc => "DESC"

/-- The direction that a text names; a blank text means descending. -/
def ofText (text : String) : Except Invalid Direction :=
  let word := keyword text
  if word = "asc" then .ok .asc
  else if word = "desc" ∨ word = "" then .ok .desc
  else .error (.sortDirectionUnknown word)

end Direction

/-- A field to sort by. -/
structure SortKey where
  field : String
  direction : Direction
  deriving DecidableEq, Repr

namespace SortKey

/-- A sort whose field is not blank. -/
def make (field : String) (direction : Direction) : Except Invalid SortKey :=
  if Text.isBlankText field then .error .sortWithoutField else .ok ⟨field, direction⟩

/-- The ORDER BY clause of all sorts, none without sorts. -/
def fragments : List SortKey → List String
  | [] => []
  | sorts => ["ORDER BY " ++ ", ".intercalate (sorts.map fun s => s.field ++ " " ++ s.direction.sql)]

end SortKey

/-- How many rows to return and how many to skip before; zero for neither. -/
structure Page where
  limit : Nat
  offset : Nat
  deriving DecidableEq, Repr

namespace Page

/-- All rows. -/
def all : Page := ⟨0, 0⟩

def fragments (p : Page) : List String :=
  (if 0 < p.limit then ["LIMIT " ++ toString p.limit] else []) ++
    if 0 < p.offset then ["OFFSET " ++ toString p.offset] else []

end Page

end CriteriaSql
