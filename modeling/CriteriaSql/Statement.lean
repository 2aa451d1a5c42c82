import CriteriaSql.Criteria
import CriteriaSql.Record

/-!
# Statements

SQL fragments with the values they bind and the numbers of their placeholders. The compiler records
the numbers as it binds values; for hand-written fragments they are found by scanning.

* `Statement.markers`: the numbers found in a text.
* `Statement.bound`, `Statement.append`, `Statement.insert`: compiled statements.
* `Statement.validate`: placeholders must be the numbers from one on, one for each value.
-/

namespace CriteriaSql

/-- A statement: its fragments in order, its values, and the placeholders in reading order. -/
structure Statement where
  fragments : List String
  values : List Value
  placeholders : List Nat
  deriving DecidableEq

namespace Statement

def empty : Statement := ⟨[], [], []⟩

/-! ## Scanning -/

/-- The runs of digits after each dollar sign. `pending` holds the digits read since the last sign,
the latest first; `none` says that no marker is open. -/
def digitRuns : Option (List Char) → List Char → List (List Char)
  | none, [] => []
  | some ds, [] => [ds.reverse]
  | none, c :: rest => if c = '$' then digitRuns (some []) rest else digitRuns none rest
  | some ds, c :: rest =>
    if c.isDigit then digitRuns (some (c :: ds)) rest
    else ds.reverse :: if c = '$' then digitRuns (some []) rest else digitRuns none rest

/-- Placeholder numbers lie below this bound. -/
def numberLimit : Nat := UInt64.size

/-- The numbers of the markers in a text; a sign without digits is none, nor is a number beyond the
bound. -/
def markers (text : String) : List Nat :=
  (digitRuns none text.toList).filterMap (Text.below? numberLimit)

/-! ## Building -/

/-- A hand-written statement, whose placeholders are found by scanning. -/
def ofParts (fragments : List String) (values : List Value) : Statement :=
  ⟨fragments, values, fragments.flatMap markers⟩

/-- A compiled statement that binds its values to the placeholders from `first` on. -/
def bound (fragments : List String) (values : List Value) (first : Nat) : Statement :=
  ⟨fragments, values, List.range' first values.length⟩

/-- Fragments without values. -/
def ofFragments (fragments : List String) : Statement := ⟨fragments, [], []⟩

/-- A statement followed by one that was numbered after it. -/
def append (s t : Statement) : Statement :=
  ⟨s.fragments ++ t.fragments, s.values ++ t.values, s.placeholders ++ t.placeholders⟩

instance : Append Statement := ⟨append⟩

/-- A statement between two fragments. -/
def wrapped (first last : String) (s : Statement) : Statement :=
  { s with fragments := first :: s.fragments ++ [last] }

/-- What an insertion gives back. -/
def returningText : Option String → String
  | some columns => " RETURNING " ++ columns
  | none => ""

/-- The text of an insertion, with a placeholder for each column. -/
def insertText (table : String) (data : Record) (returning : Option String) : String :=
  "INSERT INTO " ++ table ++ " (" ++ ",".intercalate data.columns ++ ") values (" ++
    ",".intercalate ((List.range' 1 data.size).map placeholder) ++ ")" ++ returningText returning

/-- The insertion of a record, which must have columns; `returning` names what comes back. -/
def insert (table : String) (data : Record) (returning : Option String) :
    Except Invalid Statement :=
  if data.isEmpty then .error (.insertWithoutFields table)
  else .ok (bound [insertText table data returning] data.values 1)

/-! ## Reading -/

/-- The SQL text: the fragments with a space between them. -/
def sql (s : Statement) : String :=
  " ".intercalate s.fragments

/-- Checks that numbers count on from a position. -/
def checkFrom (position : Nat) : List Nat → Except Misnumbered Unit
  | [] => .ok ()
  | n :: rest => if n = position then checkFrom (position + 1) rest else .error (.number position n)

/-- Checks that there is one placeholder for each value, numbered from one in order. -/
def validate (s : Statement) : Except Misnumbered Unit :=
  if s.placeholders.length = s.values.length then checkFrom 1 s.placeholders
  else .error (.count s.placeholders.length s.values.length)

end Statement

end CriteriaSql
