import CriteriaSql.Error
import CriteriaSql.Filter.Document
import CriteriaSql.Text.Blank
import CriteriaSql.Text.Digits

/-!
# Configuration

Settings of the connection pool and of the model facade.

* `Config.ofEnvironment`: settings from named variables.
-/

namespace CriteriaSql

/-- The settings. Logged SQL is cut to a length in bytes, if one is set. -/
structure Config where
  databaseUrl : String
  maxPoolSize : Nat
  policy : Policy
  maxSqlLogLength : Option Nat
  deriving DecidableEq, Repr

namespace Config

/-- The settings for a connection string, all others at their usual values. -/
def ofUrl (databaseUrl : String) : Config := ⟨databaseUrl, 16, .ignore, some 200⟩

/-- The settings without a connection string. -/
def usual : Config := ofUrl ""

/-- The variable that holds the connection string, and the one that may hold the pool size. -/
def urlVariable : String := "POSTGRESQL_DSN"

@[inherit_doc urlVariable]
def sizeVariable : String := "PGMODEL_POOL_SIZE"

/-- Pool sizes lie below this bound. -/
def sizeBound : Nat := UInt64.size

/-- The pool size that a variable's text names. -/
def poolSize (raw : String) : Except Misconfigured Nat :=
  match Text.below? sizeBound (Text.trim raw.toList) with
  | none => .error (.notWholeNumber sizeVariable raw)
  | some 0 => .error (.zero sizeVariable)
  | some n => .ok n

/-- The settings that variables name: the connection string must not be blank. -/
def ofEnvironment (lookup : String → Option String) : Except Misconfigured Config :=
  match lookup urlVariable with
  | none => .error (.missing urlVariable)
  | some url =>
    if Text.isBlankText url then .error (.missing urlVariable)
    else
      match lookup sizeVariable with
      | none => .ok (ofUrl url)
      | some raw => (poolSize raw).map fun n => { ofUrl url with maxPoolSize := n }

end Config

end CriteriaSql
