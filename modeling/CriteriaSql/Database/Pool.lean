import CriteriaSql.Config
import CriteriaSql.Database.ConnectionString

/-!
# Connection pools

A pool opens its connections only when they are asked for, so making one needs no more than a valid
connection string.

* `Pool.make`: a pool without connections.
-/

namespace CriteriaSql

/-- The state of a pool: how many connections it may hold, holds, and has to spare. -/
structure Pool where
  maxSize : Nat
  size : Nat
  available : Nat
  closed : Bool
  deriving DecidableEq, Repr

namespace Pool

/-- What is reported of a text that is no connection string. -/
def invalidString : String := "invalid connection string"

/-- A pool for the database that the settings name. -/
def make (config : Config) : Except Error Pool :=
  if ConnectionString.isValid config.databaseUrl then .ok ⟨config.maxPoolSize, 0, 0, false⟩
  else .error (.connection invalidString)

end Pool

end CriteriaSql
