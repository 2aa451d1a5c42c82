/-!
# Errors

Why an operation failed. Each kind of failure that this library finds itself has its cause as data,
and its wording in one place; failures reported by a database carry the reported text.

* `Invalid`, `Misnumbered`, `Misconfigured`: the causes.
* `Error`: a cause or a report, possibly with the operations around it.
* `Error.message`, `Error.root`, `Error.sources`: the text, the innermost error, the chain below it.
-/

namespace CriteriaSql

/-- What a caller asked for that cannot be done. -/
inductive Invalid where
  | filterNotObject (got : String)
  | unknownOperator (key field : String)
  | operandNotScalar (key field : String)
  | operandNotArray (field : String)
  | elementNotScalar (field : String)
  | patternNotString (field : String)
  | emptyList (field : String)
  | joinKindMissing
  | joinKindUnknown (text : String)
  | joinWithoutTable
  | joinWithoutCondition (table : String)
  | sortWithoutField
  | sortDirectionUnknown (text : String)
  | noSelectableField (table : String)
  | noUpdatableField (table : String)
  | unguardedDelete (table : String)
  | insertWithoutFields (table : String)
  | tableNotRegistered (table : String)
  | recordNotObject
  | fieldNotScalar (column : String)
  | updateNotObject
  | updateOperatorUnknown (key : String)
  | updateWithoutSet
  | stated (message : String)
  deriving DecidableEq, Repr

/-- The wording of a cause. -/
def Invalid.message : Invalid → String
  | .filterNotObject got => "where() expects an object, got " ++ got
  | .unknownOperator key field => "unsupported filter operator '" ++ key ++ "' on '" ++ field ++ "'"
  | .operandNotScalar key field => "operator '" ++ key ++ "' on '" ++ field ++ "' expects a scalar"
  | .operandNotArray field => "operator '$in' on '" ++ field ++ "' expects an array"
  | .elementNotScalar field => "operator '$in' on '" ++ field ++ "' expects scalar elements"
  | .patternNotString field => "operator '$like' on '" ++ field ++ "' expects a string"
  | .emptyList field => "IN filter on '" ++ field ++ "' requires a non-empty list"
  | .joinKindMissing => "join kind is required"
  | .joinKindUnknown text => "unknown join kind '" ++ text ++ "'"
  | .joinWithoutTable => "join requires a target table"
  | .joinWithoutCondition table => "join on '" ++ table ++ "' requires an ON condition"
  | .sortWithoutField => "sort requires a field"
  | .sortDirectionUnknown text => "unknown sort direction '" ++ text ++ "'"
  | .noSelectableField table => "no selectable fields left for '" ++ table ++ "'"
  | .noUpdatableField table => "update of '" ++ table ++ "' has no fields known to the schema"
  | .unguardedDelete table => "delete from '" ++ table ++ "' requires criteria"
  | .insertWithoutFields table => "insert into '" ++ table ++ "' requires at least one field"
  | .tableNotRegistered table => "table '" ++ table ++ "' is not registered"
  | .recordNotObject => "expected a JSON object of field values"
  | .fieldNotScalar column => "field '" ++ column ++ "' is not a scalar value"
  | .updateNotObject => "update document must be an object"
  | .updateOperatorUnknown key => "unsupported update operator '" ++ key ++ "'"
  | .updateWithoutSet => "$set is required to update an existing row"
  | .stated message => message

/-- How the placeholders of a statement fail to match its values. Positions count from 1. -/
inductive Misnumbered where
  | count (placeholders values : Nat)
  | number (position found : Nat)
  | stated (message : String)
  deriving DecidableEq, Repr

/-- The wording of a mismatch. -/
def Misnumbered.message : Misnumbered → String
  | .count placeholders values =>
    "placeholders(" ++ toString placeholders ++ ") != params(" ++ toString values ++ ")"
  | .number position found =>
    "placeholder #" ++ toString position ++ " is $" ++ toString found ++ ", expected $" ++
      toString position
  | .stated message => message

/-- What is wrong with the environment's settings. -/
inductive Misconfigured where
  | missing (name : String)
  | notWholeNumber (name raw : String)
  | zero (name : String)
  | stated (message : String)
  deriving DecidableEq, Repr

/-- The wording of a wrong setting. -/
def Misconfigured.message : Misconfigured → String
  | .missing name => name ++ " is not set"
  | .notWholeNumber name raw => name ++ " must be a positive integer, got '" ++ raw ++ "'"
  | .zero name => name ++ " must be at least 1"
  | .stated message => message

/-- A failure reported by a database driver: its text and the texts of what lies behind it. -/
structure DriverError where
  text : String
  behind : List String
  deriving DecidableEq, Repr

/-- Why an operation failed. -/
inductive Error where
  | validation (cause : Invalid)
  | queryBuild (cause : Misnumbered)
  | execution (operation : String) (source : DriverError)
  | connection (message : String)
  | pool (message : String)
  | decode (column message : String)
  | config (cause : Misconfigured)
  | context (around : String) (source : Error)
  deriving DecidableEq, Repr

namespace Error

/-- The text of an error. -/
def message : Error → String
  | .validation cause => "Validation error: " ++ cause.message
  | .queryBuild cause => "Query build error: " ++ cause.message
  | .execution operation source => "Execution error (" ++ operation ++ "): " ++ source.text
  | .connection message => "Connection error: " ++ message
  | .pool message => "Pool error: " ++ message
  | .decode column message => "Decode error on column '" ++ column ++ "': " ++ message
  | .config cause => "Config error: " ++ cause.message
  | .context around source => around ++ ": " ++ source.message

/-- The innermost error, without the operations around it. -/
def root : Error → Error
  | .context _ source => source.root
  | e => e

/-- The texts of the errors that an error was caused by, outermost first. -/
def sources : Error → List String
  | .execution _ source => source.text :: source.behind
  | .context _ source => source.message :: source.sources
  | _ => []

/-- Whether the caller's arguments were at fault. -/
def isValidation (e : Error) : Bool :=
  match e.root with
  | .validation _ => true
  | _ => false

/-- Whether placeholders and values did not match. -/
def isQueryBuild (e : Error) : Bool :=
  match e.root with
  | .queryBuild _ => true
  | _ => false

/-- Whether the database or its pool failed. -/
def isExecution (e : Error) : Bool :=
  match e.root with
  | .execution _ _ | .pool _ => true
  | _ => false

end Error

end CriteriaSql
