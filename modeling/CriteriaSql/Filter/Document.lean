import CriteriaSql.Event
import CriteriaSql.Filter.Basic

/-!
# Filter documents

A JSON object as a filter: a scalar member is a bare value, an object member names an operator by its
first key. What is no operator is dropped with a report or refused, as the policy says.

* `Policy`: what happens to an unknown operator.
* `Filter.ofJson`: the filter of a document, with the events of what was dropped.
-/

namespace CriteriaSql

/-- What happens to an operator that is not known. -/
inductive Policy where
  | ignore
  | reject
  deriving DecidableEq, Repr

namespace Filter

/-- Meets an unknown operator: reports that it is dropped, or refuses it. -/
def unknown (policy : Policy) (field key : String) : Noted Unit :=
  match policy with
  | .ignore => .emit (.droppedOperator field key)
  | .reject => .fault (.unknownOperator key field)

/-- Meets unknown operators one after another. -/
def unknownAll (policy : Policy) (field : String) : List String → Noted Unit
  | [] => pure ()
  | key :: rest => do
    unknown policy field key
    unknownAll policy field rest

/-- The scalar operand of an operator. -/
def scalar (field key : String) (operand : Json) : Except Invalid Value :=
  match Value.ofJson? operand with
  | some v => .ok v
  | none => .error (.operandNotScalar key field)

/-- The operands of a list operator. -/
def scalars (field : String) : List Json → Except Invalid (List Value)
  | [] => .ok []
  | item :: rest =>
    match Value.ofJson? item with
    | some v => (scalars field rest).map (v :: ·)
    | none => .error (.elementNotScalar field)

/-- The operator of a key with its operand; `none` if the key is not known. -/
def operator? (field key : String) (operand : Json) : Except Invalid (Option Operator) :=
  match Comparison.ofKey? key with
  | some c => (scalar field key operand).map fun v => some (.compare c v)
  | none =>
    if key = "$in" then
      match operand with
      | .array items => (scalars field items).map fun vs => some (.inList vs)
      | _ => .error (.operandNotArray field)
    else if key = "$like" then
      match operand with
      | .string pattern => .ok (some (.like pattern))
      | _ => .error (.patternNotString field)
    else .ok none

/-- The condition of an operator object: its first key names the operator, all further keys are
unknown ones, and an object without keys asks for nothing. -/
def ofOperators (policy : Policy) (field : String) :
    List (String × Json) → Noted (Option Condition)
  | [] => pure none
  | (key, operand) :: extra => do
    unknownAll policy field (extra.map (·.1))
    match ← Noted.ofExcept (operator? field key operand) with
    | some op => return some (.operator op)
    | none =>
      unknown policy field key
      return none

/-- The condition of a member; arrays are no conditions. -/
def ofMember (policy : Policy) (field : String) (raw : Json) : Noted (Option Condition) :=
  match raw with
  | .object members => ofOperators policy field members
  | .array _ => do
    unknown policy field "[array]"
    return none
  | scalar => return some (.literal ((Value.ofJson? scalar).getD .null))

/-- Adds the conditions of members in order; members without a name are passed over. -/
def addMembers (policy : Policy) (f : Filter) : List (String × Json) → Noted Filter
  | [] => pure f
  | (field, raw) :: rest =>
    if field.isEmpty then addMembers policy f rest
    else do
      match ← ofMember policy field raw with
      | some condition => addMembers policy (f.add field condition) rest
      | none => addMembers policy f rest

/-- The filter of a JSON document, which must be an object. -/
def ofJson (policy : Policy) : Json → Noted Filter
  | .object members => addMembers policy empty members
  | other => .fault (.filterNotObject other.kind)

end Filter

end CriteriaSql
