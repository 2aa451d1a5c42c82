import CriteriaSql.Builder.Call
import CriteriaSql.Proofs.Filter

/-!
# What a builder holds, from its history

A builder holds what the calls since it was last emptied have given it, and nothing of the calls before
but the policy. Conditions, joins, sorts and projected fields add up in call order; of tables, limits,
offsets and updates the last one counts; of faults the first.

* `History`: the calls that count, each with the policy under which it was made.
* `Call.fault?`, `Call.given`, `Call.projected?`, `Call.table?` and others: what one call contributes.
* `Builder.take`, `Builder.apply_eq_take`: what one call does to any builder.
* `Builder.gathered`, `Builder.run_gathered`: a builder from a history; a chain of calls leads to it.
-/

namespace CriteriaSql

/-! ## What a call contributes -/

namespace Call

/-- The fault of a call that cannot be carried out. -/
@[simp] def fault? (policy : Policy) : Call → Option Invalid
  | .restrict _ filter => Result.fault? filter.predicates
  | .restrictJson _ document => Result.fault? ((Filter.ofJson policy document).result.bind Filter.predicates)
  | .join kind table condition => Result.fault? (Join.make kind table condition)
  | .sortBy field direction => Result.fault? (SortKey.make field direction)
  | _ => none

/-- The conditions that a call adds under a connective. -/
@[simp] def given (policy : Policy) (connective : Connective) : Call → List Predicate
  | .restrict c filter => if c = connective then filter.added else []
  | .restrictJson c document =>
    if c = connective then ((Filter.ofJson policy document).result.toOption.map Filter.added).getD [] else []
  | .predicate c p => if c = connective then [p] else []
  | _ => []

/-- The fields that a call projects, as far as they are let through. -/
@[simp] def projected? (schema : Schema) : Call → Option (List String)
  | .select fields => some ((Builder.starred fields).filter (schema.allowsProjection ·))
  | .selectUnchecked fields => some (Builder.starred fields)
  | _ => none

@[simp] def table? : Call → Option String
  | .fromTable table => some table
  | _ => none

@[simp] def join? : Call → Option Join
  | .join kind table condition => (Join.make kind table condition).toOption
  | _ => none

@[simp] def sort? : Call → Option SortKey
  | .sortBy field direction => (SortKey.make field direction).toOption
  | _ => none

@[simp] def limit? : Call → Option Nat
  | .limit n => some n
  | _ => none

@[simp] def offset? : Call → Option Nat
  | .offset n => some n
  | _ => none

@[simp] def updates? : Call → Option Record
  | .setFields updates => some updates
  | _ => none

end Call

/-- The calls that neither empty a builder nor set its policy. -/
def Call.Contributes : Call → Prop
  | .unknownOperators _ | .prepare _ | .reset => False
  | _ => True

/-! ## Histories -/

/-- The calls since a builder was last emptied, each with the policy under which it was made. -/
structure History where
  policy : Policy
  kind : StatementKind
  calls : List (Policy × Call)

namespace History

/-- Nothing but a policy. -/
def new (policy : Policy) : History := ⟨policy, .select, []⟩

/-- A history with one more call. -/
def push (h : History) (call : Call) : History := { h with calls := h.calls ++ [(h.policy, call)] }

/-- The history after a call, which may begin a new one or change the policy. -/
def after (h : History) : Call → History
  | .unknownOperators policy => { h with policy := policy }
  | .prepare kind => { new h.policy with kind := kind }
  | .reset => new h.policy
  | call => h.push call

/-- The history of a chain of calls on a new builder. -/
def ofCalls (policy : Policy) (calls : List Call) : History := calls.foldl after (new policy)

/-- All that the calls contribute of one sort, in order. -/
def collected (f : Call → Option α) (h : History) : List α := h.calls.filterMap fun made => f made.2

/-- What the calls contribute last of one sort. -/
def last? (f : Call → Option α) (h : History) : Option α := (h.collected f).getLast?

/-- The conditions under a connective, in order. -/
def given (connective : Connective) (h : History) : List Predicate :=
  h.calls.flatMap fun made => made.2.given made.1 connective

/-- The fault of the first call that cannot be carried out. -/
def fault? (h : History) : Option Invalid := h.calls.findSome? fun made => made.2.fault? made.1

/-- The projected fields, if any call projects. -/
def projection (schema : Schema) (h : History) : Option (List String) :=
  match h.collected (Call.projected? schema) with
  | [] => none
  | lists => some lists.flatten

def table (schema : Schema) (h : History) : String := (h.last? Call.table?).getD schema.name

def page (h : History) : Page := ⟨(h.last? Call.limit?).getD 0, (h.last? Call.offset?).getD 0⟩

def assignments (schema : Schema) (h : History) : Record :=
  ((h.last? Call.updates?).map (Builder.knownFields schema)).getD .empty

theorem collected_push (f : Call → Option α) (h : History) (call : Call) :
    (h.push call).collected f = h.collected f ++ (f call).toList := by
  unfold collected push
  rw [List.filterMap_append]
  cases hf : f call <;> simp [hf]

theorem last?_push (f : Call → Option α) (h : History) (call : Call) :
    (h.push call).last? f = (f call).or (h.last? f) := by
  unfold last?
  rw [collected_push]
  cases f call <;> simp

theorem given_push (connective : Connective) (h : History) (call : Call) :
    (h.push call).given connective = h.given connective ++ call.given h.policy connective := by
  simp [given, push]

theorem fault?_push (h : History) (call : Call) :
    (h.push call).fault? = h.fault?.or (call.fault? h.policy) := by
  unfold fault? push
  rw [List.findSome?_append]
  simp

theorem projection_push (schema : Schema) (h : History) (call : Call) :
    (h.push call).projection schema =
      match call.projected? schema with
      | some fields => some ((h.projection schema).getD [] ++ fields)
      | none => h.projection schema := by
  unfold projection
  rw [collected_push]
  cases call.projected? schema <;> cases h.collected (Call.projected? schema) <;> simp

theorem table_push (schema : Schema) (h : History) (call : Call) :
    (h.push call).table schema = call.table?.getD (h.table schema) := by
  unfold table
  rw [last?_push]
  cases call.table? <;> rfl

theorem page_push (h : History) (call : Call) :
    (h.push call).page = ⟨call.limit?.getD h.page.limit, call.offset?.getD h.page.offset⟩ := by
  unfold page
  rw [last?_push, last?_push]
  cases call.limit? <;> cases call.offset? <;> rfl

theorem assignments_push (schema : Schema) (h : History) (call : Call) :
    (h.push call).assignments schema =
      (call.updates?.map (Builder.knownFields schema)).getD (h.assignments schema) := by
  unfold assignments
  rw [last?_push]
  cases call.updates? <;> rfl

end History

/-! ## Builders -/

namespace Builder

/-- A builder with what a call contributes. -/
def take (b : Builder) (call : Call) : Builder :=
  { b with
    table := call.table?.getD b.table
    projection :=
      match call.projected? b.schema with
      | some fields => some (b.projection.getD [] ++ fields)
      | none => b.projection
    criteria :=
      ⟨b.criteria.conjuncts ++ call.given b.policy .and, b.criteria.disjuncts ++ call.given b.policy .or⟩
    joins := b.joins ++ call.join?.toList
    sorts := b.sorts ++ call.sort?.toList
    page := ⟨call.limit?.getD b.page.limit, call.offset?.getD b.page.offset⟩
    assignments := (call.updates?.map (knownFields b.schema)).getD b.assignments
    failure := b.failure.or (call.fault? b.policy) }

/-- A filter adds its conditions or leaves its fault. -/
theorem restrict_added (connective : Connective) (f : Filter) (b : Builder) :
    b.restrict connective f =
      { b with
        criteria := b.criteria.pushAll connective f.added
        failure := b.failure.or (Result.fault? f.predicates) } := by
  unfold restrict Criteria.addFilter
  by_cases he : f.HasEmptyList
  · obtain ⟨field, hf⟩ := Filter.predicates_refused he
    simp [attempt, fail, hf, Filter.added, he, Criteria.pushAll]
  · simp [attempt, Filter.predicates_eq he, Filter.added, he]

/-- **A call contributes what it says**, unless it empties the builder or sets the policy. -/
theorem apply_eq_take (b : Builder) {call : Call} (hc : call.Contributes) : b.apply call = b.take call := by
  cases call with
  | unknownOperators policy => cases hc
  | prepare kind => cases hc
  | reset => cases hc
  | select fields => simp [take, apply, select, project]
  | selectUnchecked fields => simp [take, apply, selectUnchecked, project]
  | fromTable table => simp [take, apply, fromTable]
  | restrict connective filter =>
    cases connective <;> simp [take, apply, restrict_added, Criteria.pushAll_and, Criteria.pushAll_or]
  | restrictJson connective document =>
    -- a document that is refused adds nothing, another one what its filter adds
    cases hr : (Filter.ofJson b.policy document).result with
    | error cause => simp [take, apply, restrictJson, attempt, fail, hr]
    | ok filter =>
      cases connective <;>
        simp [take, apply, restrictJson, attempt, hr, restrict_added, Criteria.pushAll_and,
          Criteria.pushAll_or]
  | predicate connective p => cases connective <;> simp [take, apply, predicate, Criteria.push]
  | join kind table condition =>
    cases hj : Join.make kind table condition <;> simp [take, apply, join, attempt, fail, hj]
  | sortBy field direction =>
    cases hs : SortKey.make field direction <;> simp [take, apply, sortBy, attempt, fail, hs]
  | limit n => simp [take, apply, limit]
  | offset n => simp [take, apply, offset]
  | setFields updates => simp [take, apply, setFields]

theorem run_append (b : Builder) (first second : List Call) :
    b.run (first ++ second) = (b.run first).run second := List.foldl_append

/-- What a builder over a schema holds after a history. -/
def gathered (schema : Schema) (h : History) : Builder where
  schema := schema
  table := h.table schema
  kind := h.kind
  projection := h.projection schema
  criteria := ⟨h.given .and, h.given .or⟩
  joins := h.collected Call.join?
  sorts := h.collected Call.sort?
  page := h.page
  assignments := h.assignments schema
  staging := none
  policy := h.policy
  failure := h.fault?

variable (schema : Schema) (h : History)

theorem gathered_new (policy : Policy) : gathered schema (.new policy) = ofSchema schema policy := rfl

theorem gathered_push (call : Call) : gathered schema (h.push call) = (gathered schema h).take call := by
  unfold gathered
  rw [History.table_push, History.projection_push, History.given_push, History.given_push,
    History.collected_push, History.collected_push, History.page_push, History.assignments_push,
    History.fault?_push]
  rfl

theorem apply_gathered (call : Call) : (gathered schema h).apply call = gathered schema (h.after call) := by
  cases call with
  | unknownOperators policy => rfl
  | prepare kind => rfl
  | reset => rfl
  -- any other call is recorded
  | _ => exact (apply_eq_take _ (by trivial)).trans (gathered_push schema h _).symm

/-- **A builder holds what its history gives it.** -/
theorem run_gathered (policy : Policy) (calls : List Call) :
    (ofSchema schema policy).run calls = gathered schema (.ofCalls policy calls) := by
  rw [← gathered_new, History.ofCalls]
  generalize History.new policy = h
  induction calls generalizing h with
  | nil => rfl
  | cons call calls ih =>
    rw [run, List.foldl_cons, apply_gathered]
    exact ih (h.after call)

end Builder

end CriteriaSql
