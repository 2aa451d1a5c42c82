import CriteriaSql.Proofs.Faults

/-!
# What each kind of statement reads

A SELECT does not read the fields to update, an UPDATE does not read projection, joins, sorts and page, and a
DELETE reads none of these. A builder can be trimmed to what a kind reads: neither further calls nor a build of
that kind tell the difference. So a call that gives nothing else can be left out of a chain, unless it fails.

* `Call.Unused`: the calls that a kind does not read.
* `Builder.relevant`: a builder trimmed to what a kind reads.
* `Builder.run_relevant`, `Builder.buildFrom_relevant`: calls and builds.
* `Builder.buildFrom_unused`: an unused call makes no difference, wherever it stands in a chain.
-/

namespace CriteriaSql

/-- The calls that a kind of statement does not read. -/
inductive Call.Unused (kind : StatementKind) : Call → Prop
  | select (hk : kind ≠ .select) (fields : List String) : Unused kind (.select fields)
  | selectUnchecked (hk : kind ≠ .select) (fields : List String) : Unused kind (.selectUnchecked fields)
  | join (hk : kind ≠ .select) (flavour : JoinKind) (table condition : String) :
    Unused kind (.join flavour table condition)
  | sortBy (hk : kind ≠ .select) (field : String) (direction : Direction) : Unused kind (.sortBy field direction)
  | limit (hk : kind ≠ .select) (n : Nat) : Unused kind (.limit n)
  | offset (hk : kind ≠ .select) (n : Nat) : Unused kind (.offset n)
  | setFields (hk : kind ≠ .update) (updates : Record) : Unused kind (.setFields updates)

theorem Call.Unused.contributes {kind : StatementKind} {call : Call} (h : call.Unused kind) :
    call.Contributes := by
  cases h <;> trivial

namespace Builder

/-- A builder with nothing but what a kind of statement reads. -/
def relevant (kind : StatementKind) (b : Builder) : Builder :=
  { b with
    projection := if kind = .select then b.projection else none
    joins := if kind = .select then b.joins else []
    sorts := if kind = .select then b.sorts else []
    page := if kind = .select then b.page else .all
    assignments := if kind = .update then b.assignments else .empty }

variable (kind : StatementKind) (b : Builder)

theorem relevant_relevant : (b.relevant kind).relevant kind = b.relevant kind := by
  cases kind <;> rfl

/-- What a call gives is read from a trimmed builder as from the whole one. -/
theorem relevant_take (call : Call) :
    ((b.relevant kind).take call).relevant kind = (b.take call).relevant kind := by
  cases kind <;> rfl

/-- **A call does not tell a trimmed builder from the whole one.** -/
theorem relevant_apply (call : Call) :
    ((b.relevant kind).apply call).relevant kind = (b.apply call).relevant kind := by
  cases call with
  -- the policy is set in both, and emptied builders have nothing to trim
  | unknownOperators policy => cases kind <;> rfl
  | prepare kind' => rfl
  | reset => rfl
  | _ =>
    rw [apply_eq_take _ (by trivial), apply_eq_take _ (by trivial)]
    exact relevant_take kind b _

/-- **A chain of calls does not tell them apart**: each call leaves builders that agree in what the kind reads. -/
theorem relevant_run (calls : List Call) :
    ((b.relevant kind).run calls).relevant kind = (b.run calls).relevant kind := by
  induction calls generalizing b with
  | nil => exact relevant_relevant kind b
  | cons call calls ih =>
    have htrimmed := ih ((b.relevant kind).apply call)
    rw [relevant_apply, ih (b.apply call)] at htrimmed
    exact htrimmed.symm

theorem run_congr {b c : Builder} (h : b.relevant kind = c.relevant kind) (calls : List Call) :
    (b.run calls).relevant kind = (c.run calls).relevant kind := by
  rw [← relevant_run kind b, h, relevant_run kind c]

/-- **A build reads what its kind reads.** -/
theorem buildFrom_relevant (k : Nat) : (b.relevant b.kind).buildFrom k = b.buildFrom k := by
  obtain ⟨schema, table, kind, projection, criteria, joins, sorts, page, assignments, staging, policy, failure⟩ := b
  cases kind <;> rfl

theorem buildFrom_congr {kind : StatementKind} {b c : Builder} (hk : b.kind = kind)
    (h : b.relevant kind = c.relevant kind) (k : Nat) : b.buildFrom k = c.buildFrom k := by
  have hkind : c.kind = kind := by
    have hsame : (b.relevant kind).kind = (c.relevant kind).kind := congrArg Builder.kind h
    exact hsame.symm.trans hk
  rw [← buildFrom_relevant b, ← buildFrom_relevant c, hk, hkind, h]

variable {kind b}

/-- An unused call that does not fail leaves what the kind reads. -/
theorem relevant_unused {call : Call} (h : call.Unused kind) (hf : ¬ call.Fails b.policy) :
    (b.apply call).relevant kind = b.relevant kind := by
  have hfault : call.fault? b.policy = none := Call.fault?_eq_none.2 hf
  rw [apply_eq_take b h.contributes, take, hfault]
  cases h with
  | select hk fields => simp [relevant, hk]
  | selectUnchecked hk fields => simp [relevant, hk]
  | join hk flavour table condition => simp [relevant, hk]
  | sortBy hk field direction => simp [relevant, hk]
  | limit hk n => simp [relevant, hk]
  | offset hk n => simp [relevant, hk]
  | setFields hk updates => simp [relevant, hk]

/-- **A call that the statement does not read makes no difference to it**, wherever it stands. -/
theorem buildFrom_unused {call : Call} (prior later : List Call) (k : Nat) (h : call.Unused kind)
    (hf : ¬ call.Fails (b.run prior).policy) (hk : (b.run (prior ++ call :: later)).kind = kind) :
    (b.run (prior ++ call :: later)).buildFrom k = (b.run (prior ++ later)).buildFrom k := by
  have hwith : b.run (prior ++ call :: later) = ((b.run prior).apply call).run later := run_append b prior _
  rw [hwith] at hk ⊢
  rw [run_append]
  exact buildFrom_congr hk (run_congr kind (relevant_unused h hf) later) k

end Builder

end CriteriaSql
