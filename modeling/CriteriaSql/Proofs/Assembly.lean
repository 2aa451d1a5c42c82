import CriteriaSql.Builder.Build
import CriteriaSql.Proofs.Record
import CriteriaSql.Proofs.Result

/-!
# How a statement is put together

What a successful build consists of, by kind: a head, the criteria numbered after all that the head
binds, and for a SELECT a tail without values.

* `attempt_induction`: what holds after a call that may fail.
* `columns_knownFields`, `values_knownFields`: what an update assigns.
* `buildFrom_cases`, `buildFrom_eq_error`: the three forms of a built statement, and what else is reported.
-/

namespace CriteriaSql

namespace Statement

@[simp] theorem append_fragments (s t : Statement) : (s ++ t).fragments = s.fragments ++ t.fragments := rfl

@[simp] theorem append_values (s t : Statement) : (s ++ t).values = s.values ++ t.values := rfl

@[simp] theorem append_placeholders (s t : Statement) :
    (s ++ t).placeholders = s.placeholders ++ t.placeholders := rfl

end Statement

namespace Builder

@[simp] theorem withCriteria_fragments (k : Nat) (b : Builder) (s : Statement) :
    (b.withCriteria k s).fragments =
      s.fragments ++ (b.criteria.compile (k + s.values.length)).fragments := rfl

@[simp] theorem withCriteria_values (k : Nat) (b : Builder) (s : Statement) :
    (b.withCriteria k s).values = s.values ++ b.criteria.toList.flatMap (·.2.operands) := rfl

/-- What an attempt leaves behind, from its two outcomes. -/
theorem attempt_induction {P : Builder → Prop} {b : Builder} {r : Except Invalid α}
    {f : α → Builder → Builder} (hfail : ∀ cause, P (b.fail cause)) (hok : ∀ a, r = .ok a → P (f a b)) :
    P (b.attempt r f) := by
  cases r with
  | error cause => exact hfail cause
  | ok a => exact hok a rfl

theorem columns_knownFields (schema : Schema) (r : Record) :
    (knownFields schema r).columns = schema.fields.filter (r.contains ·) := by
  unfold knownFields Record.columns
  induction schema.fields with
  | nil => rfl
  | cons f fields ih =>
    rw [List.filterMap_cons, List.filter_cons]
    unfold Record.contains
    cases r.get? f with
    | none => exact ih
    | some v => exact congrArg (f :: ·) ih

theorem values_knownFields (schema : Schema) (r : Record) :
    (knownFields schema r).values = schema.fields.filterMap (r.get? ·) := by
  unfold knownFields Record.values
  induction schema.fields with
  | nil => rfl
  | cons f fields ih =>
    rw [List.filterMap_cons, List.filterMap_cons]
    cases r.get? f with
    | none => exact ih
    | some v => exact congrArg (v :: ·) ih

/-- An update assigns something if the schema knows one of its columns. -/
theorem isEmpty_knownFields (schema : Schema) (r : Record) :
    (knownFields schema r).isEmpty = false ↔ ∃ f ∈ schema.fields, f ∈ r.columns := by
  have hc : (knownFields schema r).isEmpty = (knownFields schema r).columns.isEmpty := by
    rw [Record.columns, List.isEmpty_map]
    rfl
  rw [hc, columns_knownFields, List.isEmpty_eq_false_iff]
  constructor
  · intro hne
    obtain ⟨f, hf⟩ := List.exists_mem_of_ne_nil _ hne
    obtain ⟨hfield, hset⟩ := List.mem_filter.1 hf
    exact ⟨f, hfield, Record.contains_iff.1 hset⟩
  · rintro ⟨f, hfield, hset⟩
    exact List.ne_nil_of_mem (List.mem_filter.2 ⟨hfield, Record.contains_iff.2 hset⟩)

/-- **The forms of a built statement.** -/
theorem buildFrom_cases {k : Nat} {b : Builder} {s : Statement} (h : b.buildFrom k = .ok s) :
    b.failure = none ∧
      ((b.kind = .select ∧ ∃ p, b.projectionText = .ok p ∧
          s = b.withCriteria k (b.selectHead p) ++ .ofFragments b.selectTail) ∨
        (b.kind = .update ∧ b.assignments.isEmpty = false ∧ s = b.withCriteria k (b.updateHead k)) ∨
        (b.kind = .delete ∧ b.criteria.isEmpty = false ∧ s = b.withCriteria k b.deleteHead)) := by
  unfold buildFrom at h
  cases hf : b.failure with
  -- a call failed on the way, and nothing is built
  | some cause => rw [hf] at h; cases h
  | none =>
    rw [hf] at h
    refine ⟨rfl, ?_⟩
    cases hk : b.kind with
    | select =>
      rw [hk] at h
      obtain ⟨p, hp, rfl⟩ := Result.map_eq_ok.1 h
      exact .inl ⟨rfl, p, hp, rfl⟩
    | update =>
      rw [hk] at h
      simp only [buildUpdate] at h
      split at h
      · cases h
      · next he => exact .inr (.inl ⟨rfl, Bool.eq_false_iff.2 he, (Except.ok.inj h).symm⟩)
    | delete =>
      rw [hk] at h
      simp only [buildDelete] at h
      split at h
      · cases h
      · next he => exact .inr (.inr ⟨rfl, Bool.eq_false_iff.2 he, (Except.ok.inj h).symm⟩)

theorem projectionText_eq_error {b : Builder} {cause : Invalid} :
    b.projectionText = .error cause ↔ b.projection = some [] ∧ cause = .noSelectableField b.table := by
  unfold projectionText
  cases b.projection with
  | none => simp
  | some fields => cases fields <;> simp [@eq_comm _ cause]

/-- **What a build reports** when no call has failed. -/
theorem buildFrom_eq_error {k : Nat} {b : Builder} {cause : Invalid} (hf : b.failure = none) :
    b.buildFrom k = .error cause ↔
      (b.kind = .select ∧ b.projection = some [] ∧ cause = .noSelectableField b.table) ∨
        (b.kind = .update ∧ b.assignments.isEmpty = true ∧ cause = .noUpdatableField b.table) ∨
        (b.kind = .delete ∧ b.criteria.isEmpty = true ∧ cause = .unguardedDelete b.table) := by
  unfold buildFrom
  rw [hf]
  cases b.kind with
  | select => simp [buildSelect, Result.map_eq_error, projectionText_eq_error]
  | update => cases he : b.assignments.isEmpty <;> simp [buildUpdate, he, @eq_comm _ cause]
  | delete => cases he : b.criteria.isEmpty <;> simp [buildDelete, he, @eq_comm _ cause]

theorem fragments_ne_nil {k : Nat} {b : Builder} {s : Statement} (h : b.buildFrom k = .ok s) :
    s.fragments ≠ [] := by
  obtain ⟨-, ⟨-, p, -, rfl⟩ | ⟨-, -, rfl⟩ | ⟨-, -, rfl⟩⟩ := buildFrom_cases h
  · exact List.cons_ne_nil _ _
  · exact List.cons_ne_nil _ _
  · exact List.cons_ne_nil _ _

end Builder

end CriteriaSql
