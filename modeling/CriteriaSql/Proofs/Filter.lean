import CriteriaSql.Filter.Basic
import CriteriaSql.Proofs.Result

/-!
# What a filter adds

A filter is refused exactly when it asks for membership in an empty list. Otherwise it adds one
condition for each entry that counts, in order.

* `Condition.Usable`, `Filter.HasEmptyList`: the two properties of entries that decide.
* `predicates_eq`, `addFilter_eq`: what an accepted filter gives.
* `predicates_refused`: a refused one names a field.
-/

namespace CriteriaSql

/-- An entry that counts: an operator, or a bare value that stands for a value. -/
def Condition.Usable : Condition → Prop
  | .literal v => v.isFalsy = false
  | .operator _ => True

instance : DecidablePred Condition.Usable
  | .literal v => inferInstanceAs (Decidable (v.isFalsy = false))
  | .operator _ => inferInstanceAs (Decidable True)

theorem Condition.operator?_isSome {c : Condition} : c.operator?.isSome ↔ c.Usable := by
  cases c with
  | literal v => cases hv : v.isFalsy <;> simp [Condition.operator?, Condition.Usable, hv]
  | operator op => simp [Condition.operator?, Condition.Usable]

/-- Only a list operator asks for membership. -/
theorem Condition.operator?_eq_inList {c : Condition} {vs : List Value} :
    c.operator? = some (.inList vs) ↔ c = .operator (.inList vs) := by
  cases c with
  | literal v => cases hv : v.isFalsy <;> simp [Condition.operator?, hv]
  | operator op => simp [Condition.operator?]

namespace Filter

/-- Some entry asks for membership in an empty list. -/
def HasEmptyList (f : Filter) : Prop := ∃ e ∈ f.entries, e.2 = .operator (.inList [])

instance (f : Filter) : Decidable f.HasEmptyList :=
  inferInstanceAs (Decidable (∃ e ∈ f.entries, e.2 = .operator (.inList [])))

/-- The conditions of the entries that count. -/
def conditions (f : Filter) : List Predicate := f.usable.map fun e => .field e.1 e.2

/-- What a filter adds to criteria: its conditions, or none if it is refused. -/
def added (f : Filter) : List Predicate := if f.HasEmptyList then [] else f.conditions

theorem mem_usable {f : Filter} {field : String} {op : Operator} :
    (field, op) ∈ f.usable ↔ ∃ c, (field, c) ∈ f.entries ∧ c.operator? = some op := by
  unfold usable
  rw [List.mem_filterMap]
  constructor
  · rintro ⟨⟨field', c⟩, hc, hu⟩
    obtain ⟨op', hop, he⟩ := Option.map_eq_some_iff.1 hu
    obtain ⟨rfl, rfl⟩ := Prod.mk.inj he
    exact ⟨c, hc, hop⟩
  · rintro ⟨c, hc, hop⟩
    exact ⟨(field, c), hc, by rw [hop, Option.map_some]⟩

/-- A filter has conditions exactly when some entry counts. -/
theorem usable_ne_nil {f : Filter} : f.usable ≠ [] ↔ ∃ e ∈ f.entries, e.2.Usable := by
  constructor
  · intro hne
    obtain ⟨⟨field, op⟩, hu⟩ := List.exists_mem_of_ne_nil _ hne
    obtain ⟨c, hc, hop⟩ := mem_usable.1 hu
    exact ⟨(field, c), hc, Condition.operator?_isSome.1 (by rw [hop]; rfl)⟩
  · rintro ⟨⟨field, c⟩, hc, hu⟩
    obtain ⟨op, hop⟩ := Option.isSome_iff_exists.1 (Condition.operator?_isSome.2 hu)
    exact List.ne_nil_of_mem (mem_usable.2 ⟨c, hc, hop⟩)

theorem hasEmptyList_iff {f : Filter} : f.HasEmptyList ↔ ∃ e ∈ f.usable, e.2 = .inList [] := by
  constructor
  · rintro ⟨⟨field, c⟩, hc, rfl⟩
    exact ⟨(field, .inList []), mem_usable.2 ⟨_, hc, rfl⟩, rfl⟩
  · rintro ⟨⟨field, op⟩, hu, rfl⟩
    obtain ⟨c, hc, hop⟩ := mem_usable.1 hu
    exact ⟨(field, c), hc, Condition.operator?_eq_inList.1 hop⟩

theorem ofField_eq {field : String} {op : Operator} (h : op ≠ .inList []) :
    Predicate.ofField field op = .ok (.field field op) := by
  have hc : op.check field = .ok () := by
    unfold Operator.check
    split
    · exact absurd rfl h
    · rfl
  rw [Predicate.ofField, hc, Result.map_ok]

/-- Conditions are made one by one until an empty list is met. -/
theorem mapM_ofField (us : List (String × Operator)) :
    (us.mapM fun e => Predicate.ofField e.1 e.2) =
      match us.find? (·.2 = .inList []) with
      | none => .ok (us.map fun e => .field e.1 e.2)
      | some e => .error (.emptyList e.1) := by
  induction us with
  | nil => rfl
  | cons e us ih =>
    rw [List.mapM_cons, ih]
    -- an empty list ends the pass, any other operator leaves the outcome to the rest
    by_cases h : e.2 = .inList []
    · rw [List.find?_cons, decide_eq_true h, Predicate.ofField, h]
      rfl
    · rw [List.find?_cons, decide_eq_false h, ofField_eq h]
      cases us.find? (·.2 = .inList []) <;> rfl

/-- **An accepted filter gives the conditions of the entries that count.** -/
theorem predicates_eq {f : Filter} (h : ¬ f.HasEmptyList) : f.predicates = .ok f.conditions := by
  have hnone : f.usable.find? (·.2 = .inList []) = none := by
    rw [List.find?_eq_none]
    intro e he hd
    exact h (hasEmptyList_iff.2 ⟨e, he, of_decide_eq_true hd⟩)
  rw [predicates, mapM_ofField, hnone]
  rfl

/-- **A filter with an empty list is refused**, whatever stands around it. -/
theorem predicates_refused {f : Filter} (h : f.HasEmptyList) :
    ∃ field, f.predicates = .error (.emptyList field) := by
  obtain ⟨e, he, hl⟩ := hasEmptyList_iff.1 h
  rw [predicates, mapM_ofField]
  cases hf : f.usable.find? (·.2 = .inList []) with
  | none => exact absurd (decide_eq_true hl) (List.find?_eq_none.1 hf e he)
  | some e' => exact ⟨e'.1, rfl⟩

end Filter

namespace Criteria

theorem pushAll_and (ps : List Predicate) (c : Criteria) :
    c.pushAll .and ps = { c with conjuncts := c.conjuncts ++ ps } := by
  unfold pushAll
  induction ps generalizing c with
  | nil => simp
  | cons p ps ih => rw [List.foldl_cons, ih]; simp [push]

theorem pushAll_or (ps : List Predicate) (c : Criteria) :
    c.pushAll .or ps = { c with disjuncts := c.disjuncts ++ ps } := by
  unfold pushAll
  induction ps generalizing c with
  | nil => simp
  | cons p ps ih => rw [List.foldl_cons, ih]; simp [push]

theorem addFilter_eq (connective : Connective) {f : Filter} (c : Criteria) (h : ¬ f.HasEmptyList) :
    c.addFilter connective f = .ok (c.pushAll connective f.conditions) := by
  rw [addFilter, Filter.predicates_eq h, Result.map_ok]

theorem addFilter_refused (connective : Connective) {f : Filter} (c : Criteria) (h : f.HasEmptyList) :
    ∃ field, c.addFilter connective f = .error (.emptyList field) := by
  obtain ⟨field, hf⟩ := Filter.predicates_refused h
  exact ⟨field, by rw [addFilter, hf, Result.map_error]⟩

end Criteria

end CriteriaSql
