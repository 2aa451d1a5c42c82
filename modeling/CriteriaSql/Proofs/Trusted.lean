import CriteriaSql.Builder.Call
import CriteriaSql.Proofs.Filter
import CriteriaSql.Proofs.Numbering

/-!
# Trusted text

Names and raw SQL enter a statement as they are. A chain of calls without a dollar sign in any of
them leads to a builder without one.

* `Call.trusted`, `Schema.trusted`: the text that is not checked.
* `apply_isPlain`: one call; `run_isPlain`: a chain of calls.
-/

namespace CriteriaSql

/-- The names of the members of a document. -/
def Json.memberNames : Json → List String
  | .object members => members.map (·.1)
  | _ => []

/-- The fields that a filter names. -/
def Filter.fieldNames (f : Filter) : List String := f.entries.map (·.1)

def Schema.trusted (s : Schema) : List String := s.name :: s.fields

/-- The trusted text of a call. Of the columns to update only those of the schema are written. -/
def Call.trusted : Call → List String
  | .select fields | .selectUnchecked fields => fields
  | .fromTable table => [table]
  | .restrict _ filter => filter.fieldNames
  | .restrictJson _ document => document.memberNames
  | .predicate _ p => [p.trusted]
  | .join _ table condition => [table, condition]
  | .sortBy field _ => [field]
  | .limit _ | .offset _ | .setFields _ | .unknownOperators _ | .prepare _ | .reset => []

/-- No text of a list has a dollar sign. -/
def AllPlain (texts : List String) : Prop := ∀ t ∈ texts, Plain t

instance (texts : List String) : Decidable (AllPlain texts) :=
  inferInstanceAs (Decidable (∀ t ∈ texts, Plain t))

theorem allPlain_append {a b : List String} : AllPlain (a ++ b) ↔ AllPlain a ∧ AllPlain b :=
  List.forall_mem_append

/-! ## Filters -/

theorem Noted.bind_result (x : Noted α) (f : α → Noted β) :
    (x >>= f).result = x.result.bind fun a => (f a).result := by
  change (x.andThen f).result = _
  unfold Noted.andThen
  cases x.result <;> rfl

theorem Noted.bind_result_ok {x : Noted α} {f : α → Noted β} {b : β} (h : (x >>= f).result = .ok b) :
    ∃ a, x.result = .ok a ∧ (f a).result = .ok b := by
  rw [bind_result] at h
  exact Result.bind_eq_ok.1 h

namespace Filter

theorem fieldNames_add_subset (field : String) (c : Condition) (f : Filter) :
    (f.add field c).fieldNames ⊆ f.fieldNames ++ [field] := by
  unfold add
  split
  · exact List.subset_append_left _ _
  · rw [fieldNames, List.map_append]
    exact List.Subset.refl _

/-- A filter document names no field that is not one of its members. -/
theorem fieldNames_addMembers {policy : Policy} {members : List (String × Json)} :
    ∀ {f g : Filter}, (addMembers policy f members).result = .ok g →
      g.fieldNames ⊆ f.fieldNames ++ members.map (·.1) := by
  induction members with
  | nil =>
    intro f g h
    rw [← Except.ok.inj h]
    exact List.subset_append_left _ _
  | cons m members ih =>
    intro f g h
    obtain ⟨field, raw⟩ := m
    rw [addMembers] at h
    -- a member without a name, or without a condition, adds no field
    have hskip : f.fieldNames ++ members.map (·.1) ⊆ f.fieldNames ++ ((field, raw) :: members).map (·.1) :=
      List.append_subset.2 ⟨List.subset_append_left _ _,
        List.subset_append_of_subset_right _ (List.subset_cons_self _ _)⟩
    split at h
    · exact List.Subset.trans (ih h) hskip
    · obtain ⟨found, -, h⟩ := Noted.bind_result_ok h
      cases found with
      | none => exact List.Subset.trans (ih h) hskip
      | some c =>
        -- a condition stands under the name of its member
        have hadd : (f.add field c).fieldNames ⊆ f.fieldNames ++ ((field, raw) :: members).map (·.1) := by
          refine List.Subset.trans (fieldNames_add_subset field c f) (List.append_subset.2 ⟨?_, ?_⟩)
          · exact List.subset_append_left _ _
          · simp
        refine List.Subset.trans (ih h) (List.append_subset.2 ⟨hadd, ?_⟩)
        exact List.subset_append_of_subset_right _ (List.subset_cons_self _ _)

theorem fieldNames_ofJson {policy : Policy} {document : Json} {f : Filter}
    (h : (ofJson policy document).result = .ok f) : f.fieldNames ⊆ document.memberNames := by
  cases document with
  | object members => exact fieldNames_addMembers h
  | _ => cases h

theorem trusted_conditions {f : Filter} {p : Predicate} (h : p ∈ f.conditions) :
    p.trusted ∈ f.fieldNames := by
  obtain ⟨⟨field, op⟩, hu, rfl⟩ := List.mem_map.1 h
  obtain ⟨c, hc, -⟩ := mem_usable.1 hu
  exact List.mem_map.2 ⟨(field, c), hc, rfl⟩

end Filter

theorem Criteria.IsPlain.pushAll {c : Criteria} {ps : List Predicate} (h : c.IsPlain)
    (hp : ∀ p ∈ ps, Plain p.trusted) (connective : Connective) : (c.pushAll connective ps).IsPlain := by
  intro p hm
  have hmem : p ∈ c.conjuncts ++ c.disjuncts ∨ p ∈ ps := by
    cases connective with
    | and =>
      rw [pushAll_and, List.append_assoc, List.mem_append, List.mem_append] at hm
      rw [List.mem_append]
      exact or_assoc.2 (hm.imp id Or.symm)
    | or =>
      rw [pushAll_or, ← List.append_assoc, List.mem_append] at hm
      exact hm
  rcases hmem with hm | hm
  · exact h p hm
  · exact hp p hm

theorem Join.make_eq_ok {kind : JoinKind} {table condition : String} {j : Join} :
    make kind table condition = .ok j ↔
      Text.isBlankText table = false ∧ Text.isBlankText condition = false ∧ j = ⟨kind, table, condition⟩ := by
  unfold make
  cases Text.isBlankText table <;> cases Text.isBlankText condition <;> simp [@eq_comm _ j]

theorem SortKey.make_eq_ok {field : String} {direction : Direction} {s : SortKey} :
    make field direction = .ok s ↔ Text.isBlankText field = false ∧ s = ⟨field, direction⟩ := by
  unfold make
  cases Text.isBlankText field <;> simp [@eq_comm _ s]

/-! ## Calls -/

namespace Builder

theorem isPlain_ofSchema {schema : Schema} (h : AllPlain schema.trusted) (policy : Policy) :
    (ofSchema schema policy).IsPlain where
  name := h _ List.mem_cons_self
  fields f hf := h f (List.mem_cons_of_mem _ hf)
  table := h _ List.mem_cons_self
  projection := by intro f hf; cases hf
  criteria := by intro p hp; cases hp
  joins := by intro j hj; cases hj
  sorts := by intro s hs; cases hs
  columns := by intro c hc; cases hc
  staging := by intro a ha; cases ha

theorem IsPlain.trusted_schema {b : Builder} (h : b.IsPlain) : AllPlain b.schema.trusted := by
  intro t ht
  rcases List.mem_cons.1 ht with rfl | ht
  · exact h.name
  · exact h.fields t ht

theorem IsPlain.project {b : Builder} (h : b.IsPlain) {fields : List String} (hf : AllPlain fields) :
    (b.project fields).IsPlain :=
  { h with
    projection := by
      intro f hm
      rcases List.mem_append.1 hm with hm | hm
      · exact h.projection f hm
      · exact hf f hm }

theorem allPlain_starred {fields : List String} (h : AllPlain fields) : AllPlain (starred fields) := by
  unfold starred
  split
  · intro t ht; rw [List.mem_singleton.1 ht]; decide
  · exact h

theorem IsPlain.restrict {b : Builder} (h : b.IsPlain) (connective : Connective) {f : Filter}
    (hf : AllPlain f.fieldNames) : (b.restrict connective f).IsPlain := by
  refine attempt_induction (fun _ => { h with }) fun c hc => ?_
  by_cases he : f.HasEmptyList
  · obtain ⟨field, hr⟩ := Criteria.addFilter_refused connective b.criteria he
    rw [hr] at hc
    cases hc
  · rw [Criteria.addFilter_eq connective b.criteria he] at hc
    have hp : ∀ p ∈ f.conditions, Plain p.trusted := fun p hp => hf _ (Filter.trusted_conditions hp)
    rw [← Except.ok.inj hc]
    exact { h with criteria := h.criteria.pushAll hp connective }

theorem IsPlain.join {b : Builder} (h : b.IsPlain) (kind : JoinKind) {table condition : String}
    (ht : Plain table) (hc : Plain condition) : (b.join kind table condition).IsPlain := by
  unfold Builder.join
  refine attempt_induction (fun _ => { h with }) fun j hj => ?_
  have hj' : Plain j.table ∧ Plain j.condition := by
    rw [(Join.make_eq_ok.1 hj).2.2]
    exact ⟨ht, hc⟩
  exact { h with joins := List.forall_mem_append.2 ⟨h.joins, List.forall_mem_singleton.2 hj'⟩ }

theorem IsPlain.sortBy {b : Builder} (h : b.IsPlain) {field : String} (hf : Plain field)
    (direction : Direction) : (b.sortBy field direction).IsPlain := by
  unfold Builder.sortBy
  refine attempt_induction (fun _ => { h with }) fun s hs => ?_
  have hs' : Plain s.field := by
    rw [(SortKey.make_eq_ok.1 hs).2]
    exact hf
  exact { h with sorts := List.forall_mem_append.2 ⟨h.sorts, List.forall_mem_singleton.2 hs'⟩ }

theorem IsPlain.predicate {b : Builder} (h : b.IsPlain) (connective : Connective) {p : Predicate}
    (hp : Plain p.trusted) : (b.predicate connective p).IsPlain :=
  { h with criteria := h.criteria.pushAll (List.forall_mem_singleton.2 hp) connective }

/-- Only columns of the schema are assigned. -/
theorem IsPlain.setFields {b : Builder} (h : b.IsPlain) (updates : Record) : (b.setFields updates).IsPlain :=
  { h with
    columns := by
      intro c hm
      change c ∈ (knownFields b.schema updates).columns at hm
      rw [columns_knownFields] at hm
      exact h.fields c (List.mem_filter.1 hm).1 }

theorem IsPlain.prepare {b : Builder} (h : b.IsPlain) (kind : StatementKind) : (b.prepare kind).IsPlain :=
  { isPlain_ofSchema h.trusted_schema b.policy with }

/-- **A call without dollar signs brings none into a builder.** -/
theorem apply_isPlain {b : Builder} (h : b.IsPlain) {call : Call} (hc : AllPlain call.trusted) :
    (b.apply call).IsPlain := by
  cases call with
  | select fields =>
    -- the fields that the schema knows are kept
    exact h.project fun f hf => allPlain_starred hc f (List.mem_filter.1 hf).1
  | selectUnchecked fields => exact h.project (allPlain_starred hc)
  | fromTable table => exact { h with table := hc _ List.mem_cons_self }
  | restrict connective filter => exact h.restrict connective hc
  | restrictJson connective document =>
    refine attempt_induction (fun _ => { h with }) fun f hf => ?_
    exact h.restrict connective fun t ht => hc t (Filter.fieldNames_ofJson hf ht)
  | predicate connective p => exact h.predicate connective (hc _ List.mem_cons_self)
  | join kind table condition =>
    exact h.join kind (hc _ List.mem_cons_self) (hc _ (List.mem_cons_of_mem _ List.mem_cons_self))
  | sortBy field direction => exact h.sortBy (hc _ List.mem_cons_self) direction
  | limit n => exact { h with }
  | offset n => exact { h with }
  | setFields updates => exact h.setFields updates
  | unknownOperators policy => exact { h with }
  | prepare kind => exact h.prepare kind
  | reset => exact isPlain_ofSchema h.trusted_schema b.policy

/-- **A chain of calls without dollar signs brings none into a builder.** -/
theorem run_isPlain {calls : List Call} {b : Builder} (h : b.IsPlain)
    (hc : AllPlain (calls.flatMap Call.trusted)) : (b.run calls).IsPlain := by
  induction calls generalizing b with
  | nil => exact h
  | cons call calls ih =>
    rw [List.flatMap_cons, allPlain_append] at hc
    exact ih (apply_isPlain h hc.1) hc.2

end Builder

end CriteriaSql
