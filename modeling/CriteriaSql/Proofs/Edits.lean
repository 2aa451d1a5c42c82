import CriteriaSql.Proofs.WhereClause
import Mathlib.Data.List.Forall2

/-!
# Edits of criteria in place

Criteria that are edited in place keep what an edit changed before it failed. Adding a filter is still all or
nothing: its conditions are all made before the first of them is added. So no edit lets an empty list in, and the
placeholders that criteria announce are the values that they bind.

* `Editing`: edits that can fail half-way; `Editing.on_addFilter`: adding a filter is no such edit.
* `Condition.Gives`: the condition that an entry stands for.
* `Edit.on_hasOperands`, `Criteria.edited_hasOperands`: one edit, and any number of them.
* `filters_added_whole`: what is added, what is refused, and what holds of all edited criteria.
-/

namespace CriteriaSql

open List (Forall₂)

/-! ## Editing in place -/

/-- Edits of criteria. What was changed before a fault stays changed. -/
abbrev Editing (α : Type) : Type := ExceptT Invalid (StateM Criteria) α

namespace Editing

/-- Goes on with a result, or stops with its fault. -/
def ofExcept (r : Except Invalid α) : Editing α := ExceptT.mk (pure r)

def push (connective : Connective) (p : Predicate) : Editing Unit := modify (·.push connective p)

/-- Makes the conditions of a filter, and adds them one after another. -/
def addFilter (connective : Connective) (f : Filter) : Editing Unit := do
  let conditions ← ofExcept f.predicates
  conditions.forM (push connective)

/-- The outcome of an edit, and the criteria that it leaves behind. -/
def on (edit : Editing Unit) (c : Criteria) : Except Invalid Unit × Criteria := edit.run.run c

theorem on_forM_push (connective : Connective) (ps : List Predicate) (c : Criteria) :
    Editing.on (ps.forM (push connective)) c = (.ok (), c.pushAll connective ps) := by
  induction ps generalizing c with
  | nil => rfl
  | cons p ps ih => exact ih (c.push connective p)

/-- **Adding a filter changes nothing before it fails.** -/
theorem on_addFilter (connective : Connective) (f : Filter) (c : Criteria) :
    (addFilter connective f).on c =
      match c.addFilter connective f with
      | .ok d => (.ok (), d)
      | .error cause => (.error cause, c) := by
  have hbind : (addFilter connective f).on c =
      match f.predicates with
      | .ok ps => Editing.on (ps.forM (push connective)) c
      | .error cause => (.error cause, c) := by
    unfold addFilter
    cases f.predicates <;> rfl
  rw [hbind, Criteria.addFilter]
  cases f.predicates with
  | ok ps => exact on_forM_push connective ps c
  | error cause => rfl

end Editing

/-! ## What a filter adds -/

/-- The condition that an entry stands for: an operator, or equality with a bare value. -/
inductive Condition.Gives : String × Condition → Predicate → Prop
  | operator (field : String) (op : Operator) : Gives (field, .operator op) (.field field op)
  | literal (field : String) (v : Value) : Gives (field, .literal v) (.field field (.compare .eq v))

namespace Filter

/-- A filter gives one condition for each entry that counts. -/
theorem conditions_given (f : Filter) :
    Forall₂ Condition.Gives (f.entries.filter (·.2.Usable)) f.conditions := by
  rw [conditions_eq, List.forall₂_map_right_iff]
  change Forall₂ _ f.counting f.counting
  rw [List.forall₂_same]
  rintro ⟨field, c⟩ -
  cases c with
  | literal v => exact .literal field v
  | operator op => exact .operator field op

/-- A filter is refused for a field that asks for membership in an empty list. -/
theorem predicates_eq_error {f : Filter} {cause : Invalid} (h : f.predicates = .error cause) :
    ∃ field, cause = .emptyList field ∧ (field, .operator (.inList [])) ∈ f.entries := by
  rw [predicates, mapM_ofField] at h
  cases hfind : f.usable.find? (·.2 = .inList []) with
  | none =>
    rw [hfind] at h
    cases h
  | some e =>
    rw [hfind] at h
    have hlist := List.find?_some hfind
    rw [decide_eq_true_eq] at hlist
    obtain ⟨c, hc, hop⟩ := mem_usable.1 (List.mem_of_find?_eq_some hfind)
    rw [hlist, Condition.operator?_eq_inList] at hop
    rw [hop] at hc
    exact ⟨e.1, (Except.error.inj h).symm, hc⟩

end Filter

namespace Criteria

/-- The conditions under a connective. -/
def under (connective : Connective) (c : Criteria) : List Predicate :=
  match connective with
  | .and => c.conjuncts
  | .or => c.disjuncts

theorem under_pushAll (connective other : Connective) (ps : List Predicate) (c : Criteria) :
    (c.pushAll connective ps).under other =
      if other = connective then c.under connective ++ ps else c.under other := by
  cases connective with
  | and => cases other <;> simp [pushAll_and, under]
  | or => cases other <;> simp [pushAll_or, under]

/-! ## Edited criteria -/

/-- No condition asks for membership in an empty list. -/
def HasOperands (c : Criteria) : Prop := ∀ connective, ∀ field, .field field (.inList []) ∉ c.under connective

theorem hasOperands_empty : HasOperands .empty := by
  intro connective field h
  cases connective <;> cases h

theorem HasOperands.pushAll {c : Criteria} (h : c.HasOperands) {ps : List Predicate}
    (hps : ∀ field, .field field (.inList []) ∉ ps) (connective : Connective) :
    (c.pushAll connective ps).HasOperands := by
  intro other field hmem
  rw [under_pushAll] at hmem
  split at hmem
  · rcases List.mem_append.1 hmem with hmem | hmem
    · exact h connective field hmem
    · exact hps field hmem
  · exact h other field hmem

theorem HasOperands.push {c : Criteria} (h : c.HasOperands) {p : Predicate}
    (hp : ∀ field, p ≠ .field field (.inList [])) (connective : Connective) :
    (c.push connective p).HasOperands := by
  have hps : ∀ field, .field field (.inList []) ∉ [p] := by
    intro field hmem
    exact hp field (List.mem_singleton.1 hmem).symm
  exact h.pushAll hps connective

/-- **As many placeholders as values**, at every offset. -/
theorem paramCount_eq (c : Criteria) (k : Nat) : c.paramCount = (c.compile k).values.length := by
  unfold paramCount compile
  induction c.toList with
  | nil => rfl
  | cons p ps ih =>
    have hp : p.2.paramCount = p.2.operands.length := by
      obtain ⟨connective, p⟩ := p
      cases p with
      | raw sql => rfl
      | field name op => cases op <;> rfl
    rw [List.foldr_cons, ih, List.flatMap_cons, List.length_append, hp]

end Criteria

/-- An edit of criteria. A condition is made first, and one that is refused is not added. -/
inductive Edit where
  | condition (connective : Connective) (field : String) (op : Operator)
  | raw (connective : Connective) (sql : String)
  | filter (connective : Connective) (f : Filter)
  | clear

/-- Carries out an edit. -/
def Edit.carryOut : Edit → Editing Unit
  | .condition connective field op => do
    let p ← Editing.ofExcept (Predicate.ofField field op)
    Editing.push connective p
  | .raw connective sql => Editing.push connective (.raw sql)
  | .filter connective f => Editing.addFilter connective f
  | .clear => set Criteria.empty

/-- The criteria after edits one after another, none of which need succeed. -/
def Criteria.edited (edits : List Edit) : Criteria :=
  edits.foldl (fun c edit => (edit.carryOut.on c).2) .empty

/-- **An edit lets no empty list in**, whether it succeeds or fails. -/
theorem Edit.on_hasOperands (edit : Edit) {c : Criteria} (h : c.HasOperands) :
    (edit.carryOut.on c).2.HasOperands := by
  cases edit with
  | condition connective field op =>
    by_cases hop : op = .inList []
    -- the condition is refused before it is added
    · have hsame : ((Edit.condition connective field op).carryOut.on c).2 = c := by rw [hop]; rfl
      rw [hsame]
      exact h
    · have hadded : ((Edit.condition connective field op).carryOut.on c).2 =
          c.push connective (.field field op) := by
        simp only [carryOut, Filter.ofField_eq hop]
        rfl
      rw [hadded]
      refine h.push ?_ connective
      intro other heq
      exact hop (Predicate.field.inj heq).2
  | raw connective sql =>
    refine h.push ?_ connective
    intro field heq
    cases heq
  | filter connective f =>
    unfold carryOut
    rw [Editing.on_addFilter]
    by_cases hf : f.HasEmptyList
    · obtain ⟨field, hrefused⟩ := Criteria.addFilter_refused connective c hf
      rw [hrefused]
      exact h
    · rw [Criteria.addFilter_eq connective c hf]
      refine h.pushAll ?_ connective
      intro field hmem
      obtain ⟨e, he, heq⟩ := List.mem_map.1 hmem
      exact hf (Filter.hasEmptyList_iff.2 ⟨e, he, (Predicate.field.inj heq).2⟩)
  | clear => exact Criteria.hasOperands_empty

theorem Criteria.edited_hasOperands (edits : List Edit) : (edited edits).HasOperands := by
  suffices hfold : ∀ c : Criteria, c.HasOperands →
      (edits.foldl (fun c edit => (edit.carryOut.on c).2) c).HasOperands from hfold _ hasOperands_empty
  induction edits with
  | nil =>
    intro c h
    exact h
  | cons edit edits ih =>
    intro c h
    exact ih _ (edit.on_hasOperands h)

/-! ## The main result -/

/-- **Filters are added whole or not at all.** A filter with an empty list, whatever stands around it, is refused
for a field with such a list, and criteria that are edited in place stay as they were. Any other filter adds to the
sequence of its connective one condition for each entry that counts, in order, and nothing to the other sequence.
So criteria edited in any way have no empty list, and announce as many placeholders as they bind values. -/
theorem filters_added_whole :
    (∀ (c : Criteria) (connective : Connective) (f : Filter),
      (f.HasEmptyList → ∃ field, (field, .operator (.inList [])) ∈ f.entries ∧
        c.addFilter connective f = .error (.emptyList field) ∧
        (Editing.addFilter connective f).on c = (.error (.emptyList field), c)) ∧
      (¬ f.HasEmptyList → ∃ d added, c.addFilter connective f = .ok d ∧
        (Editing.addFilter connective f).on c = (.ok (), d) ∧
        Forall₂ Condition.Gives (f.entries.filter (·.2.Usable)) added ∧
        d.under connective = c.under connective ++ added ∧
        ∀ other ≠ connective, d.under other = c.under other)) ∧
    ∀ (edits : List Edit) (k : Nat), (Criteria.edited edits).HasOperands ∧
      (Criteria.edited edits).paramCount = ((Criteria.edited edits).compile k).values.length := by
  refine ⟨fun c connective f => ⟨?_, ?_⟩, ?_⟩
  · intro h
    obtain ⟨cause, hrefused⟩ := Filter.predicates_refused h
    obtain ⟨field, hcause, hentry⟩ := Filter.predicates_eq_error hrefused
    have hadd : c.addFilter connective f = .error (.emptyList field) := by
      rw [Criteria.addFilter, hrefused, hcause, Result.map_error]
    exact ⟨field, hentry, hadd, by rw [Editing.on_addFilter, hadd]⟩
  · intro h
    have hadd := Criteria.addFilter_eq connective c h
    refine ⟨_, f.conditions, hadd, by rw [Editing.on_addFilter, hadd], f.conditions_given, ?_, ?_⟩
    · rw [Criteria.under_pushAll, if_pos rfl]
    · intro other hother
      rw [Criteria.under_pushAll, if_neg hother]
  · intro edits k
    exact ⟨Criteria.edited_hasOperands edits, Criteria.paramCount_eq _ k⟩

/-- A filter with an empty list between two other entries, and one of which a bare value does not count. Edits go
on behind the one that is refused. -/
theorem filters_added_whole_users :
    let c : Criteria := ⟨[.raw "TRUE"], [.field "age" (.compare .lt (.int 3))]⟩
    let refused : Filter :=
      ⟨[("name", .literal (.text "Ann")), ("_id", .operator (.inList [])), ("age", .literal (.int 0))]⟩
    let accepted : Filter := ⟨[("name", .literal .null), ("_id", .operator (.inList [.int 1, .int 2])),
      ("age", .literal (.int 0))]⟩
    let edits : List Edit := [.filter .or accepted, .filter .and refused, .condition .and "_id" (.inList []),
      .raw .and "TRUE"]
    (Editing.addFilter .or refused).on c = (.error (.emptyList "_id"), c) ∧
      (∃ d, (Editing.addFilter .or accepted).on c = (.ok (), d) ∧ d.conjuncts = [.raw "TRUE"]) ∧
      (Criteria.edited edits).paramCount = ((Criteria.edited edits).compile 7).values.length := by
  intro c refused accepted edits
  obtain ⟨hfilters, hedits⟩ := filters_added_whole
  refine ⟨?_, ?_, (hedits edits 7).2⟩
  · obtain ⟨field, hentry, -, hin⟩ := (hfilters c .or refused).1 (by decide)
    have hfield : field = "_id" := by simpa [refused] using hentry
    rw [hin, hfield]
  · obtain ⟨d, added, -, hin, -, -, hother⟩ := (hfilters c .or accepted).2 (by decide)
    exact ⟨d, hin, hother .and (by decide)⟩

end CriteriaSql
