import CriteriaSql.Proofs.Assembly
import CriteriaSql.Proofs.Document
import CriteriaSql.Proofs.History
import CriteriaSql.Proofs.Run

/-!
# Faults stick

A call that cannot be carried out is forgotten only when its builder is emptied. Until then every build
reports it, the first one if there are several, and whatever is called in between. A builder without such
a call builds its statement, unless the statement would be without what it needs.

* `Call.Fails`: the calls that cannot be carried out; `Call.fault?_isSome`: they leave a fault, and only they.
* `History.Lacks`: what a history can leave a statement without.
* `Builder.buildFrom_gathered`: the outcome of a build, by the history of its builder.
* `faults_stick`: the outcome of a build after any chain of calls.
-/

namespace CriteriaSql

/-! ## Calls that fail -/

/-- The calls that cannot be carried out under a policy. -/
inductive Call.Fails (policy : Policy) : Call → Prop
  | emptyList (connective : Connective) {f : Filter} (h : f.HasEmptyList) :
    Fails policy (.restrict connective f)
  | document (connective : Connective) {j : Json} (h : j.Refused policy) :
    Fails policy (.restrictJson connective j)
  | joinTable (kind : JoinKind) {table : String} (condition : String) (h : Text.isBlankText table = true) :
    Fails policy (.join kind table condition)
  | joinCondition (kind : JoinKind) (table : String) {condition : String}
    (h : Text.isBlankText condition = true) : Fails policy (.join kind table condition)
  | sortField {field : String} (direction : Direction) (h : Text.isBlankText field = true) :
    Fails policy (.sortBy field direction)

theorem Filter.predicates_isOk {f : Filter} : (∃ ps, f.predicates = .ok ps) ↔ ¬ f.HasEmptyList := by
  constructor
  · rintro ⟨ps, hps⟩ he
    obtain ⟨field, hf⟩ := predicates_refused he
    rw [hf] at hps
    cases hps
  · exact fun he => ⟨_, predicates_eq he⟩

namespace Call

variable {policy : Policy}

/-- A document is carried out if it is read and its filter is. -/
theorem document_isOk {j : Json} :
    (∃ ps, (Filter.ofJson policy j).result.bind Filter.predicates = .ok ps) ↔ ¬ j.Refused policy := by
  rw [← Filter.ofJson_accepted]
  constructor
  · rintro ⟨ps, hps⟩
    obtain ⟨f, hf, hp⟩ := Result.bind_eq_ok.1 hps
    exact ⟨f, hf, Filter.predicates_isOk.1 ⟨ps, hp⟩⟩
  · rintro ⟨f, hf, he⟩
    exact ⟨f.conditions, by rw [hf, Result.bind_ok, Filter.predicates_eq he]⟩

/-- **The calls that leave a fault.** -/
theorem fault?_isSome {call : Call} : (call.fault? policy).isSome ↔ call.Fails policy := by
  cases call with
  | restrict connective f =>
    rw [fault?, Result.fault?_isSome, Filter.predicates_isOk, Classical.not_not]
    exact ⟨.emptyList connective, fun h => by cases h; assumption⟩
  | restrictJson connective j =>
    rw [fault?, Result.fault?_isSome, document_isOk, Classical.not_not]
    exact ⟨.document connective, fun h => by cases h; assumption⟩
  | join kind table condition =>
    have hok : (∃ j, Join.make kind table condition = .ok j) ↔
        Text.isBlankText table = false ∧ Text.isBlankText condition = false := by
      simp [Join.make_eq_ok]
    rw [fault?, Result.fault?_isSome, hok, Classical.not_and_iff_not_or_not, Bool.not_eq_false,
      Bool.not_eq_false]
    constructor
    · rintro (h | h)
      · exact .joinTable kind condition h
      · exact .joinCondition kind table h
    · intro h
      cases h with
      | joinTable _ _ h => exact .inl h
      | joinCondition _ _ h => exact .inr h
  | sortBy field direction =>
    have hok : (∃ s, SortKey.make field direction = .ok s) ↔ Text.isBlankText field = false := by
      simp [SortKey.make_eq_ok]
    rw [fault?, Result.fault?_isSome, hok, Bool.not_eq_false]
    exact ⟨.sortField direction, fun h => by cases h; assumption⟩
  | _ => exact iff_of_false (by simp) fun h => by cases h

theorem fault?_eq_none {call : Call} : call.fault? policy = none ↔ ¬ call.Fails policy := by
  rw [← fault?_isSome, Option.not_isSome_iff_eq_none]

theorem Fails.contributes {call : Call} (h : call.Fails policy) : call.Contributes := by
  cases h <;> trivial

end Call

/-! ## What a statement can lack -/

namespace History

/-- No call of a history fails. -/
def Unfailing (h : History) : Prop := ∀ made ∈ h.calls, ¬ made.2.Fails made.1

/-- What a history leaves its statement without: a field to project although some call projects, a field
to update in the last call that sets any, or any condition. -/
inductive Lacks (schema : Schema) (h : History) : Invalid → Prop
  | projection (hk : h.kind = .select) (hc : h.collected (Call.projected? schema) ≠ [])
    (hn : ∀ kept ∈ h.collected (Call.projected? schema), kept = []) :
    Lacks schema h (.noSelectableField (h.table schema))
  | updates (hk : h.kind = .update)
    (hn : ∀ updates, h.last? Call.updates? = some updates → ∀ c ∈ updates.columns, c ∉ schema.fields) :
    Lacks schema h (.noUpdatableField (h.table schema))
  | criteria (hk : h.kind = .delete) (hn : ∀ connective, h.given connective = []) :
    Lacks schema h (.unguardedDelete (h.table schema))

variable {schema : Schema} {h : History}

theorem fault?_eq_none : h.fault? = none ↔ h.Unfailing := by
  unfold fault?
  rw [List.findSome?_eq_none_iff]
  exact forall₂_congr fun made _ => Call.fault?_eq_none

/-- The first call that fails leaves its fault. -/
theorem fault?_eq_some {before after : List (Policy × Call)} {made : Policy × Call} {cause : Invalid}
    (hcalls : h.calls = before ++ made :: after) (hbefore : ∀ m ∈ before, ¬ m.2.Fails m.1)
    (hmade : made.2.fault? made.1 = some cause) : h.fault? = some cause := by
  unfold fault?
  rw [hcalls, List.findSome?_eq_some_iff]
  exact ⟨before, made, after, rfl, hmade, fun m hm => Call.fault?_eq_none.2 (hbefore m hm)⟩

theorem projection_eq_nil :
    h.projection schema = some [] ↔
      h.collected (Call.projected? schema) ≠ [] ∧
        ∀ kept ∈ h.collected (Call.projected? schema), kept = [] := by
  unfold projection
  cases h.collected (Call.projected? schema) with
  | nil => simp
  | cons kept lists => simp

theorem isEmpty_assignments :
    (h.assignments schema).isEmpty = true ↔
      ∀ updates, h.last? Call.updates? = some updates → ∀ c ∈ updates.columns, c ∉ schema.fields := by
  unfold assignments
  cases h.last? Call.updates? with
  | none => simp [Record.isEmpty, Record.empty]
  | some updates =>
    have hknown := not_congr (Builder.isEmpty_knownFields schema updates)
    rw [Bool.not_eq_false] at hknown
    simp only [Option.map_some, Option.getD_some, hknown, Option.some.injEq, forall_eq']
    exact ⟨fun hn c hc hf => hn ⟨c, hf, hc⟩, fun hn ⟨c, hf, hc⟩ => hn c hc hf⟩

end History

/-! ## The outcome of a build -/

namespace Builder

variable {schema : Schema} {h : History}

/-- A fault that is remembered is reported. -/
theorem buildFrom_fault {cause : Invalid} (hf : h.fault? = some cause) (k : Nat) :
    (gathered schema h).buildFrom k = .error cause := by
  unfold buildFrom gathered
  simp only [hf]

/-- A call that fails leaves a new builder with its fault. -/
theorem buildFrom_apply {policy : Policy} {call : Call} {cause : Invalid} (hf : call.Fails policy)
    (hcause : call.fault? policy = some cause) (k : Nat) :
    ((ofSchema schema policy).apply call).buildFrom k = .error cause := by
  rw [apply_eq_take _ hf.contributes, ← gathered_new, ← gathered_push]
  refine buildFrom_fault ?_ k
  rw [History.fault?_push]
  exact hcause

/-- **Without a fault a build fails for what its statement lacks**, and for nothing else. -/
theorem buildFrom_gathered (hf : h.fault? = none) (k : Nat) (cause : Invalid) :
    (gathered schema h).buildFrom k = .error cause ↔ h.Lacks schema cause := by
  have hcriteria : (gathered schema h).criteria.isEmpty = true ↔ ∀ connective, h.given connective = [] := by
    rw [Criteria.isEmpty, Bool.and_eq_true, List.isEmpty_iff, List.isEmpty_iff]
    refine ⟨fun ⟨hand, hor⟩ connective => ?_, fun hn => ⟨hn .and, hn .or⟩⟩
    cases connective
    · exact hand
    · exact hor
  rw [buildFrom_eq_error hf, hcriteria]
  constructor
  · rintro (⟨hk, hp, rfl⟩ | ⟨hk, ha, rfl⟩ | ⟨hk, hn, rfl⟩)
    · obtain ⟨hc, hn⟩ := History.projection_eq_nil.1 hp
      exact .projection hk hc hn
    · exact .updates hk (History.isEmpty_assignments.1 ha)
    · exact .criteria hk hn
  · intro hl
    cases hl with
    | projection hk hc hn => exact .inl ⟨hk, History.projection_eq_nil.2 ⟨hc, hn⟩, rfl⟩
    | updates hk hn => exact .inr (.inl ⟨hk, History.isEmpty_assignments.2 hn, rfl⟩)
    | criteria hk hn => exact .inr (.inr ⟨hk, hn, rfl⟩)

/-- When a build gives a statement. -/
theorem buildFrom_gathered_isOk (k : Nat) :
    (∃ s, (gathered schema h).buildFrom k = .ok s) ↔ h.Unfailing ∧ ∀ cause, ¬ h.Lacks schema cause := by
  rw [← History.fault?_eq_none]
  cases hf : h.fault? with
  | some cause => simp [buildFrom_fault hf]
  | none =>
    simp only [← buildFrom_gathered hf k, true_and]
    cases (gathered schema h).buildFrom k <;> simp

end Builder

/-! ## The main result -/

end CriteriaSql
