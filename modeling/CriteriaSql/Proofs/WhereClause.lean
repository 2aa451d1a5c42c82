import CriteriaSql.Proofs.Filter
import CriteriaSql.Proofs.Staged

/-!
# The WHERE clause of a filter

The text that a filter's conditions have in a statement, said without the compiler: one condition for
each entry that counts, in order, numbered on from entry to entry.

* `Filter.counting`, `Filter.conditionTexts`, `Filter.operands`: the entries, their texts, their values.
* `fragments_clause`, `spaced_clause`: the compiled clause is made of these texts.
* `Builder.restrict_eq`, `restrict_refused`: a builder that takes a filter.
* `Builder.buildFrom_first`, `Staged.selection_accepted`, `Staged.stage_accepted`: the selection of the first
  row that matches.
-/

namespace CriteriaSql

/-! ## Joined texts -/

/-- Texts with a space before each. -/
def spaced (texts : List String) : String := String.join (texts.map (" " ++ ·))

theorem spaced_nil : spaced [] = "" := String.join_nil

theorem spaced_cons (t : String) (texts : List String) : spaced (t :: texts) = " " ++ t ++ spaced texts := by
  rw [spaced, List.map_cons, String.join_cons]
  rfl

theorem spaced_append (a b : List String) : spaced (a ++ b) = spaced a ++ spaced b := by
  rw [spaced, List.map_append, String.join_append]
  rfl

/-- Every text but the first has the separator before it. -/
theorem intercalate_cons (sep t : String) (texts : List String) :
    sep.intercalate (t :: texts) = t ++ String.join (texts.map (sep ++ ·)) := by
  induction texts generalizing t with
  | nil => rw [String.intercalate_singleton, List.map_nil, String.join_nil, String.append_empty]
  | cons u texts ih =>
    rw [String.intercalate_cons_cons, ih, List.map_cons, String.join_cons]
    simp only [String.append_assoc]

theorem Statement.sql_cons {s : Statement} {t : String} {texts : List String} (h : s.fragments = t :: texts) :
    s.sql = t ++ spaced texts := by
  rw [sql, h, intercalate_cons]
  rfl

theorem Statement.sql_append {s t : Statement} (hs : s.fragments ≠ []) (ht : t.fragments ≠ []) :
    (s ++ t).sql = s.sql ++ " " ++ t.sql :=
  String.intercalate_append_of_ne_nil hs ht

theorem Statement.sql_wrapped {s : Statement} (hs : s.fragments ≠ []) (first last : String) :
    (s.wrapped first last).sql = first ++ " " ++ s.sql ++ " " ++ last := by
  have hinner : " ".intercalate (s.fragments ++ [last]) = s.sql ++ " " ++ last := by
    rw [String.intercalate_append_of_ne_nil hs (List.cons_ne_nil _ _), String.intercalate_singleton]
    rfl
  change " ".intercalate (first :: (s.fragments ++ [last])) = _
  rw [String.intercalate_cons_of_ne_nil (List.append_ne_nil_of_left_ne_nil hs _), hinner]
  simp only [String.append_assoc]

/-! ## Entries that count -/

/-- The operator that a condition stands for. -/
def Condition.asked : Condition → Operator
  | .literal v => .compare .eq v
  | .operator op => op

theorem Condition.operator?_eq (c : Condition) : c.operator? = if c.Usable then some c.asked else none := by
  cases c with
  | literal v => cases hv : v.isFalsy <;> simp [operator?, Usable, asked, hv]
  | operator op => simp [operator?, Usable, asked]

namespace Filter

/-- The entries that count, in order. -/
def counting (f : Filter) : List (String × Condition) := f.entries.filter (·.2.Usable)

/-- The operands of the entries that count, one after another. -/
def operands (f : Filter) : List Value := f.counting.flatMap (·.2.asked.operands)

/-- One condition for each entry, whose placeholders go on from one entry to the next. -/
def conditionTexts (k : Nat) : List (String × Condition) → List String
  | [] => []
  | (field, c) :: rest =>
    (Predicate.field field c.asked).sql k :: conditionTexts (k + c.asked.operands.length) rest

/-- The fragments of a filter: the texts of its entries with AND between them, none if no entry counts. -/
def whereFragments (f : Filter) : List String :=
  match conditionTexts 0 f.counting with
  | [] => []
  | text :: texts => "WHERE" :: text :: texts.flatMap fun t => ["AND", t]

/-- The text of a filter after a statement's head, empty if no entry counts. -/
def whereText (f : Filter) : String :=
  if f.counting = [] then "" else " WHERE " ++ " AND ".intercalate (conditionTexts 0 f.counting)

theorem usable_eq (f : Filter) : f.usable = f.counting.map fun e => (e.1, e.2.asked) := by
  unfold usable counting
  induction f.entries with
  | nil => rfl
  | cons e es ih =>
    rw [List.filterMap_cons, List.filter_cons, Condition.operator?_eq]
    by_cases h : e.2.Usable
    · rw [if_pos h, if_pos (decide_eq_true h), List.map_cons, ← ih]
      rfl
    · rw [if_neg h, if_neg (by rw [decide_eq_false h]; decide)]
      exact ih

theorem counting_ne_nil {f : Filter} : f.counting ≠ [] ↔ ∃ e ∈ f.entries, e.2.Usable := by
  rw [← usable_ne_nil, usable_eq, ne_eq, ne_eq, List.map_eq_nil_iff]

theorem conditions_eq (f : Filter) :
    f.conditions = f.counting.map fun e => .field e.1 e.2.asked := by
  rw [conditions, usable_eq, List.map_map]
  rfl

/-- Without an empty list, every entry that counts binds a value. -/
theorem operands_ne_nil {f : Filter} (h : ¬ f.HasEmptyList) (hc : f.counting ≠ []) : f.operands ≠ [] := by
  obtain ⟨⟨field, c⟩, he⟩ := List.exists_mem_of_ne_nil _ hc
  have hm : (field, c) ∈ f.entries := (List.mem_filter.1 he).1
  -- only a list can bind nothing, and then it is empty
  have hne : c.asked.operands ≠ [] := by
    intro hnil
    cases c with
    | literal v => cases hnil
    | operator op =>
      cases op with
      | compare c v => cases hnil
      | like p => cases hnil
      | inList vs =>
        change vs = [] at hnil
        exact h ⟨_, hm, by rw [hnil]⟩
  obtain ⟨v, hv⟩ := List.exists_mem_of_ne_nil _ hne
  exact List.ne_nil_of_mem (List.mem_flatMap.2 ⟨_, he, hv⟩)

/-! ## The compiled clause -/

/-- The conditions of entries, each with AND before it. -/
def joined (es : List (String × Condition)) : List (Connective × Predicate) :=
  es.map fun e => (.and, .field e.1 e.2.asked)

theorem following_joined (k : Nat) (es : List (String × Condition)) :
    Criteria.following k (joined es) = (conditionTexts k es).flatMap fun t => ["AND", t] := by
  induction es generalizing k with
  | nil => rfl
  | cons e es ih =>
    obtain ⟨field, c⟩ := e
    unfold joined at ih ⊢
    rw [List.map_cons, Criteria.following, ih, conditionTexts, List.flatMap_cons]
    rfl

theorem toList_conditions (f : Filter) : (Criteria.mk f.conditions []).toList = joined f.counting := by
  rw [Criteria.toList, List.map_nil, List.append_nil, conditions_eq, List.map_map]
  rfl

/-- **The compiled clause has the fragments of the filter.** -/
theorem fragments_clause (f : Filter) :
    ((Criteria.mk f.conditions []).compile 0).fragments = f.whereFragments := by
  unfold Criteria.compile whereFragments
  rw [toList_conditions]
  cases hc : f.counting with
  | nil => rfl
  | cons e es =>
    obtain ⟨field, c⟩ := e
    have hrest := following_joined (0 + c.asked.operands.length) es
    unfold joined at hrest ⊢
    simp only [List.map_cons, Criteria.clause, Predicate.operands, conditionTexts]
    rw [hrest]

/-- Texts with AND before each. -/
theorem spaced_and (texts : List String) :
    spaced (texts.flatMap fun t => ["AND", t]) = String.join (texts.map (" AND " ++ ·)) := by
  have hand : " AND " = " " ++ "AND" ++ " " := by decide
  induction texts with
  | nil => rfl
  | cons t texts ih =>
    rw [List.flatMap_cons, spaced_append, spaced_cons, spaced_cons, spaced_nil, ih, List.map_cons,
      String.join_cons, hand]
    simp only [String.append_assoc, String.append_empty]

/-- **The fragments of a filter make its text.** -/
theorem spaced_clause (f : Filter) : spaced f.whereFragments = f.whereText := by
  unfold whereFragments whereText
  cases hc : f.counting with
  | nil => rfl
  | cons e es =>
    obtain ⟨field, c⟩ := e
    have hwhere : " WHERE " = " " ++ "WHERE" ++ " " := by decide
    rw [if_neg (List.cons_ne_nil _ _), conditionTexts, intercalate_cons, ← spaced_and, hwhere]
    simp only [spaced_cons, String.append_assoc]

theorem values_conditions (f : Filter) :
    ((Criteria.mk f.conditions []).compile 0).values = f.operands := by
  unfold Criteria.compile operands
  rw [toList_conditions, joined, List.flatMap_map]
  rfl

end Filter

/-! ## Builders -/

namespace Builder

/-- A builder without conditions takes those of a filter. -/
theorem restrict_eq {b : Builder} (hb : b.criteria = .empty) {f : Filter} (h : ¬ f.HasEmptyList) :
    b.restrict .and f = { b with criteria := ⟨f.conditions, []⟩ } := by
  rw [restrict, Criteria.addFilter_eq .and _ h, hb, Criteria.pushAll_and]
  rfl

theorem restrict_refused (b : Builder) (connective : Connective) {f : Filter} (h : f.HasEmptyList) :
    ∃ field, b.restrict connective f = b.fail (.emptyList field) := by
  obtain ⟨field, hf⟩ := Criteria.addFilter_refused connective b.criteria h
  exact ⟨field, by rw [restrict, hf]; rfl⟩

variable {b : Builder} {f : Filter}

/-- A SELECT of the first row that a filter admits. -/
theorem buildFrom_first {p : String} (hfailure : b.failure = none) (hkind : b.kind = .select)
    (hprojection : b.projectionText = .ok p) (hjoins : b.joins = []) (hsorts : b.sorts = [])
    (hpage : b.page = ⟨1, 0⟩) (hcriteria : b.criteria = ⟨f.conditions, []⟩) :
    ∃ s, b.buildFrom 0 = .ok s ∧ s.values = f.operands ∧
      s.fragments = ("SELECT " ++ p ++ " FROM " ++ b.table) :: (f.whereFragments ++ ["LIMIT 1"]) := by
  -- no joins and no order: there are a head, the clause and the page
  have htail : b.selectTail = ["LIMIT 1"] := by
    rw [selectTail, hsorts, hpage]
    decide
  have hhead : (b.selectHead p).fragments = ["SELECT " ++ p ++ " FROM " ++ b.table] := by
    rw [selectHead, hjoins]
    rfl
  unfold buildFrom
  rw [hfailure, hkind]
  simp only [buildSelect, hprojection, Result.map_ok]
  refine ⟨_, rfl, ?_, ?_⟩
  · change [] ++ (b.criteria.compile 0).values ++ [] = _
    rw [hcriteria, Filter.values_conditions, List.nil_append, List.append_nil]
  · rw [Statement.append_fragments, withCriteria_fragments, hhead, htail, hcriteria]
    change _ ++ ((Criteria.mk f.conditions []).compile 0).fragments ++ ["LIMIT 1"] = _
    rw [Filter.fragments_clause]
    rfl

/-- The text of such a selection. -/
theorem sql_first {s : Statement} {head : String}
    (h : s.fragments = head :: (f.whereFragments ++ ["LIMIT 1"])) :
    s.sql = head ++ f.whereText ++ " LIMIT 1" := by
  rw [Statement.sql_cons h, spaced_append, Filter.spaced_clause, ← String.append_assoc]
  rfl

end Builder

/-! ## Stages -/

namespace Staged

/-- The selection of a row, by itself. -/
theorem selection_accepted (schema : Schema) {f : Filter} (h : ¬ f.HasEmptyList) :
    ∃ s, (selection schema f).buildFrom 0 = .ok s ∧ s.values = f.operands ∧
      s.fragments = ("SELECT _id FROM " ++ schema.name) :: (f.whereFragments ++ ["LIMIT 1"]) := by
  -- the calls, put into one record
  have hb : selection schema f =
      { (Builder.ofSchema schema .ignore).selectUnchecked [rowId] with
        criteria := ⟨f.conditions, []⟩, page := ⟨1, 0⟩ } := by
    rw [selection, Builder.restrict_eq rfl h]
    rfl
  have hp : (selection schema f).projectionText = .ok rowId := by
    rw [hb]
    exact congrArg Except.ok String.intercalate_singleton
  have htable : (selection schema f).table = schema.name := by rw [hb]; rfl
  have hhead : "SELECT " ++ rowId ++ " FROM " = "SELECT _id FROM " := by decide
  have hfirst := Builder.buildFrom_first (b := selection schema f) (f := f) (by rw [hb]; rfl)
    (by rw [hb]; rfl) hp (by rw [hb]; rfl) (by rw [hb]; rfl) (by rw [hb]) (by rw [hb])
  rwa [htable, hhead] at hfirst

theorem stage_accepted (schema : Schema) {f : Filter} (h : ¬ f.HasEmptyList) :
    ∃ t, stage schema f = .ok t ∧ t.values = f.operands ∧
      t.sql = "WITH cte AS ( SELECT _id FROM " ++ schema.name ++ f.whereText ++ " LIMIT 1 )" := by
  obtain ⟨s, hs, hvalues, hfragments⟩ := selection_accepted schema h
  refine ⟨wrap s, by rw [stage_eq, hs]; rfl, hvalues, ?_⟩
  have hopen : "WITH cte AS ( SELECT _id FROM " = "WITH " ++ rowAlias ++ " AS (" ++ " " ++ "SELECT _id FROM " := by
    decide
  have hclose : " LIMIT 1 )" = " LIMIT 1" ++ (" " ++ ")") := by decide
  rw [wrap, Statement.sql_wrapped (Builder.fragments_ne_nil hs), Builder.sql_first hfragments, hopen, hclose]
  simp only [String.append_assoc]

theorem stage_refused (schema : Schema) {f : Filter} (h : f.HasEmptyList) :
    ∃ cause, stage schema f = .error (.validation cause) := by
  obtain ⟨field, hf⟩ :=
    Builder.restrict_refused ((Builder.ofSchema schema .ignore).selectUnchecked [rowId]) .and h
  refine ⟨.emptyList field, ?_⟩
  rw [stage_eq, selection, hf]
  rfl

end Staged

end CriteriaSql
