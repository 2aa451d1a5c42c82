import CriteriaSql.Proofs.Assembly
import CriteriaSql.Proofs.Marker

/-!
# Numbering of compiled statements

The compiler records placeholder numbers as it binds values, and prints them into the text on its
own. Both are the numbers after the offset, one for each value.

* `Statement.NumberedAfter`: the recorded numbers; every built statement has them (`buildFrom_numbered`).
* `Statement.Scanned`: scanning the text finds the recorded numbers; so it does for statements built
  from text without dollar signs (`buildFrom_scanned`).
* `build_eq`: the check of the numbering never fails.
-/

namespace CriteriaSql

namespace Statement

/-- The placeholders of a statement are the numbers after `k`, one for each value. -/
def NumberedAfter (k : Nat) (s : Statement) : Prop :=
  s.placeholders = List.range' (k + 1) s.values.length

/-- Scanning the fragments of a statement finds the placeholders that it records. -/
def Scanned (s : Statement) : Prop := s.fragments.flatMap markers = s.placeholders

/-- **The fragments have the markers of the whole text.** -/
theorem flatMap_markers (s : Statement) : s.fragments.flatMap markers = markers s.sql := by
  rw [sql, markers_intercalate ⟨by decide, by decide, by decide⟩]

theorem ofParts_eq_iff {s : Statement} : ofParts s.fragments s.values = s ↔ s.Scanned := by
  obtain ⟨fragments, values, placeholders⟩ := s
  simp [ofParts, Scanned]

theorem NumberedAfter.append {k : Nat} {s t : Statement} (hs : s.NumberedAfter k)
    (ht : t.NumberedAfter (k + s.values.length)) : (s ++ t).NumberedAfter k := by
  unfold NumberedAfter at hs ht ⊢
  rw [append_placeholders, append_values, List.length_append, hs, ht,
    show k + s.values.length + 1 = k + 1 + s.values.length by omega, List.range'_append_1]

theorem numberedAfter_bound (k : Nat) (fragments : List String) (values : List Value) :
    (bound fragments values (k + 1)).NumberedAfter k := rfl

theorem numberedAfter_ofFragments (k : Nat) (fragments : List String) :
    (ofFragments fragments).NumberedAfter k := rfl

theorem Scanned.append {s t : Statement} (hs : s.Scanned) (ht : t.Scanned) : (s ++ t).Scanned := by
  unfold Scanned at hs ht ⊢
  rw [append_fragments, append_placeholders, List.flatMap_append, hs, ht]

theorem flatMap_markers_plain {fragments : List String} (h : ∀ f ∈ fragments, Plain f) :
    fragments.flatMap markers = [] := by
  rw [List.flatMap_eq_nil_iff]
  exact fun f hf => markers_plain (h f hf)

theorem scanned_ofFragments {fragments : List String} (h : ∀ f ∈ fragments, Plain f) :
    (ofFragments fragments).Scanned := flatMap_markers_plain h

theorem checkFrom_range' (position n : Nat) : checkFrom position (List.range' position n) = .ok () := by
  induction n generalizing position with
  | zero => rfl
  | succ n ih => rw [List.range'_succ, checkFrom, if_pos rfl, ih]

/-- Statements numbered from one pass the check. -/
theorem validate_eq {s : Statement} (h : s.NumberedAfter 0) : s.validate = .ok () := by
  unfold NumberedAfter at h
  rw [validate, h, List.length_range', if_pos rfl, Nat.zero_add, checkFrom_range']

end Statement

/-! ## Plain texts -/

theorem plain_toString (n : Nat) : Plain (toString n) := by
  unfold Plain
  rw [Nat.toString_eq_repr, Nat.toList_repr]
  intro h
  exact absurd (Nat.isDigit_of_mem_toDigits (by decide) (by decide) h) (by decide)

theorem plain_intercalate {sep : String} (hs : Plain sep) {texts : List String} (h : ∀ t ∈ texts, Plain t) :
    Plain (sep.intercalate texts) := by
  induction texts with
  | nil => rw [String.intercalate_nil]; decide
  | cons t texts ih =>
    have ht : Plain t := h t List.mem_cons_self
    cases texts with
    | nil => rw [String.intercalate_singleton]; exact ht
    | cons u texts =>
      rw [String.intercalate_cons_cons, plain_append, plain_append]
      exact ⟨⟨ht, hs⟩, ih fun t' ht' => h t' (List.mem_cons_of_mem t ht')⟩

/-! ## Criteria -/

/-- The trusted text of a condition: the name of its field, or all of it. -/
def Predicate.trusted : Predicate → String
  | .field name _ => name
  | .raw sql => sql

/-- **A condition's text holds the placeholders of its operands**, in order. -/
theorem Predicate.markers_sql {p : Predicate} (h : Plain p.trusted) {k : Nat}
    (hk : k + p.operands.length < Statement.numberLimit) :
    Statement.markers (p.sql k) = List.range' (k + 1) p.operands.length := by
  cases p with
  | field name op =>
    have hn : Plain name := h
    cases op with
    | compare c v =>
      have hc : Plain c.sql := by cases c <;> decide
      have hp : Plain (name ++ " " ++ c.sql ++ " ") := by
        simp only [plain_append]; exact ⟨⟨⟨hn, by decide⟩, hc⟩, by decide⟩
      have hk' : k + 1 < Statement.numberLimit := hk
      -- the marker stands at the end of the text
      rw [sql, Statement.markers_plain_append hp, Statement.markers_placeholder hk']
      rfl
    | inList values =>
      have hp : Plain (name ++ " IN (") := plain_append.2 ⟨hn, by decide⟩
      have hk' : k + 1 + values.length ≤ Statement.numberLimit := by
        have : k + values.length < Statement.numberLimit := hk
        omega
      -- the bracket after the list ends its last marker
      rw [sql, Statement.markers_append (by decide), Statement.markers_plain_append hp,
        Statement.markers_placeholders ⟨by decide, by decide, by decide⟩ hk',
        Statement.markers_plain (by decide), List.append_nil]
      rfl
    | like pattern =>
      have hp : Plain ("LOWER(" ++ name ++ ") LIKE LOWER(") := by
        simp only [plain_append]; exact ⟨⟨by decide, hn⟩, by decide⟩
      have hk' : k + 1 < Statement.numberLimit := hk
      rw [sql, Statement.markers_append (by decide), Statement.markers_plain_append hp,
        Statement.markers_placeholder hk', Statement.markers_plain (by decide)]
      rfl
  | raw sql => exact Statement.markers_plain h

namespace Criteria

/-- All trusted text of criteria is plain. -/
def IsPlain (c : Criteria) : Prop := ∀ p ∈ c.conjuncts ++ c.disjuncts, Plain p.trusted

theorem IsPlain.toList {c : Criteria} (h : c.IsPlain) : ∀ p ∈ c.toList, Plain p.2.trusted := by
  rintro ⟨connective, p⟩ hp
  refine h p ?_
  unfold Criteria.toList at hp
  simp only [List.mem_append, List.mem_map, Prod.mk.injEq] at hp ⊢
  rcases hp with ⟨q, hq, -, rfl⟩ | ⟨q, hq, -, rfl⟩
  · exact .inl hq
  · exact .inr hq

/-- Conditions that follow others go on with the numbers. -/
theorem markers_following {ps : List (Connective × Predicate)} (h : ∀ p ∈ ps, Plain p.2.trusted) {k : Nat}
    (hk : k + (ps.flatMap (·.2.operands)).length < Statement.numberLimit) :
    (following k ps).flatMap Statement.markers =
      List.range' (k + 1) (ps.flatMap (·.2.operands)).length := by
  induction ps generalizing k with
  | nil => rfl
  | cons p ps ih =>
    obtain ⟨connective, p⟩ := p
    have hc : Plain connective.sql := by cases connective <;> decide
    -- the operands of the first condition shift the numbers of the others
    rw [List.flatMap_cons, List.length_append] at hk ⊢
    have hk' : k + (p.operands.length + (ps.flatMap (·.2.operands)).length) < Statement.numberLimit := hk
    rw [following, List.flatMap_cons, List.flatMap_cons, Statement.markers_plain hc, List.nil_append,
      Predicate.markers_sql (h _ List.mem_cons_self) (by omega),
      ih (fun q hq => h q (List.mem_cons_of_mem _ hq)) (by omega),
      show k + p.operands.length + 1 = k + 1 + p.operands.length by omega, List.range'_append_1]

/-- **A compiled clause is numbered after its offset**, one number for each value. -/
theorem markers_compile {c : Criteria} (h : c.IsPlain) {k : Nat}
    (hk : k + (c.compile k).values.length < Statement.numberLimit) :
    (c.compile k).fragments.flatMap Statement.markers =
      List.range' (k + 1) (c.compile k).values.length := by
  unfold compile at hk ⊢
  have ht := h.toList
  revert ht hk
  cases c.toList with
  | nil => intro _ _; rfl
  | cons p ps =>
    -- the conditions are numbered as if the first connective stood, and it has no marker
    intro hk ht
    have hf := markers_following ht hk
    obtain ⟨connective, p⟩ := p
    have hc : Plain connective.sql := by cases connective <;> decide
    rw [following, List.flatMap_cons, Statement.markers_plain hc, List.nil_append] at hf
    rw [clause, List.flatMap_cons, Statement.markers_plain (by decide), List.nil_append, hf]

end Criteria

/-! ## Builders -/

namespace Builder

/-- All trusted text of a builder is plain. -/
structure IsPlain (b : Builder) : Prop where
  name : Plain b.schema.name
  fields : ∀ f ∈ b.schema.fields, Plain f
  table : Plain b.table
  projection : ∀ f ∈ b.projection.getD [], Plain f
  criteria : b.criteria.IsPlain
  joins : ∀ j ∈ b.joins, Plain j.table ∧ Plain j.condition
  sorts : ∀ s ∈ b.sorts, Plain s.field
  columns : ∀ c ∈ b.assignments.columns, Plain c
  staging : ∀ a ∈ b.staging, Plain a

theorem withCriteria_numbered {k : Nat} {b : Builder} {s : Statement} (h : s.NumberedAfter k) :
    (b.withCriteria k s).NumberedAfter k :=
  h.append (Statement.numberedAfter_bound _ _ _)

theorem withCriteria_scanned {k : Nat} {b : Builder} {s : Statement} (h : s.Scanned)
    (hc : b.criteria.IsPlain) (hk : k + (b.withCriteria k s).values.length < Statement.numberLimit) :
    (b.withCriteria k s).Scanned := by
  refine h.append ?_
  rw [withCriteria_values, List.length_append] at hk
  exact Criteria.markers_compile hc (by rw [Criteria.compile]; simp only; omega)

theorem updateHead_numbered (k : Nat) (b : Builder) : (b.updateHead k).NumberedAfter k :=
  (Statement.numberedAfter_bound _ _ _).append (Statement.numberedAfter_ofFragments _ _)

/-- **Every built statement is numbered after its offset.** -/
theorem buildFrom_numbered {k : Nat} {b : Builder} {s : Statement} (h : b.buildFrom k = .ok s) :
    s.NumberedAfter k := by
  obtain ⟨-, ⟨-, p, -, rfl⟩ | ⟨-, -, rfl⟩ | ⟨-, -, rfl⟩⟩ := buildFrom_cases h
  · have hw : (b.withCriteria k (b.selectHead p)).NumberedAfter k :=
      withCriteria_numbered (Statement.numberedAfter_ofFragments _ _)
    exact hw.append (Statement.numberedAfter_ofFragments _ _)
  · exact withCriteria_numbered (updateHead_numbered k b)
  · exact withCriteria_numbered (Statement.numberedAfter_ofFragments _ _)

/-- The check of the numbering never fails. -/
theorem build_eq (b : Builder) : b.build = (b.buildFrom 0).mapError .validation := by
  unfold build
  cases h : b.buildFrom 0 with
  | error cause => rfl
  | ok s =>
    rw [Result.mapError_ok, Result.bind_ok, validated, Statement.validate_eq (buildFrom_numbered h)]
    rfl

/-! ### The parts of a statement, scanned -/

theorem plain_projectionText {b : Builder} (h : b.IsPlain) {p : String} (hp : b.projectionText = .ok p) :
    Plain p := by
  have hf := h.projection
  unfold projectionText at hp
  split at hp
  · rw [← Except.ok.inj hp]; decide
  · cases hp
  · next fields _ heq =>
    rw [heq, Option.getD_some] at hf
    rw [← Except.ok.inj hp]
    exact plain_intercalate (by decide) hf

/-- The head of a SELECT is plain. -/
theorem plain_selectHead {b : Builder} (h : b.IsPlain) {p : String} (hp : Plain p) :
    ∀ f ∈ (b.selectHead p).fragments, Plain f := by
  intro f hf
  rcases List.mem_cons.1 hf with rfl | hf
  · simp only [plain_append]
    exact ⟨⟨⟨by decide, hp⟩, by decide⟩, h.table⟩
  · obtain ⟨j, hj, hf⟩ := List.mem_flatMap.1 hf
    obtain ⟨ht, hc⟩ := h.joins j hj
    have hkind : Plain j.kind.sql := by cases j.kind <;> decide
    unfold Join.fragments at hf
    simp only [List.mem_cons, List.not_mem_nil, or_false] at hf
    rcases hf with rfl | rfl
    · simp only [plain_append]; exact ⟨⟨hkind, by decide⟩, ht⟩
    · simp only [plain_append]; exact ⟨by decide, hc⟩

theorem plain_sortFragments {sorts : List SortKey} (h : ∀ s ∈ sorts, Plain s.field) :
    ∀ f ∈ SortKey.fragments sorts, Plain f := by
  intro f hf
  cases sorts with
  | nil => simp [SortKey.fragments] at hf
  | cons s sorts =>
    rw [List.mem_singleton.1 hf, plain_append]
    refine ⟨by decide, plain_intercalate (by decide) ?_⟩
    intro t ht
    obtain ⟨s', hs', rfl⟩ := List.mem_map.1 ht
    have hd : Plain s'.direction.sql := by cases s'.direction <;> decide
    simp only [plain_append]
    exact ⟨⟨h s' hs', by decide⟩, hd⟩

theorem plain_pageFragments (p : Page) : ∀ f ∈ p.fragments, Plain f := by
  intro f hf
  unfold Page.fragments at hf
  rcases List.mem_append.1 hf with hf | hf <;> split at hf
  · rw [List.mem_singleton.1 hf]; exact plain_append.2 ⟨by decide, plain_toString _⟩
  · simp at hf
  · rw [List.mem_singleton.1 hf]; exact plain_append.2 ⟨by decide, plain_toString _⟩
  · simp at hf

/-- What follows the criteria of a SELECT is plain. -/
theorem plain_selectTail {b : Builder} (h : b.IsPlain) : ∀ f ∈ b.selectTail, Plain f := by
  intro f hf
  rcases List.mem_append.1 hf with hf | hf
  · exact plain_sortFragments h.sorts f hf
  · exact plain_pageFragments b.page f hf

/-- The name of a stage is plain behind its keyword. -/
theorem plain_staging {b : Builder} (h : b.IsPlain) {keyword : String} (hk : Plain keyword) :
    ∀ f ∈ b.staging.toList.map (keyword ++ ·), Plain f := by
  intro f hf
  obtain ⟨a, ha, rfl⟩ := List.mem_map.1 hf
  exact plain_append.2 ⟨hk, h.staging a (Option.mem_toList.1 ha)⟩

/-- The head of a DELETE is plain. -/
theorem plain_deleteHead {b : Builder} (h : b.IsPlain) : ∀ f ∈ b.deleteHead.fragments, Plain f := by
  intro f hf
  rcases List.mem_cons.1 hf with rfl | hf
  · exact plain_append.2 ⟨by decide, h.table⟩
  · exact plain_staging h (by decide) f hf

/-- The assignments of an UPDATE hold the placeholders of their values. -/
theorem markers_assignmentTexts {columns : List String} (h : ∀ c ∈ columns, Plain c) {k : Nat}
    (hk : k + columns.length < Statement.numberLimit) :
    (assignmentTexts k columns).flatMap Statement.markers = List.range' (k + 1) columns.length := by
  unfold assignmentTexts
  induction columns generalizing k with
  | nil => rfl
  | cons c columns ih =>
    have hc : Plain (c ++ " = ") := plain_append.2 ⟨h c List.mem_cons_self, by decide⟩
    rw [List.length_cons] at hk
    rw [List.length_cons, List.range'_succ, List.zip_cons_cons, List.map_cons, List.flatMap_cons,
      ih (fun c' hc' => h c' (List.mem_cons_of_mem c hc')) (by omega)]
    change Statement.markers (c ++ " = " ++ placeholder (k + 1)) ++ _ = _
    rw [Statement.markers_plain_append hc, Statement.markers_placeholder (by omega), List.singleton_append]

theorem updateHead_scanned {k : Nat} {b : Builder} (h : b.IsPlain)
    (hk : k + b.assignments.values.length < Statement.numberLimit) : (b.updateHead k).Scanned := by
  have hlen : b.assignments.values.length = b.assignments.columns.length := by
    rw [Record.values, Record.columns, List.length_map, List.length_map]
  have ht : Plain ("UPDATE " ++ b.table ++ " SET") := by
    simp only [plain_append]; exact ⟨⟨by decide, h.table⟩, by decide⟩
  refine Statement.Scanned.append ?_ (Statement.scanned_ofFragments (plain_staging h (by decide)))
  unfold Statement.Scanned Statement.bound
  rw [List.flatMap_cons, List.flatMap_cons, List.flatMap_nil, Statement.markers_plain ht, List.nil_append,
    List.append_nil, Statement.markers_intercalate ⟨by decide, by decide, by decide⟩,
    markers_assignmentTexts h.columns (by omega), hlen]

/-- **A statement built from plain text scans to its recorded numbers.** -/
theorem buildFrom_scanned {k : Nat} {b : Builder} {s : Statement} (hb : b.IsPlain)
    (h : b.buildFrom k = .ok s) (hk : k + s.values.length < Statement.numberLimit) : s.Scanned := by
  obtain ⟨-, ⟨-, p, hp, rfl⟩ | ⟨-, -, rfl⟩ | ⟨-, -, rfl⟩⟩ := buildFrom_cases h
  -- a selection: what follows the conditions binds nothing
  · have hw : (b.withCriteria k (b.selectHead p)).Scanned := by
      have hhead := Statement.scanned_ofFragments (plain_selectHead hb (plain_projectionText hb hp))
      refine withCriteria_scanned hhead hb.criteria ?_
      rw [Statement.append_values, List.length_append] at hk
      omega
    exact hw.append (Statement.scanned_ofFragments (plain_selectTail hb))
  -- an update: the assignments come before the conditions
  · refine withCriteria_scanned (updateHead_scanned hb ?_) hb.criteria hk
    have hv : (b.updateHead k).values = b.assignments.values := List.append_nil _
    rw [withCriteria_values, hv, List.length_append] at hk
    omega
  · exact withCriteria_scanned (Statement.scanned_ofFragments (plain_deleteHead hb)) hb.criteria hk

end Builder

end CriteriaSql
