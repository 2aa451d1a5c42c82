import CriteriaSql.Proofs.Relevance
import CriteriaSql.Proofs.Run
import CriteriaSql.Proofs.Trusted
import Mathlib.Data.List.DropRight

/-!
# What a SELECT is made of

A SELECT is written from the calls of its builder: projected fields, joins, conditions and sorts as they were
called, limit and offset as they were set last. Updated fields are not read, and a write reads none of the clauses
that only a SELECT has.

* `Schema.allowsProjection_iff`: the fields that are let through, by what follows their last point.
* `Call.joinTexts`, `Call.sortText?`: what a call that does not fail is written as.
* `History.projectedText`, `History.joinTexts`, `History.orderTexts`, `History.pageTexts`: the clauses of a history.
* `Builder.buildFrom_select`: a SELECT, part by part.
* `selections_follow_calls`: the whole SELECT, and the calls that a statement does not read.
-/

namespace CriteriaSql

/-! ## Projected fields -/

namespace Schema

/-- What follows the last point of a list of characters, or the whole list. -/
theorem rtakeWhile_eq_iff {l m : List Char} :
    l.rtakeWhile (· ≠ '.') = m ↔ '.' ∉ m ∧ (l = m ∨ ∃ before, l = before ++ '.' :: m) := by
  constructor
  · rintro rfl
    have hpoint : '.' ∉ l.rtakeWhile (· ≠ '.') := by
      intro hm
      have hne := List.mem_rtakeWhile_imp hm
      rw [decide_eq_true_eq] at hne
      exact hne rfl
    have hsplit : l.rdropWhile (· ≠ '.') ++ l.rtakeWhile (· ≠ '.') = l := List.rdropWhile_append_rtakeWhile
    refine ⟨hpoint, ?_⟩
    -- what stands before is empty, or it ends with a point
    by_cases hrest : l.rdropWhile (· ≠ '.') = []
    · rw [hrest, List.nil_append] at hsplit
      exact .inl hsplit.symm
    · have hlast : (l.rdropWhile (· ≠ '.')).getLast hrest = '.' := by
        have hnot := List.rdropWhile_last_not (· ≠ '.') l hrest
        rwa [decide_eq_true_eq, ne_eq, Classical.not_not] at hnot
      have hends := List.dropLast_append_getLast hrest
      rw [hlast] at hends
      refine .inr ⟨(l.rdropWhile (· ≠ '.')).dropLast, ?_⟩
      rw [List.append_cons, hends, hsplit]
  · rintro ⟨hpoint, hl⟩
    have hall : ∀ c ∈ m, decide (c ≠ '.') = true := fun c hc => decide_eq_true fun heq => hpoint (heq ▸ hc)
    rcases hl with rfl | ⟨before, rfl⟩
    · exact List.rtakeWhile_eq_self_iff.2 hall
    · have hreverse : ∀ c ∈ m.reverse, decide (c ≠ '.') = true := fun c hc => hall c (List.mem_reverse.1 hc)
      rw [List.rtakeWhile, List.reverse_append, List.reverse_cons, List.append_assoc,
        List.takeWhile_append_of_pos hreverse]
      simp

/-- **What follows the last point of a name**, or the whole name. -/
theorem unqualified_eq_iff {field bare : String} :
    unqualified field = bare ↔ '.' ∉ bare.toList ∧ (field = bare ∨ ∃ before, field = before ++ "." ++ bare) := by
  have htext : ∀ before : String, field.toList = before.toList ++ '.' :: bare.toList ↔
      field = before ++ "." ++ bare := by
    intro before
    rw [← String.toList_inj, String.toList_append, String.toList_append, List.append_assoc]
    exact Iff.rfl
  have hlist : unqualified field = bare ↔ field.toList.rtakeWhile (· ≠ '.') = bare.toList := by
    rw [← String.toList_inj, unqualified, String.toList_ofList]
    exact Iff.rfl
  rw [hlist, rtakeWhile_eq_iff, String.toList_inj]
  refine and_congr_right fun _ => or_congr_right ⟨?_, ?_⟩
  · rintro ⟨before, h⟩
    refine ⟨String.ofList before, (htext _).1 ?_⟩
    rw [String.toList_ofList]
    exact h
  · rintro ⟨before, h⟩
    exact ⟨before.toList, (htext before).2 h⟩

/-- **The fields that a projection may name**: a star, or a field of the schema with or without a table. -/
theorem allowsProjection_iff {schema : Schema} {field : String} :
    schema.allowsProjection field = true ↔ field = "*" ∨ ∃ bare ∈ schema.fields, '.' ∉ bare.toList ∧
      (field = bare ∨ ∃ before, field = before ++ "." ++ bare) := by
  unfold allowsProjection hasField
  rw [Bool.or_eq_true, decide_eq_true_eq, List.contains_iff_mem]
  refine or_congr_right ⟨fun h => ⟨_, h, unqualified_eq_iff.1 rfl⟩, ?_⟩
  rintro ⟨bare, hbare, h⟩
  rw [unqualified_eq_iff.2 h]
  exact hbare

end Schema

/-! ## The text of a call -/

namespace Call

/-- A join as it is written. -/
def joinTexts : Call → List String
  | .join kind table condition => [kind.sql ++ " JOIN " ++ table, "ON " ++ condition]
  | _ => []

/-- A sort as it is written. -/
def sortText? : Call → Option String
  | .sortBy field direction => some (field ++ " " ++ direction.sql)
  | _ => none

variable {policy : Policy} {call : Call}

/-- A call that does not fail adds the join that it names. -/
theorem join?_fragments (h : ¬ call.Fails policy) : call.join?.toList.flatMap Join.fragments = call.joinTexts := by
  cases call with
  | join kind table condition =>
    have htable : Text.isBlankText table = false :=
      Bool.eq_false_iff.2 fun hblank => h (.joinTable kind condition hblank)
    have hcondition : Text.isBlankText condition = false :=
      Bool.eq_false_iff.2 fun hblank => h (.joinCondition kind table hblank)
    have hmake : Join.make kind table condition = .ok ⟨kind, table, condition⟩ :=
      Join.make_eq_ok.2 ⟨htable, hcondition, rfl⟩
    rw [join?, hmake]
    rfl
  | _ => rfl

/-- A call that does not fail adds the sort that it names. -/
theorem sort?_text (h : ¬ call.Fails policy) :
    (call.sort?.map fun s => s.field ++ " " ++ s.direction.sql) = call.sortText? := by
  cases call with
  | sortBy field direction =>
    have hfield : Text.isBlankText field = false :=
      Bool.eq_false_iff.2 fun hblank => h (.sortField direction hblank)
    have hmake : SortKey.make field direction = .ok ⟨field, direction⟩ := SortKey.make_eq_ok.2 ⟨hfield, rfl⟩
    rw [sort?, hmake]
    rfl
  | _ => rfl

end Call

/-! ## The clauses of a history -/

namespace History

variable (schema : Schema) (h : History)

/-- The projection: a star, unless some call projects. -/
def projectedText : String :=
  match h.collected (Call.projected? schema) with
  | [] => "*"
  | lists => ", ".intercalate lists.flatten

/-- The joins in the order of their calls. -/
def joinTexts : List String := h.calls.flatMap fun made => made.2.joinTexts

/-- All sorts in the order of their calls, in one clause. -/
def orderTexts : List String :=
  match h.collected Call.sortText? with
  | [] => []
  | texts => ["ORDER BY " ++ ", ".intercalate texts]

/-- The last limit and the last offset, if they are positive. -/
def pageTexts : List String :=
  (((h.last? Call.limit?).filter (0 < ·)).toList.map fun n => "LIMIT " ++ toString n) ++
    ((h.last? Call.offset?).filter (0 < ·)).toList.map fun n => "OFFSET " ++ toString n

variable {schema h}

theorem joins_fragments (hu : h.Unfailing) :
    (h.collected Call.join?).flatMap Join.fragments = h.joinTexts := by
  unfold collected joinTexts
  rw [List.filterMap_eq_flatMap_toList, List.flatMap_assoc]
  exact List.flatMap_congr fun made hm => Call.join?_fragments (hu made hm)

theorem sorts_texts (hu : h.Unfailing) :
    ((h.collected Call.sort?).map fun s => s.field ++ " " ++ s.direction.sql) = h.collected Call.sortText? := by
  unfold collected
  rw [List.map_filterMap]
  exact List.filterMap_congr fun made hm => Call.sort?_text (hu made hm)

theorem sorts_fragments (hu : h.Unfailing) : SortKey.fragments (h.collected Call.sort?) = h.orderTexts := by
  unfold orderTexts
  rw [← sorts_texts hu]
  cases h.collected Call.sort? <;> rfl

/-- A clause with a number is left out where the number is zero or was never set. -/
theorem positive_texts (n : Option Nat) (text : Nat → String) :
    (if 0 < n.getD 0 then [text (n.getD 0)] else []) = (n.filter (0 < ·)).toList.map text := by
  cases n with
  | none => rfl
  | some n => by_cases hn : 0 < n <;> simp [Option.filter, hn]

theorem page_fragments : h.page.fragments = h.pageTexts := by
  unfold page Page.fragments pageTexts
  rw [← positive_texts, ← positive_texts]

end History

namespace Builder

variable {schema : Schema} {h : History}

theorem projectionText_gathered {p : String} (hp : (gathered schema h).projectionText = .ok p) :
    p = h.projectedText schema := by
  have hprojection : (gathered schema h).projection = h.projection schema := rfl
  unfold projectionText at hp
  rw [hprojection, History.projection] at hp
  unfold History.projectedText
  cases hc : h.collected (Call.projected? schema) with
  | nil =>
    rw [hc] at hp
    exact (Except.ok.inj hp).symm
  | cons fields lists =>
    rw [hc] at hp
    -- some field has been let through
    cases hl : (fields :: lists).flatten with
    | nil =>
      simp only [hl] at hp
      cases hp
    | cons field rest =>
      show p = ", ".intercalate (fields :: lists).flatten
      simp only [hl] at hp
      rw [hl]
      exact (Except.ok.inj hp).symm

/-- **A SELECT, part by part.** -/
theorem buildFrom_select {k : Nat} {s : Statement} (hk : h.kind = .select)
    (hs : (gathered schema h).buildFrom k = .ok s) :
    let criteria := Criteria.compile k ⟨h.given .and, h.given .or⟩
    s.fragments = ["SELECT " ++ h.projectedText schema ++ " FROM " ++ h.table schema] ++ h.joinTexts ++
        criteria.fragments ++ h.orderTexts ++ h.pageTexts ∧
      s.values = criteria.values ∧ s.placeholders = List.range' (k + 1) criteria.values.length := by
  obtain ⟨hfailure, ⟨-, p, hp, rfl⟩ | ⟨hupdate, -⟩ | ⟨hdelete, -⟩⟩ := buildFrom_cases hs
  · have hu : h.Unfailing := History.fault?_eq_none.1 hfailure
    have hhead : ((gathered schema h).selectHead p).fragments =
        ["SELECT " ++ h.projectedText schema ++ " FROM " ++ h.table schema] ++ h.joinTexts := by
      rw [← projectionText_gathered hp, ← History.joins_fragments hu]
      rfl
    have htail : (gathered schema h).selectTail = h.orderTexts ++ h.pageTexts := by
      rw [← History.sorts_fragments hu, ← History.page_fragments]
      rfl
    refine ⟨?_, ?_, ?_⟩
    · rw [Statement.append_fragments, withCriteria_fragments, hhead, List.append_assoc _ h.orderTexts, ← htail]
      rfl
    · rw [Statement.append_values, withCriteria_values]
      exact List.append_nil _
    · rw [Statement.append_placeholders]
      exact List.append_nil _
  · cases hk.symm.trans hupdate
  · cases hk.symm.trans hdelete

end Builder

/-! ## The main result -/

/-- **Selections follow the calls.** A SELECT that is built after any chain of calls has the projected fields that
are let through, the last table, the joins, all conditions, the sorts and the last positive limit and offset of
the calls since the builder was last emptied, in this order; of a list of fields, the star and the fields of the
schema are let through, with or without a table before them. A call that does not fail makes no difference to a
statement whose kind does not read it. -/
theorem selections_follow_calls (schema : Schema) (policy : Policy) :
    let run := (Builder.ofSchema schema policy).run
    (∀ calls k s, (History.ofCalls policy calls).kind = .select → (run calls).buildFrom k = .ok s →
      let h := History.ofCalls policy calls
      let criteria := Criteria.compile k ⟨h.given .and, h.given .or⟩
      s.fragments = ["SELECT " ++ h.projectedText schema ++ " FROM " ++ h.table schema] ++ h.joinTexts ++
          criteria.fragments ++ h.orderTexts ++ h.pageTexts ∧
        s.values = criteria.values ∧ s.placeholders = List.range' (k + 1) criteria.values.length) ∧
    (∀ field, schema.allowsProjection field = true ↔ field = "*" ∨ ∃ bare ∈ schema.fields, '.' ∉ bare.toList ∧
      (field = bare ∨ ∃ before, field = before ++ "." ++ bare)) ∧
    (∀ prior (call : Call) later kind k, call.Unused kind → ¬ call.Fails (run prior).policy →
      (run (prior ++ call :: later)).kind = kind →
      (run (prior ++ call :: later)).buildFrom k = (run (prior ++ later)).buildFrom k) := by
  intro run
  refine ⟨?_, fun field => Schema.allowsProjection_iff, ?_⟩
  · intro calls k s hk hs h
    have hrun : run calls = Builder.gathered schema h := Builder.run_gathered schema policy calls
    rw [hrun] at hs
    exact Builder.buildFrom_select hk hs
  · intro prior call later kind k hunused hf hk
    exact Builder.buildFrom_unused prior later k hunused hf hk

/-- A selection of users with every clause, of which an unknown field is left out and the limit is set twice; and
an update of users that is sorted in vain. -/
theorem selections_follow_calls_users :
    let calls := [.limit 5, .select ["name", "u.age", "email"], .join .left "orders o" "o.user = u._id",
      .fromTable "users u", .sortBy "name" .asc, .selectUnchecked [], .offset 20, .limit 0,
      .predicate .and (.field "age" (.compare .gt (.int 3))), .sortBy "age" .desc]
    let run := (Builder.ofSchema .users .ignore).run
    let updating := [.setFields ⟨[("age", .int 30)]⟩]
    (∃ s, (run calls).buildFrom 2 = .ok s ∧
      s.fragments = ["SELECT name, u.age, * FROM users u", "LEFT JOIN orders o", "ON o.user = u._id", "WHERE",
        "age > $3", "ORDER BY name ASC, age DESC", "OFFSET 20"] ∧ s.values = [.int 3] ∧ s.placeholders = [3]) ∧
    Schema.users.allowsProjection "public.users.age" = true ∧
    (run ([.prepare .update] ++ .sortBy "name" .asc :: updating)).buildFrom 0 =
      (run ([.prepare .update] ++ updating)).buildFrom 0 := by
  intro calls run updating
  obtain ⟨hselect, hallows, hunused⟩ := selections_follow_calls .users .ignore
  refine ⟨⟨_, rfl, hselect calls 2 _ rfl rfl⟩, ?_, ?_⟩
  · exact (hallows "public.users.age").2 (.inr ⟨"age", by decide, by decide, .inr ⟨"public.users", rfl⟩⟩)
  · have hkind : StatementKind.update ≠ .select := by decide
    refine hunused [.prepare .update] _ updating .update 0 (.sortBy hkind "name" .asc) ?_ rfl
    exact Call.fault?_eq_none.1 rfl

end CriteriaSql
