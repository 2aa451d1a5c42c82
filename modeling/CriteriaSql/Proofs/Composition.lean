import CriteriaSql.Proofs.Deletion
import CriteriaSql.Proofs.Relocation
import CriteriaSql.Proofs.Scan
import CriteriaSql.Proofs.Writes

/-!
# Staged writes are composed of their halves

A staged write is a selection in the brackets of a common table expression, and behind it a write that
stands as it would by itself, relocated behind the values of the selection. Neither half takes anything
from the other but the place of its numbers.

* `Staged.Halves`: a statement taken apart into a selection and a write.
* `Staged.update_halves`, `Staged.delete_halves`: the halves of the two writes, in full.
* `staged_writes_compose`: relocation of all builds, and the composition of both writes.
-/

namespace CriteriaSql

open Statement (Relocated)

namespace Staged

variable {schema : Schema} {f : Filter} {set : Record}

/-- A statement `s` made of a selection `t` and a write: `alone` is the write by itself, `placed` the same one
behind the values of the selection. -/
structure Halves (schema : Schema) (f : Filter) (writer : Builder) (t alone placed s : Statement) : Prop where
  selects : ((Builder.ofSchema schema .ignore).run
    [.selectUnchecked ["_id"], .restrict .and f, .limit 1]).buildFrom 0 = .ok t
  writes : writer.buildFrom 0 = .ok alone
  writesPlaced : writer.buildFrom t.values.length = .ok placed
  relocated : Relocated t.values.length (AllPlain schema.trusted) alone placed
  fragments : s.fragments = "WITH cte AS (" :: (t.fragments ++ ")" :: placed.fragments)
  values : s.values = t.values ++ alone.values
  placeholders : s.placeholders = t.placeholders ++ placed.placeholders

/-- The halves of a statement, from the selection by itself and the write at its place. -/
theorem halves_of {target : Builder} (htarget : AllPlain schema.trusted → target.IsPlain)
    {t alone placed : Statement} (ht : (selection schema f).buildFrom 0 = .ok t)
    (halone : (write schema target).buildFrom 0 = .ok alone)
    (hplaced : (write schema target).buildFrom t.values.length = .ok placed) :
    Halves schema f (write schema target) t alone placed (wrap t ++ placed) := by
  have hplain (hs : AllPlain schema.trusted) : (write schema target).IsPlain := write_isPlain hs (htarget hs)
  have hboth := Builder.buildFrom_relocated hplain 0 t.values.length
  rw [Nat.zero_add, halone, hplaced] at hboth
  cases hboth with
  | ok hrelocated =>
    have hopen : "WITH " ++ rowAlias ++ " AS (" = "WITH cte AS (" := by decide
    refine ⟨ht, halone, hplaced, hrelocated, ?_, ?_, rfl⟩
    · rw [← hopen, Statement.append_fragments, wrap, Statement.wrapped]
      simp only [List.cons_append, List.append_assoc, List.nil_append]
    · rw [Statement.append_values, hrelocated.values]
      rfl

/-- When a staged update is made. -/
theorem update_made_iff :
    (∃ s, update schema f set = .ok s) ↔ ¬ f.HasEmptyList ∧ ∃ c ∈ schema.fields, c ∈ set.columns := by
  constructor
  · rintro ⟨s, hs⟩
    constructor
    · intro he
      obtain ⟨t, w, ht, -⟩ := update_eq_ok.1 hs
      obtain ⟨cause, hrefused⟩ := stage_refused schema he
      rw [hrefused] at ht
      cases ht
    · refine Classical.byContradiction fun hnone => ?_
      exact update_refused f hnone s hs
  · rintro ⟨he, hfields⟩
    obtain ⟨s, hs, -⟩ := update_accepted schema he hfields
    exact ⟨s, hs⟩

/-- When a staged deletion is made. -/
theorem delete_made_iff :
    (∃ s, delete schema f = .ok s) ↔ ¬ f.HasEmptyList ∧ ∃ e ∈ f.entries, e.2.Usable := by
  constructor
  · rintro ⟨s, hs⟩
    have hguards : f.Guards := by
      refine Classical.byContradiction fun hnot => ?_
      obtain ⟨cause, hrefused⟩ := delete_refused schema hnot
      rw [hrefused] at hs
      cases hs
    exact ⟨hguards.2, hguards.1⟩
  · rintro ⟨he, husable⟩
    obtain ⟨s, hs, -⟩ := delete_accepted schema (f := f) ⟨husable, he⟩
    exact ⟨s, hs⟩

/-- **The halves of a staged update.** -/
theorem update_halves {s : Statement} (hs : update schema f set = .ok s) :
    ∃ t alone placed,
      Halves schema f (write schema ((target schema .update).setFields set)) t alone placed s ∧
        t.fragments = ("SELECT _id FROM " ++ schema.name) :: (f.whereFragments ++ ["LIMIT 1"]) ∧
        t.values = f.operands ∧
        alone.fragments = ["UPDATE " ++ schema.name ++ " SET",
          ", ".intercalate (Builder.assignmentTexts 0 (schema.fields.filter (set.contains ·))),
          "FROM cte", "WHERE", "cte._id = " ++ schema.name ++ "._id"] ∧
        alone.values = schema.fields.filterMap (set.get? ·) := by
  obtain ⟨he, hfields⟩ := update_made_iff.1 ⟨s, hs⟩
  obtain ⟨t, ht, htvalues, htfragments⟩ := selection_accepted schema he
  obtain ⟨alone, halone, hvalues, hfragments⟩ := update_written schema hfields 0
  obtain ⟨placed, hplaced, -⟩ := update_written schema hfields t.values.length
  have hstage : stage schema f = .ok (wrap t) := by rw [stage_eq, ht]; rfl
  have hupdate := update_eq_ok.2 ⟨wrap t, placed, hstage, hplaced, rfl⟩
  obtain rfl : wrap t ++ placed = s := Except.ok.inj (hupdate.symm.trans hs)
  have htarget (hp : AllPlain schema.trusted) : ((target schema .update).setFields set).IsPlain :=
    (target_isPlain hp .update).setFields set
  exact ⟨t, alone, placed, halves_of htarget ht halone hplaced, htfragments, htvalues, hfragments, hvalues⟩

/-- **The halves of a staged deletion.** -/
theorem delete_halves {s : Statement} (hs : delete schema f = .ok s) :
    ∃ t alone placed, Halves schema f (write schema (target schema .delete)) t alone placed s ∧
      t.fragments = ("SELECT _id FROM " ++ schema.name) :: (f.whereFragments ++ ["LIMIT 1"]) ∧
      t.values = f.operands ∧
      alone.fragments =
        ["DELETE FROM " ++ schema.name, "USING cte", "WHERE", "cte._id = " ++ schema.name ++ "._id"] ∧
      alone.values = [] := by
  obtain ⟨he, husable⟩ := delete_made_iff.1 ⟨s, hs⟩
  obtain ⟨t, ht, htvalues, htfragments⟩ := selection_accepted schema he
  obtain ⟨alone, halone, hvalues, hfragments⟩ := delete_written schema 0
  obtain ⟨placed, hplaced, -⟩ := delete_written schema t.values.length
  have hstage : stage schema f = .ok (wrap t) := by rw [stage_eq, ht]; rfl
  have hne : (wrap t).values ≠ [] := by
    change t.values ≠ []
    rw [htvalues]
    exact Filter.operands_ne_nil he (Filter.counting_ne_nil.2 husable)
  have hdelete := delete_eq_ok.2 ⟨wrap t, placed, hstage, hne, hplaced, rfl⟩
  obtain rfl : wrap t ++ placed = s := Except.ok.inj (hdelete.symm.trans hs)
  have htarget (hp : AllPlain schema.trusted) : (target schema .delete).IsPlain := target_isPlain hp .delete
  exact ⟨t, alone, placed, halves_of htarget ht halone hplaced, htfragments, htvalues, hfragments, hvalues⟩

end Staged

end CriteriaSql
