import CriteriaSql.Proofs.Numbering
import CriteriaSql.Staged

/-!
# Writes of a single row, taken apart

A staged write is the selection followed by the write that is numbered after it. The numbering fits
by construction, so the checks inside never fail.

* `stage_eq`, `finish_eq`: the two halves without their checks.
* `update_eq_ok`, `delete_eq_ok`: what a staged write consists of.
-/

namespace CriteriaSql

theorem Builder.validated_eq {s : Statement} (h : s.NumberedAfter 0) : Builder.validated s = .ok s := by
  rw [Builder.validated, Statement.validate_eq h, Result.mapError_ok, Result.map_ok]

theorem Statement.NumberedAfter.wrapped {k : Nat} {s : Statement} (h : s.NumberedAfter k)
    (first last : String) : (s.wrapped first last).NumberedAfter k := h

namespace Staged

/-- What opens and closes the selection. -/
def wrap (s : Statement) : Statement := s.wrapped ("WITH " ++ rowAlias ++ " AS (") ")"

/-- The condition that joins a write to its selection. -/
theorem joinBack_text (table : String) :
    rowAlias ++ "." ++ rowId ++ " = " ++ table ++ "." ++ rowId = "cte._id = " ++ table ++ "._id" := by
  have hfirst : rowAlias ++ "." ++ rowId ++ " = " = "cte._id = " := by decide
  have hlast : "._id" = "." ++ rowId := by decide
  rw [hfirst, hlast, String.append_assoc]

theorem stage_eq (schema : Schema) (criteria : Filter) :
    stage schema criteria =
      (((selection schema criteria).buildFrom 0).mapError .validation).map wrap := by
  rw [stage, Builder.build_eq]
  rfl

theorem stage_numbered {schema : Schema} {criteria : Filter} {s : Statement}
    (h : stage schema criteria = .ok s) : s.NumberedAfter 0 := by
  rw [stage_eq] at h
  obtain ⟨t, ht, rfl⟩ := Result.map_eq_ok.1 h
  exact (Builder.buildFrom_numbered (Result.mapError_eq_ok.1 ht)).wrapped _ _

/-- **The write follows the selection**, numbered after it. -/
theorem finish_eq {schema : Schema} {s : Statement} (h : s.NumberedAfter 0) (target : Builder) :
    finish schema s target =
      (((write schema target).buildFrom s.values.length).mapError .validation).map (s ++ ·) := by
  unfold finish
  cases hw : (write schema target).buildFrom s.values.length with
  | error cause => rfl
  | ok w =>
    -- the halves are numbered through, so the check passes
    have hn : w.NumberedAfter (0 + s.values.length) := by
      rw [Nat.zero_add]; exact Builder.buildFrom_numbered hw
    rw [Result.mapError_ok, Result.bind_ok, Builder.validated_eq (h.append hn), Result.map_ok]

theorem stage_fragments_ne_nil {schema : Schema} {criteria : Filter} {s : Statement}
    (h : stage schema criteria = .ok s) : s.fragments ≠ [] := by
  rw [stage_eq] at h
  obtain ⟨t, -, rfl⟩ := Result.map_eq_ok.1 h
  exact List.cons_ne_nil _ _

theorem append_numbered {schema : Schema} {criteria : Filter} {target : Builder} {t w : Statement}
    (ht : stage schema criteria = .ok t)
    (hw : (write schema target).buildFrom t.values.length = .ok w) : (t ++ w).NumberedAfter 0 := by
  have hn : w.NumberedAfter (0 + t.values.length) := by
    rw [Nat.zero_add]; exact Builder.buildFrom_numbered hw
  exact (stage_numbered ht).append hn

theorem update_eq_ok {schema : Schema} {criteria : Filter} {updates : Record} {s : Statement} :
    update schema criteria updates = .ok s ↔
      ∃ t w, stage schema criteria = .ok t ∧
        (write schema ((target schema .update).setFields updates)).buildFrom t.values.length = .ok w ∧
        s = t ++ w := by
  rw [update, Result.bind_eq_ok]
  constructor
  · rintro ⟨t, ht, hf⟩
    rw [finish_eq (stage_numbered ht)] at hf
    obtain ⟨w, hw, rfl⟩ := Result.map_eq_ok.1 hf
    exact ⟨t, w, ht, Result.mapError_eq_ok.1 hw, rfl⟩
  · rintro ⟨t, w, ht, hw, rfl⟩
    refine ⟨t, ht, ?_⟩
    rw [finish_eq (stage_numbered ht), hw, Result.mapError_ok, Result.map_ok]

theorem delete_eq_ok {schema : Schema} {criteria : Filter} {s : Statement} :
    delete schema criteria = .ok s ↔
      ∃ t w, stage schema criteria = .ok t ∧ t.values ≠ [] ∧
        (write schema (target schema .delete)).buildFrom t.values.length = .ok w ∧ s = t ++ w := by
  rw [delete, Result.bind_eq_ok]
  constructor
  · rintro ⟨t, ht, hf⟩
    split at hf
    · cases hf
    · next hne =>
      rw [finish_eq (stage_numbered ht)] at hf
      obtain ⟨w, hw, rfl⟩ := Result.map_eq_ok.1 hf
      exact ⟨t, w, ht, fun he => hne (List.isEmpty_iff.2 he), Result.mapError_eq_ok.1 hw, rfl⟩
  · rintro ⟨t, w, ht, hne, hw, rfl⟩
    refine ⟨t, ht, ?_⟩
    rw [if_neg (fun he => hne (List.isEmpty_iff.1 he)), finish_eq (stage_numbered ht), hw,
      Result.mapError_ok, Result.map_ok]

/-! ## Faults -/

theorem stage_eq_error {schema : Schema} {criteria : Filter} {e : Error}
    (h : stage schema criteria = .error e) : ∃ cause, e = .validation cause := by
  rw [stage_eq, Result.map_eq_error] at h
  obtain ⟨cause, -, rfl⟩ := Result.mapError_eq_error.1 h
  exact ⟨cause, rfl⟩

theorem finish_eq_error {schema : Schema} {s : Statement} (hs : s.NumberedAfter 0) {target : Builder}
    {e : Error} (h : finish schema s target = .error e) : ∃ cause, e = .validation cause := by
  rw [finish_eq hs, Result.map_eq_error] at h
  obtain ⟨cause, -, rfl⟩ := Result.mapError_eq_error.1 h
  exact ⟨cause, rfl⟩

/-- A staged update is refused for its arguments only. -/
theorem update_eq_error {schema : Schema} {criteria : Filter} {updates : Record} {e : Error}
    (h : update schema criteria updates = .error e) : ∃ cause, e = .validation cause := by
  unfold update at h
  cases ht : stage schema criteria with
  | error e' =>
    rw [ht] at h
    obtain ⟨cause, rfl⟩ := stage_eq_error ht
    exact ⟨cause, (Except.error.inj h).symm⟩
  | ok t => rw [ht] at h; exact finish_eq_error (stage_numbered ht) h

/-- A staged deletion is refused for its arguments only. -/
theorem delete_eq_error {schema : Schema} {criteria : Filter} {e : Error}
    (h : delete schema criteria = .error e) : ∃ cause, e = .validation cause := by
  unfold delete at h
  cases ht : stage schema criteria with
  | error e' =>
    rw [ht] at h
    obtain ⟨cause, rfl⟩ := stage_eq_error ht
    exact ⟨cause, (Except.error.inj h).symm⟩
  | ok t =>
    rw [ht, Result.bind_ok] at h
    split at h
    · exact ⟨_, (Except.error.inj h).symm⟩
    · exact finish_eq_error (stage_numbered ht) h

end Staged

end CriteriaSql
