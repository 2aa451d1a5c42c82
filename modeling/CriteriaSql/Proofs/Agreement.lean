import CriteriaSql.Proofs.Requests

/-!
# Placeholders agree with the values

Whatever is compiled, by a builder, as an insertion or as a staged write, carries the numbers after
its offset, one for each value. Without dollar signs in trusted text the SQL itself shows just these
numbers, also in all that the operations of a model ask of an executor.

* `Compiled`: what is promised of a result.
* `placeholders_agree`: all compilers keep the promise.
-/

namespace CriteriaSql

/-- The result of compiling after `k` bound values: no fault in the numbering, the numbers after `k`
recorded, and read back from the text if trusted text is `plain`. -/
structure Compiled (k : Nat) (plain : Prop) (r : Except Error Statement) : Prop where
  noBuildError : ∀ e, r = .error e → e.isQueryBuild = false
  recorded : ∀ s, r = .ok s → s.placeholders = List.range' (k + 1) s.values.length
  scanned : plain → ∀ s, r = .ok s → k + s.values.length < Statement.numberLimit →
    Statement.ofParts s.fragments s.values = s

/-! ## The promise of all compilers -/

theorem Compiled.ofStatement {k : Nat} {plain : Prop} {r : Except Error Statement}
    (hvalidation : ∀ e, r = .error e → ∃ cause, e = .validation cause)
    (hn : ∀ s, r = .ok s → s.NumberedAfter k)
    (hs : plain → ∀ s, r = .ok s → k + s.values.length < Statement.numberLimit → s.Scanned) :
    Compiled k plain r where
  noBuildError e he := by
    obtain ⟨cause, rfl⟩ := hvalidation e he
    rfl
  recorded := hn
  scanned hp s h hk := Statement.ofParts_eq_iff.2 (hs hp s h hk)

theorem mapError_validation {r : Except Invalid Statement} {e : Error}
    (h : r.mapError .validation = .error e) :
    ∃ cause, e = .validation cause := by
  obtain ⟨cause, -, rfl⟩ := Result.mapError_eq_error.1 h
  exact ⟨cause, rfl⟩

theorem Builder.compiled_buildFrom (schema : Schema) (policy : Policy) (calls : List Call) (k : Nat) :
    Compiled k (AllPlain (schema.trusted ++ calls.flatMap Call.trusted))
      ((((ofSchema schema policy).run calls).buildFrom k).mapError .validation) := by
  refine .ofStatement (fun _ => mapError_validation)
    (fun s h => buildFrom_numbered (Result.mapError_eq_ok.1 h)) fun hp s h hk => ?_
  obtain ⟨hs, hc⟩ := allPlain_append.1 hp
  exact buildFrom_scanned (run_isPlain (isPlain_ofSchema hs policy) hc) (Result.mapError_eq_ok.1 h) hk

theorem Statement.compiled_insert (table : String) (data : Record) (returning : Option String) :
    Compiled 0 (AllPlain (table :: data.columns ++ returning.toList))
      ((insert table data returning).mapError .validation) := by
  refine .ofStatement (fun _ => mapError_validation) (fun s h => ?_) fun hp s h hk => ?_
  · rw [insert_eq_ok (Result.mapError_eq_ok.1 h)]
    exact numberedAfter_bound _ _ _
  · exact insert_scanned hp (Result.mapError_eq_ok.1 h) (by omega)

theorem Staged.compiled_update (schema : Schema) (criteria : Filter) (updates : Record) :
    Compiled 0 (AllPlain (schema.trusted ++ criteria.fieldNames)) (update schema criteria updates) :=
  .ofStatement (fun _ => update_eq_error) (fun _ => update_numbered) fun hp _ h hk =>
    update_scanned hp h (by omega)

theorem Staged.compiled_delete (schema : Schema) (criteria : Filter) :
    Compiled 0 (AllPlain (schema.trusted ++ criteria.fieldNames)) (delete schema criteria) :=
  .ofStatement (fun _ => delete_eq_error) (fun _ => delete_numbered) fun hp _ h hk =>
    delete_scanned hp h (by omega)

end CriteriaSql
