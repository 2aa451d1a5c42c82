import CriteriaSql.Proofs.Staged
import CriteriaSql.Proofs.Trusted

/-!
# Insertions and staged writes are read back

Scanning an insertion or a staged write finds the numbers that it records, if no trusted text holds a
dollar sign. A staged write is scanned in two halves, of which the second is numbered after the first.

* `Statement.markers_sql`: the text of a scanned statement.
* `Statement.insert_scanned`, `Staged.update_scanned`, `Staged.delete_scanned`: the statements.
-/

namespace CriteriaSql

/-! ## Insertions -/

namespace Statement

theorem markers_sql {s : Statement} (h : s.NumberedAfter 0) (hs : s.Scanned) :
    markers s.sql = List.range' 1 s.values.length := by
  rw [← flatMap_markers]
  exact hs.trans h

theorem insert_eq_ok {table : String} {data : Record} {returning : Option String} {s : Statement}
    (h : insert table data returning = .ok s) :
    s = bound [insertText table data returning] data.values 1 := by
  unfold insert at h
  split at h
  · cases h
  · exact (Except.ok.inj h).symm

theorem plain_returningText {returning : Option String} (h : AllPlain returning.toList) :
    Plain (returningText returning) := by
  cases returning with
  | none => decide
  | some columns => exact plain_append.2 ⟨by decide, h _ List.mem_cons_self⟩

theorem insert_scanned {table : String} {data : Record} {returning : Option String} {s : Statement}
    (hp : AllPlain (table :: data.columns ++ returning.toList)) (h : insert table data returning = .ok s)
    (hk : s.values.length < numberLimit) : s.Scanned := by
  obtain ⟨hc, hr⟩ := allPlain_append.1 hp
  have ht : Plain table := hc _ List.mem_cons_self
  have hcols : ∀ c ∈ data.columns, Plain c := fun c hm => hc c (List.mem_cons_of_mem _ hm)
  have hlen : data.values.length = data.size := by
    rw [Record.values, Record.size, List.length_map]
  -- all text before the first marker
  have hhead : Plain ("INSERT INTO " ++ table ++ " (" ++ ",".intercalate data.columns ++ ") values (") := by
    simp only [plain_append]
    exact ⟨⟨⟨⟨by decide, ht⟩, by decide⟩, plain_intercalate (by decide) hcols⟩, by decide⟩
  rw [insert_eq_ok h] at hk ⊢
  change data.values.length < numberLimit at hk
  change [insertText table data returning].flatMap markers = List.range' 1 data.values.length
  unfold insertText
  rw [List.flatMap_singleton, String.append_assoc, String.append_assoc, markers_plain_append hhead,
    markers_append (endsNumber_append (by decide) (by decide)),
    markers_placeholders ⟨by decide, by decide, by decide⟩ (by omega),
    markers_plain (plain_append.2 ⟨by decide, plain_returningText hr⟩), List.append_nil, hlen]

end Statement

/-! ## Staged writes -/

namespace Staged

theorem selection_isPlain {schema : Schema} {criteria : Filter} (hs : AllPlain schema.trusted)
    (hc : AllPlain criteria.fieldNames) : (selection schema criteria).IsPlain := by
  have hid : AllPlain (Builder.starred [rowId]) := by decide
  exact { ((Builder.isPlain_ofSchema hs .ignore).project hid).restrict .and hc with }

theorem target_isPlain {schema : Schema} (hs : AllPlain schema.trusted) (kind : StatementKind) :
    (target schema kind).IsPlain :=
  (Builder.isPlain_ofSchema hs .ignore).prepare kind

theorem write_isPlain {schema : Schema} {target : Builder} (hs : AllPlain schema.trusted)
    (h : target.IsPlain) : (write schema target).IsPlain := by
  have halias : ∀ a ∈ (some rowAlias : Option String), Plain a := by
    intro a ha; rw [← Option.some.inj ha]; decide
  have hstaged : (target.staged rowAlias).IsPlain := { h with staging := halias }
  have hname : Plain schema.name := hs _ List.mem_cons_self
  have hjoin : Plain (joinBack schema).trusted := by
    unfold joinBack Predicate.trusted
    simp only [plain_append, hname, and_true]
    decide
  exact hstaged.predicate .and hjoin

theorem stage_scanned {schema : Schema} {criteria : Filter} (hs : AllPlain schema.trusted)
    (hc : AllPlain criteria.fieldNames) {s : Statement} (h : stage schema criteria = .ok s)
    (hk : s.values.length < Statement.numberLimit) : s.Scanned := by
  rw [stage_eq] at h
  obtain ⟨t, ht, rfl⟩ := Result.map_eq_ok.1 h
  have hsc : t.Scanned := Builder.buildFrom_scanned (selection_isPlain hs hc) (Result.mapError_eq_ok.1 ht)
    (by rw [Nat.zero_add]; exact hk)
  -- what is wrapped around the selection has no marker
  unfold Statement.Scanned at hsc ⊢
  change (("WITH " ++ rowAlias ++ " AS (") :: t.fragments ++ [")"]).flatMap Statement.markers = t.placeholders
  rw [List.cons_append, List.flatMap_cons, List.flatMap_append, hsc, Statement.markers_plain (by decide),
    List.flatMap_singleton, Statement.markers_plain (by decide), List.append_nil, List.nil_append]

/-- A selection followed by a write without dollar signs. -/
theorem append_scanned {schema : Schema} {criteria : Filter} {target : Builder} {t w : Statement}
    (hs : AllPlain schema.trusted) (hc : AllPlain criteria.fieldNames) (htarget : target.IsPlain)
    (ht : stage schema criteria = .ok t) (hw : (write schema target).buildFrom t.values.length = .ok w)
    (hk : (t ++ w).values.length < Statement.numberLimit) : (t ++ w).Scanned := by
  rw [Statement.append_values, List.length_append] at hk
  exact (stage_scanned hs hc ht (by omega)).append
    (Builder.buildFrom_scanned (write_isPlain hs htarget) hw (by omega))

theorem update_numbered {schema : Schema} {criteria : Filter} {updates : Record} {s : Statement}
    (h : update schema criteria updates = .ok s) : s.NumberedAfter 0 := by
  obtain ⟨t, w, ht, hw, rfl⟩ := update_eq_ok.1 h
  exact append_numbered ht hw

theorem delete_numbered {schema : Schema} {criteria : Filter} {s : Statement}
    (h : delete schema criteria = .ok s) : s.NumberedAfter 0 := by
  obtain ⟨t, w, ht, -, hw, rfl⟩ := delete_eq_ok.1 h
  exact append_numbered ht hw

theorem update_scanned {schema : Schema} {criteria : Filter} {updates : Record} {s : Statement}
    (hp : AllPlain (schema.trusted ++ criteria.fieldNames)) (h : update schema criteria updates = .ok s)
    (hk : s.values.length < Statement.numberLimit) : s.Scanned := by
  obtain ⟨hs, hc⟩ := allPlain_append.1 hp
  obtain ⟨t, w, ht, hw, rfl⟩ := update_eq_ok.1 h
  exact append_scanned hs hc ((target_isPlain hs .update).setFields updates) ht hw hk

theorem delete_scanned {schema : Schema} {criteria : Filter} {s : Statement}
    (hp : AllPlain (schema.trusted ++ criteria.fieldNames)) (h : delete schema criteria = .ok s)
    (hk : s.values.length < Statement.numberLimit) : s.Scanned := by
  obtain ⟨hs, hc⟩ := allPlain_append.1 hp
  obtain ⟨t, w, ht, -, hw, rfl⟩ := delete_eq_ok.1 h
  exact append_scanned hs hc (target_isPlain hs .delete) ht hw hk

end Staged

end CriteriaSql
