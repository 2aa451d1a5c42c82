import CriteriaSql.Proofs.History
import CriteriaSql.Proofs.Run
import CriteriaSql.Proofs.WhereClause

/-!
# No unguarded deletion

A deletion asks its executor only if some entry of the filter counts and no list is empty. It then asks
once, with a condition for each entry that counts, and binds their operands. Otherwise the caller is
told that the arguments are at fault.

* `Filter.Guards`: the filters that a deletion accepts.
* `Deletes`: what a deletion does, by filter; `deletions_guarded`: both deletions do so.
-/

namespace CriteriaSql

variable {σ : Type}

/-- Some entry counts, and no list is empty. -/
def Filter.Guards (f : Filter) : Prop := (∃ e ∈ f.entries, e.2.Usable) ∧ ¬ f.HasEmptyList

/-- The run of a deletion by a filter: one execution if the filter guards it, else a fault of the caller
and no request. -/
structure Deletes (f : Filter) (sql : String) (r : Run σ (Except Error Nat)) : Prop where
  asks_iff : r.requests ≠ [] ↔ (∃ e ∈ f.entries, e.2.Usable) ∧ ¬ f.HasEmptyList
  asks : r.requests ≠ [] → r.requests = [.execute sql f.operands] ∧ f.operands ≠ []
  refuses : r.requests = [] → ∃ e cause, r.result = .error e ∧ e.root = .validation cause

/-- The text of the conditions of the entries that count. -/
def Filter.conditionText (f : Filter) : String := " AND ".intercalate (conditionTexts 0 f.counting)

theorem Filter.whereText_eq {f : Filter} (h : f.Guards) : f.whereText = " WHERE " ++ f.conditionText :=
  if_neg (counting_ne_nil.2 h.1)

theorem Filter.not_guards {f : Filter} (h : ¬ f.Guards) : f.HasEmptyList ∨ f.counting = [] := by
  by_cases he : f.HasEmptyList
  · exact .inl he
  · exact .inr (Classical.byContradiction fun hc => h ⟨counting_ne_nil.1 hc, he⟩)

/-- A deletion whose statement is accepted for the guarding filters only. -/
theorem Deletes.ofCompiled {m : Model} {operation sql : String} {f : Filter} {r : Except Error Statement}
    (haccepted : f.Guards → ∃ stmt, r = .ok stmt ∧ stmt.values = f.operands ∧ stmt.sql = sql)
    (hrefused : ¬ f.Guards → ∃ cause, r = .error (.validation cause)) (ex : Executor σ) (s : σ) :
    Deletes f sql ((m.compiled operation r >>= m.exec operation).run.run ex s) := by
  rw [Model.run_compiled]
  by_cases h : f.Guards
  · obtain ⟨stmt, rfl, hvalues, hsql⟩ := haccepted h
    have hrun : ((m.exec operation stmt).run.run ex s).requests = [.execute sql f.operands] := by
      rw [Model.run_exec, hsql, hvalues]
    have hne : f.operands ≠ [] := Filter.operands_ne_nil h.2 (Filter.counting_ne_nil.2 h.1)
    refine ⟨⟨fun _ => h, fun _ => ?_⟩, fun _ => ⟨hrun, hne⟩, fun hnil => ?_⟩
    · rw [hrun]; exact List.cons_ne_nil _ _
    · rw [hrun] at hnil; cases hnil
  · obtain ⟨cause, rfl⟩ := hrefused h
    exact ⟨⟨fun hne => absurd rfl hne, fun hg => absurd hg h⟩, fun hne => absurd rfl hne,
      fun _ => ⟨_, cause, rfl, rfl⟩⟩

/-! ## Deleting all rows that match -/

/-- A deletion by the conditions of a filter. -/
def Builder.deleteBy (schema : Schema) (policy : Policy) (f : Filter) : Builder :=
  ((ofSchema schema policy).prepare .delete).restrict .and f

theorem Criteria.isEmpty_conditions (f : Filter) :
    (Criteria.mk f.conditions []).isEmpty = f.counting.isEmpty := by
  rw [isEmpty, Filter.conditions_eq, List.isEmpty_map, List.isEmpty_nil, Bool.and_true]

namespace Builder

theorem deleteBy_accepted (schema : Schema) (policy : Policy) {f : Filter} (h : f.Guards) :
    ∃ s, (deleteBy schema policy f).build = .ok s ∧ s.values = f.operands ∧
      s.sql = "DELETE FROM " ++ schema.name ++ " WHERE " ++ f.conditionText := by
  have hb : deleteBy schema policy f =
      { (ofSchema schema policy).prepare .delete with criteria := ⟨f.conditions, []⟩ } :=
    restrict_eq rfl h.2
  have hfalse : (Criteria.mk f.conditions []).isEmpty = false := by
    rw [Criteria.isEmpty_conditions, List.isEmpty_eq_false_iff]
    exact Filter.counting_ne_nil.2 h.1
  have hbuild : (deleteBy schema policy f).buildFrom 0 =
      .ok ((deleteBy schema policy f).withCriteria 0 (deleteBy schema policy f).deleteHead) := by
    rw [hb]
    exact if_neg (by rw [hfalse]; decide)
  refine ⟨_, by rw [build_eq, hbuild]; rfl, ?_, ?_⟩
  · rw [hb]
    exact Filter.values_conditions f
  · have hfragments :
        ((deleteBy schema policy f).withCriteria 0 (deleteBy schema policy f).deleteHead).fragments =
          ("DELETE FROM " ++ schema.name) :: ((Criteria.mk f.conditions []).compile 0).fragments := by
      rw [hb]
      rfl
    rw [Statement.sql_cons hfragments, Filter.fragments_clause, Filter.spaced_clause, Filter.whereText_eq h,
      ← String.append_assoc]

theorem deleteBy_refused (schema : Schema) (policy : Policy) {f : Filter} (h : ¬ f.Guards) :
    ∃ cause, (deleteBy schema policy f).build = .error (.validation cause) := by
  by_cases he : f.HasEmptyList
  · obtain ⟨field, hf⟩ := restrict_refused ((ofSchema schema policy).prepare .delete) .and he
    exact ⟨.emptyList field, by rw [build_eq, deleteBy, hf]; rfl⟩
  -- no entry counts: there are no conditions, and the builder refuses to go without
  · have hc : f.counting = [] := (Filter.not_guards h).resolve_left he
    refine ⟨.unguardedDelete schema.name, ?_⟩
    have htrue : (Criteria.mk f.conditions []).isEmpty = true := by
      rw [Criteria.isEmpty_conditions, hc]
      rfl
    rw [build_eq, deleteBy, restrict_eq rfl he]
    exact congrArg (Except.mapError Error.validation) (if_pos htrue)

/-- No call stages a builder. -/
theorem staging_run (schema : Schema) (policy : Policy) (calls : List Call) :
    ((ofSchema schema policy).run calls).staging = none := by
  rw [run_gathered]
  rfl

/-- **A built deletion has a WHERE clause** with at least one of the gathered conditions. -/
theorem buildFrom_delete {k : Nat} {b : Builder} {s : Statement} (hkind : b.kind = .delete)
    (h : b.buildFrom k = .ok s) :
    ∃ p ps, b.criteria.toList = p :: ps ∧
      s.fragments = b.deleteHead.fragments ++
        "WHERE" :: p.2.sql k :: Criteria.following (k + p.2.operands.length) ps := by
  obtain ⟨-, ⟨hk, -⟩ | ⟨hk, -⟩ | ⟨-, hempty, rfl⟩⟩ := buildFrom_cases h
  · rw [hkind] at hk; cases hk
  · rw [hkind] at hk; cases hk
  -- the guard of the builder: one of the two sequences has a condition
  · have hne : b.criteria.toList ≠ [] := by
      intro hnil
      obtain ⟨hc, hd⟩ := List.append_eq_nil_iff.1 hnil
      rw [Criteria.isEmpty, List.map_eq_nil_iff.1 hc, List.map_eq_nil_iff.1 hd] at hempty
      cases hempty
    obtain ⟨p, ps, hps⟩ := List.exists_cons_of_ne_nil hne
    refine ⟨p, ps, hps, ?_⟩
    have hvalues : b.deleteHead.values = [] := rfl
    rw [withCriteria_fragments, hvalues, List.length_nil, Nat.add_zero, Criteria.compile, hps]
    rfl

end Builder

/-! ## Deleting one row -/

namespace Staged

/-- What a staged deletion adds to its selection. -/
theorem delete_written (schema : Schema) (k : Nat) :
    ∃ w, (write schema (target schema .delete)).buildFrom k = .ok w ∧ w.values = [] ∧
      w.fragments =
        ["DELETE FROM " ++ schema.name, "USING cte", "WHERE", "cte._id = " ++ schema.name ++ "._id"] := by
  obtain ⟨w, hw, hvalues, hfragments⟩ : ∃ w, (write schema (target schema .delete)).buildFrom k = .ok w ∧
      w.values = [] ∧ w.fragments = ["DELETE FROM " ++ schema.name, "USING " ++ rowAlias, "WHERE",
        rowAlias ++ "." ++ rowId ++ " = " ++ schema.name ++ "." ++ rowId] := ⟨_, rfl, rfl, rfl⟩
  refine ⟨w, hw, hvalues, ?_⟩
  rw [hfragments, joinBack_text, show "USING " ++ rowAlias = "USING cte" from by decide]

/-- The text of such a deletion. -/
theorem write_delete (schema : Schema) (k : Nat) :
    ∃ w, (write schema (target schema .delete)).buildFrom k = .ok w ∧ w.values = [] ∧
      w.sql = "DELETE FROM " ++ schema.name ++ " USING cte WHERE cte._id = " ++ schema.name ++ "._id" := by
  obtain ⟨w, hw, hvalues, hfragments⟩ := delete_written schema k
  refine ⟨w, hw, hvalues, ?_⟩
  -- the literal text, cut where the fragments are joined
  have hmiddle : " USING cte WHERE cte._id = " = " " ++ "USING cte" ++ " " ++ "WHERE" ++ " " ++ "cte._id = " := by
    decide
  rw [Statement.sql_cons hfragments, hmiddle]
  simp only [spaced_cons, spaced_nil, String.append_assoc, String.append_empty]

theorem delete_accepted (schema : Schema) {f : Filter} (h : f.Guards) :
    ∃ s, delete schema f = .ok s ∧ s.values = f.operands ∧
      s.sql = "WITH cte AS ( SELECT _id FROM " ++ schema.name ++ " WHERE " ++ f.conditionText ++
        " LIMIT 1 ) DELETE FROM " ++ schema.name ++ " USING cte WHERE cte._id = " ++ schema.name ++
        "._id" := by
  obtain ⟨t, ht, htvalues, htsql⟩ := stage_accepted schema h.2
  obtain ⟨w, hw, hwvalues, hwsql⟩ := write_delete schema t.values.length
  have hne : t.values ≠ [] := by
    rw [htvalues]
    exact Filter.operands_ne_nil h.2 (Filter.counting_ne_nil.2 h.1)
  refine ⟨t ++ w, delete_eq_ok.2 ⟨t, w, ht, hne, hw, rfl⟩, ?_, ?_⟩
  · rw [Statement.append_values, htvalues, hwvalues, List.append_nil]
  · have hmiddle : " LIMIT 1 ) DELETE FROM " = " LIMIT 1 )" ++ " " ++ "DELETE FROM " := by decide
    rw [Statement.sql_append (stage_fragments_ne_nil ht) (Builder.fragments_ne_nil hw), htsql, hwsql,
      Filter.whereText_eq h, hmiddle]
    simp only [String.append_assoc]

theorem delete_refused (schema : Schema) {f : Filter} (h : ¬ f.Guards) :
    ∃ cause, delete schema f = .error (.validation cause) := by
  unfold delete
  by_cases he : f.HasEmptyList
  · obtain ⟨cause, hs⟩ := stage_refused schema he
    exact ⟨cause, by rw [hs, Result.bind_error]⟩
  -- no entry counts: the selection binds nothing, and is not used
  · obtain ⟨t, ht, htvalues, -⟩ := stage_accepted schema he
    have hnil : t.values.isEmpty = true := by
      rw [htvalues, Filter.operands, (Filter.not_guards h).resolve_left he]
      rfl
    exact ⟨.unguardedDelete schema.name, by rw [ht, Result.bind_ok, if_pos hnil]⟩

end Staged

/-! ## The main result -/

/-- **No unguarded deletion.** Both deletions of a model ask only when the filter guards them, with the
conditions and operands of the entries that count; and a built deletion has a condition. -/
theorem deletions_guarded :
    (∀ (σ : Type) (m : Model) (f : Filter) (ex : Executor σ) (s : σ),
      Deletes f ("DELETE FROM " ++ m.schema.name ++ " WHERE " ++ f.conditionText)
        ((m.remove f).run.run ex s) ∧
      Deletes f ("WITH cte AS ( SELECT _id FROM " ++ m.schema.name ++ " WHERE " ++ f.conditionText ++
          " LIMIT 1 ) DELETE FROM " ++ m.schema.name ++ " USING cte WHERE cte._id = " ++ m.schema.name ++
          "._id")
        ((m.deleteOne f).run.run ex s)) ∧
    ∀ (schema : Schema) (policy : Policy) (calls : List Call) (k : Nat) (s : Statement),
      let b := (Builder.ofSchema schema policy).run calls
      b.kind = .delete → b.buildFrom k = .ok s →
        ∃ p ps, b.criteria.toList = p :: ps ∧
          s.fragments = ("DELETE FROM " ++ b.table) ::
            "WHERE" :: p.2.sql k :: Criteria.following (k + p.2.operands.length) ps := by
  refine ⟨fun σ m f ex s => ⟨?_, ?_⟩, fun schema policy calls k s hkind h => ?_⟩
  · exact Deletes.ofCompiled (Builder.deleteBy_accepted m.schema m.config.policy)
      (Builder.deleteBy_refused m.schema m.config.policy) ex s
  · exact Deletes.ofCompiled (Staged.delete_accepted m.schema) (Staged.delete_refused m.schema) ex s
  · obtain ⟨p, ps, hps, hs⟩ := Builder.buildFrom_delete hkind h
    refine ⟨p, ps, hps, ?_⟩
    have hstaging := Builder.staging_run schema policy calls
    rw [hs, Builder.deleteHead, hstaging]
    rfl

/-- A deletion by a list, beside a bare value that does not count; one by that value alone; and one of
all users but for a condition after two bound values. -/
theorem deletions_guarded_users :
    let f := (Filter.empty.literal "name" (.text "")).operator "age" (.inList [.int 7, .null])
    let g := Filter.empty.literal "name" (.text "")
    let b := (Builder.ofSchema .users .ignore).run [.prepare .delete, .restrict .or f]
    ((Model.users.deleteOne f).run.run .idle ()).requests =
        [.execute ("WITH cte AS ( SELECT _id FROM users WHERE age IN ($1,$2) LIMIT 1 ) " ++
          "DELETE FROM users USING cte WHERE cte._id = users._id") [.int 7, .null]] ∧
      (∃ e cause, ((Model.users.remove g).run.run .idle ()).result = .error e ∧ e.root = .validation cause) ∧
      ∃ s p ps, b.buildFrom 2 = .ok s ∧ b.criteria.toList = p :: ps ∧ p.2.sql 2 = "age IN ($3,$4)" := by
  intro f g b
  obtain ⟨hdelete, hbuild⟩ := deletions_guarded
  refine ⟨?_, ?_, ?_⟩
  · have hone := (hdelete Unit .users f .idle ()).2
    have hguards : (∃ e ∈ f.entries, e.2.Usable) ∧ ¬ f.HasEmptyList := by decide
    rw [(hone.asks (hone.asks_iff.2 hguards)).1]
    decide
  · have hall := (hdelete Unit .users g .idle ()).1
    have hguards : ¬ ((∃ e ∈ g.entries, e.2.Usable) ∧ ¬ g.HasEmptyList) := by decide
    exact hall.refuses (Classical.byContradiction fun hne => hguards (hall.asks_iff.1 hne))
  · obtain ⟨s, hs⟩ : ∃ s, b.buildFrom 2 = .ok s := ⟨_, rfl⟩
    obtain ⟨p, ps, hps, -⟩ := hbuild .users .ignore [.prepare .delete, .restrict .or f] 2 s rfl hs
    refine ⟨s, p, ps, hs, hps, ?_⟩
    have hp : b.criteria.toList = [(.or, .field "age" (.inList [.int 7, .null]))] := rfl
    rw [hp] at hps
    obtain ⟨rfl, -⟩ := List.cons.inj hps
    decide

end CriteriaSql
