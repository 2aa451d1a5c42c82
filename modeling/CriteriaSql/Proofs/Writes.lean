import CriteriaSql.Model.Operations
import CriteriaSql.Proofs.Record
import CriteriaSql.Proofs.WhereClause

/-!
# Queries and updates of one row

The texts of the query for a row and of the update of a row, with the values they bind, said without the
compiler: each is made from the text of its filter, and an update's values follow those of the filter.

* `Model.findSql`, `Model.updateSql`, `Model.insertSql`: the texts.
* `Model.finder_accepted`, `Staged.update_accepted`: what is compiled has these texts.
* `Model.finder_refused`, `Staged.update_refused`: what is not compiled.
-/

namespace CriteriaSql

namespace Model

/-- The query for the first row that criteria admit. -/
def findSql (m : Model) (criteria : Filter) : String :=
  "SELECT * FROM " ++ m.schema.name ++ criteria.whereText ++ " LIMIT 1"

/-- The request for that row. -/
def findRequest (m : Model) (criteria : Filter) : Request := .query (m.findSql criteria) criteria.operands

/-- The row that the executor finds first, or an empty record. -/
def firstRow (m : Model) (criteria : Filter) (ex : Executor σ) (s : σ) : Except Error Record :=
  (ex.query (m.findSql criteria) criteria.operands s).result.map (·.headD .empty)

/-- The record that is inserted when no row is found. -/
def upserted (m : Model) (doc : UpdateDoc) : Record := (m.withIdentifier doc.insertFields).1

/-- The insertion of a record. -/
def insertSql (m : Model) (data : Record) : String :=
  Statement.insertText m.schema.name data (if m.schema.hasField returnedId then some returnedId else none)

/-- The fields of the schema that a record sets. -/
def updatedFields (m : Model) (set : Record) : List String := m.schema.fields.filter (set.contains ·)

/-- The update of the first row that a filter admits, whose values follow those of the filter. -/
def updateSql (m : Model) (target : Filter) (set : Record) : String :=
  "WITH cte AS ( SELECT _id FROM " ++ m.schema.name ++ target.whereText ++ " LIMIT 1 ) UPDATE " ++
    m.schema.name ++ " SET " ++
    ", ".intercalate (Builder.assignmentTexts target.operands.length (m.updatedFields set)) ++
    " FROM cte WHERE cte._id = " ++ m.schema.name ++ "._id"

/-- The values of an update: those of the filter, then those of the schema's fields. -/
def updateParams (m : Model) (target : Filter) (set : Record) : List Value :=
  target.operands ++ m.schema.fields.filterMap (set.get? ·)

end Model

/-! ## The statements -/

namespace Model

variable {m : Model} {criteria : Filter}

/-- The builder of the query. -/
def finder (m : Model) (criteria : Filter) : Builder := (m.selection criteria .usual).limit 1

theorem finder_accepted (m : Model) (h : ¬ criteria.HasEmptyList) :
    ∃ stmt, (m.finder criteria).build = .ok stmt ∧ stmt.values = criteria.operands ∧
      stmt.sql = m.findSql criteria := by
  -- the calls, put into one record
  have hb : m.finder criteria =
      { m.builder.select [] with criteria := ⟨criteria.conditions, []⟩, page := ⟨1, 0⟩ } := by
    change ((((m.builder.select []).restrict .and criteria).offset 0).limit 1) = _
    rw [Builder.restrict_eq rfl h]
    rfl
  have hp : (m.finder criteria).projectionText = .ok "*" := by
    rw [hb]
    exact congrArg Except.ok String.intercalate_singleton
  obtain ⟨stmt, hstmt, hvalues, hfragments⟩ := Builder.buildFrom_first (b := m.finder criteria) (f := criteria)
    (by rw [hb]; rfl) (by rw [hb]; rfl) hp (by rw [hb]; rfl) (by rw [hb]; rfl) (by rw [hb]) (by rw [hb])
  refine ⟨stmt, by rw [Builder.build_eq, hstmt]; rfl, hvalues, ?_⟩
  have htable : (m.finder criteria).table = m.schema.name := by rw [hb]; rfl
  have hstar : "SELECT " ++ "*" ++ " FROM " = "SELECT * FROM " := by decide
  unfold findSql
  rw [Builder.sql_first hfragments, htable, hstar]

theorem finder_refused (m : Model) (h : criteria.HasEmptyList) :
    ∃ cause, (m.finder criteria).build = .error (.validation cause) := by
  obtain ⟨field, hf⟩ := Builder.restrict_refused (m.builder.select []) .and h
  refine ⟨.emptyList field, ?_⟩
  rw [Builder.build_eq]
  change ((((((m.builder.select []).restrict .and criteria).offset 0).limit 1).buildFrom 0).mapError _) = _
  rw [hf]
  rfl

end Model

namespace Staged

variable {schema : Schema} {target : Filter} {set : Record}

/-- What a staged update adds to its selection. -/
theorem update_written (schema : Schema) {set : Record} (h : ∃ f ∈ schema.fields, f ∈ set.columns) (k : Nat) :
    ∃ w, (write schema ((Staged.target schema .update).setFields set)).buildFrom k = .ok w ∧
      w.values = schema.fields.filterMap (set.get? ·) ∧
      w.fragments = ["UPDATE " ++ schema.name ++ " SET",
        ", ".intercalate (Builder.assignmentTexts k (schema.fields.filter (set.contains ·))),
        "FROM cte", "WHERE", "cte._id = " ++ schema.name ++ "._id"] := by
  have hempty := (Builder.isEmpty_knownFields schema set).2 h
  obtain ⟨w, hw, hvalues, hfragments⟩ :
      ∃ w, (write schema ((Staged.target schema .update).setFields set)).buildFrom k = .ok w ∧
        w.values = (Builder.knownFields schema set).values ++ [] ++ [] ∧
        w.fragments = ["UPDATE " ++ schema.name ++ " SET",
          ", ".intercalate (Builder.assignmentTexts k (Builder.knownFields schema set).columns),
          "FROM " ++ rowAlias, "WHERE", rowAlias ++ "." ++ rowId ++ " = " ++ schema.name ++ "." ++ rowId] :=
    ⟨_, if_neg (Bool.eq_false_iff.1 hempty), rfl, rfl⟩
  refine ⟨w, hw, ?_, ?_⟩
  · rw [hvalues, List.append_nil, List.append_nil, Builder.values_knownFields]
  · have hfrom : "FROM " ++ rowAlias = "FROM cte" := by decide
    rw [hfragments, Builder.columns_knownFields, joinBack_text, hfrom]

/-- The text of such an update. -/
theorem write_update (schema : Schema) {set : Record} (h : ∃ f ∈ schema.fields, f ∈ set.columns) (k : Nat) :
    ∃ w, (write schema ((Staged.target schema .update).setFields set)).buildFrom k = .ok w ∧
      w.values = schema.fields.filterMap (set.get? ·) ∧
      w.sql = "UPDATE " ++ schema.name ++ " SET " ++
        ", ".intercalate (Builder.assignmentTexts k (schema.fields.filter (set.contains ·))) ++
        " FROM cte WHERE cte._id = " ++ schema.name ++ "._id" := by
  obtain ⟨w, hw, hvalues, hfragments⟩ := update_written schema h k
  refine ⟨w, hw, hvalues, ?_⟩
  -- the literal text, cut where the fragments are joined
  have hset : " SET " = " SET" ++ " " := by decide
  have hmiddle : " FROM cte WHERE cte._id = " = " " ++ "FROM cte" ++ " " ++ "WHERE" ++ " " ++ "cte._id = " := by
    decide
  rw [Statement.sql_cons hfragments, hset, hmiddle]
  simp only [spaced_cons, spaced_nil, String.append_assoc, String.append_empty]

theorem update_accepted (schema : Schema) (ht : ¬ target.HasEmptyList)
    (h : ∃ f ∈ schema.fields, f ∈ set.columns) :
    ∃ s, update schema target set = .ok s ∧
      s.values = target.operands ++ schema.fields.filterMap (set.get? ·) ∧
      s.sql = "WITH cte AS ( SELECT _id FROM " ++ schema.name ++ target.whereText ++ " LIMIT 1 ) UPDATE " ++
        schema.name ++ " SET " ++
        ", ".intercalate (Builder.assignmentTexts target.operands.length
          (schema.fields.filter (set.contains ·))) ++
        " FROM cte WHERE cte._id = " ++ schema.name ++ "._id" := by
  obtain ⟨t, hstage, htvalues, htsql⟩ := stage_accepted schema ht
  obtain ⟨w, hw, hwvalues, hwsql⟩ := write_update schema h t.values.length
  refine ⟨t ++ w, update_eq_ok.2 ⟨t, w, hstage, hw, rfl⟩, ?_, ?_⟩
  · rw [Statement.append_values, htvalues, hwvalues]
  · have hmiddle : " LIMIT 1 ) UPDATE " = " LIMIT 1 )" ++ " " ++ "UPDATE " := by decide
    rw [Statement.sql_append (stage_fragments_ne_nil hstage) (Builder.fragments_ne_nil hw), htsql, hwsql,
      htvalues, hmiddle]
    simp only [String.append_assoc]

/-- An update of no field that the schema knows is refused. -/
theorem update_refused (target : Filter) (h : ¬ ∃ f ∈ schema.fields, f ∈ set.columns) (s : Statement) :
    update schema target set ≠ .ok s := by
  intro hs
  obtain ⟨t, w, -, hw, -⟩ := update_eq_ok.1 hs
  -- the target is an update, which assigns at least one field
  obtain ⟨-, ⟨hk, -⟩ | ⟨-, hempty, -⟩ | ⟨hk, -⟩⟩ := Builder.buildFrom_cases hw
  · cases hk
  · exact h ((Builder.isEmpty_knownFields schema set).1 hempty)
  · cases hk

end Staged

end CriteriaSql
