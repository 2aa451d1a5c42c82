import CriteriaSql.Proofs.Record
import CriteriaSql.Proofs.Run
import CriteriaSql.Proofs.Scan

/-!
# Requests are numbered

The text of every request that an operation makes shows the numbers from one on, one for each value it
binds, if the operation is not hand-written SQL and brings no dollar sign in its names.

* `Operation.trusted`: the names that an operation brings.
* `Request.Numbered`: the property; `perform_asks`: all requests have it.
-/

namespace CriteriaSql

/-- A request whose text shows the numbers from one on, one for each value. -/
def Request.Numbered (r : Request) : Prop :=
  r.params.length < Statement.numberLimit →
    Statement.markers r.sql = List.range' 1 r.params.length

/-! ## Trusted text -/

def FindOptions.trusted (o : FindOptions) : List String :=
  o.select ++ o.joins.flatMap (fun j => [j.table, j.condition]) ++ o.sorts.map (·.field)

/-- The columns that a document may insert. -/
def UpdateDoc.columns (doc : UpdateDoc) : List String :=
  (doc.set.getD .empty).columns ++ (doc.setOnInsert.getD .empty).columns

/-- The trusted text of an operation. -/
def Operation.trusted : Operation → List String
  | .insertOne data => data.columns
  | .findOne criteria options | .findAll criteria options => criteria.fieldNames ++ options.trusted
  | .findBy criteria | .deleteOne criteria | .remove criteria | .count criteria => criteria.fieldNames
  | .findOneAndUpdate criteria doc _ => criteria.fieldNames ++ doc.columns
  | .updateOne criteria updates _ => criteria.fieldNames ++ updates.columns
  | .updateMany criteria _ => criteria.fieldNames
  | .rawQuery sql _ => [sql]

/-! ## Accepted statements -/

theorem Statement.numbered {s : Statement} (hn : s.NumberedAfter 0)
    (hs : s.values.length < Statement.numberLimit → s.Scanned) :
    (Request.query s.sql s.values).Numbered ∧ (Request.execute s.sql s.values).Numbered :=
  ⟨fun hk => Statement.markers_sql hn (hs hk), fun hk => Statement.markers_sql hn (hs hk)⟩

theorem Builder.build_numbered {b : Builder} (hb : b.IsPlain) {s : Statement} (h : b.build = .ok s) :
    (Request.query s.sql s.values).Numbered ∧ (Request.execute s.sql s.values).Numbered := by
  rw [Builder.build_eq] at h
  have h := Result.mapError_eq_ok.1 h
  exact Statement.numbered (Builder.buildFrom_numbered h) fun hk =>
    Builder.buildFrom_scanned hb h (by rw [Nat.zero_add]; exact hk)

theorem Staged.update_asked {schema : Schema} {criteria : Filter} {updates : Record} {s : Statement}
    (hs : AllPlain schema.trusted) (hc : AllPlain criteria.fieldNames)
    (h : update schema criteria updates = .ok s) : (Request.execute s.sql s.values).Numbered :=
  (Statement.numbered (update_numbered h) (update_scanned (allPlain_append.2 ⟨hs, hc⟩) h)).2

/-! ## Operations -/

namespace Model

variable {m : Model}

/-- The calls behind a find operation. -/
def selectionCalls (criteria : Filter) (options : FindOptions) : List Call :=
  (if options.skipValidation then .selectUnchecked options.select else .select options.select) ::
    options.joins.map (fun j => .join j.kind j.table j.condition) ++
    options.sorts.map (fun s => .sortBy s.field s.direction) ++
    [.restrict .and criteria, .offset options.offset]

theorem selection_eq_run (m : Model) (criteria : Filter) (options : FindOptions) :
    m.selection criteria options = m.builder.run (selectionCalls criteria options) := by
  unfold selection selectionCalls Builder.run
  simp only [List.foldl_append, List.foldl_cons, List.foldl_map, List.foldl_nil]
  cases options.skipValidation <;> rfl

theorem trusted_selectionCalls {criteria : Filter} {options : FindOptions}
    (h : AllPlain (criteria.fieldNames ++ options.trusted)) :
    AllPlain ((selectionCalls criteria options).flatMap Call.trusted) := by
  obtain ⟨hc, ho⟩ := allPlain_append.1 h
  unfold FindOptions.trusted at ho
  obtain ⟨hsj, hsorts⟩ := allPlain_append.1 ho
  obtain ⟨hselect, hjoins⟩ := allPlain_append.1 hsj
  intro t ht
  -- which of the calls brings the text
  obtain ⟨call, hcall, ht⟩ := List.mem_flatMap.1 ht
  unfold selectionCalls at hcall
  simp only [List.cons_append, List.mem_cons, List.mem_append, List.mem_map, List.not_mem_nil,
    or_false] at hcall
  rcases hcall with rfl | (⟨j, hj, rfl⟩ | ⟨s, hs, rfl⟩) | rfl | rfl
  · split at ht
    · exact hselect t ht
    · exact hselect t ht
  · exact hjoins t (List.mem_flatMap.2 ⟨j, hj, ht⟩)
  · rw [List.mem_singleton.1 ht]
    exact hsorts _ (List.mem_map.2 ⟨s, hs, rfl⟩)
  · exact hc t ht
  · cases ht

theorem builder_isPlain (hs : AllPlain m.schema.trusted) : m.builder.IsPlain :=
  Builder.isPlain_ofSchema hs _

theorem selection_isPlain (hs : AllPlain m.schema.trusted) {criteria : Filter} {options : FindOptions}
    (h : AllPlain (criteria.fieldNames ++ options.trusted)) (limit : Nat) :
    ((m.selection criteria options).limit limit).IsPlain := by
  rw [selection_eq_run]
  exact { Builder.run_isPlain (builder_isPlain hs) (trusted_selectionCalls h) with }

theorem asks_insertOne (hs : AllPlain m.schema.trusted) {data : Record} (h : AllPlain data.columns) :
    (m.insertOne data).Asks Request.Numbered := by
  -- a generated identifier brings its own column, and that is no input
  have hcols : AllPlain (m.withIdentifier data).1.columns := by
    unfold withIdentifier
    split
    · intro c hc
      rcases Record.mem_columns_insert.1 hc with hc | rfl
      · exact h c hc
      · decide
    · exact h
  unfold insertOne
  refine asks_compiled fun stmt hstmt => (asks_fetch ?_).bind fun _ => Action.asks_pure _
  have hstmt := Result.mapError_eq_ok.1 hstmt
  refine (Statement.numbered ?_ (Statement.insert_scanned ?_ hstmt)).1
  · rw [Statement.insert_eq_ok hstmt]
    exact Statement.numberedAfter_bound _ _ _
  · refine allPlain_append.2 ⟨?_, ?_⟩
    · intro t ht
      rcases List.mem_cons.1 ht with rfl | ht
      · exact hs _ List.mem_cons_self
      · exact hcols t ht
    · split
      · intro t ht; rw [List.mem_singleton.1 ht]; decide
      · intro t ht; cases ht

theorem asks_findOne (hs : AllPlain m.schema.trusted) {criteria : Filter} {options : FindOptions}
    (h : AllPlain (criteria.fieldNames ++ options.trusted)) :
    (m.findOne criteria options).Asks Request.Numbered := by
  unfold findOne
  refine (Action.asks_emitAll _).bind fun _ => asks_compiled fun stmt hstmt => ?_
  exact (asks_fetch (Builder.build_numbered (selection_isPlain hs h _) hstmt).1).bind fun _ =>
    Action.asks_pure _

theorem asks_findAll (hs : AllPlain m.schema.trusted) {criteria : Filter} {options : FindOptions}
    (h : AllPlain (criteria.fieldNames ++ options.trusted)) :
    (m.findAll criteria options).Asks Request.Numbered := by
  unfold findAll
  refine (Action.asks_emitAll _).bind fun _ => asks_compiled fun stmt hstmt => ?_
  exact asks_fetch (Builder.build_numbered (selection_isPlain hs h _) hstmt).1

theorem fieldNames_pinned {criteria : Filter} (h : AllPlain criteria.fieldNames) (found : Record) :
    AllPlain (pinned criteria found).fieldNames := by
  unfold pinned
  split
  · split
    · exact h
    · intro t ht
      rw [List.mem_singleton.1 ht]
      exact (by decide : Plain Staged.rowId)
  · exact h

theorem columns_insertFields {doc : UpdateDoc} (h : AllPlain doc.columns) :
    AllPlain doc.insertFields.columns := by
  intro c hc
  exact h c (List.mem_append.2 (Record.mem_columns_merge.1 hc))

theorem asks_findOneAndUpdate (hs : AllPlain m.schema.trusted) {criteria : Filter} {doc : UpdateDoc}
    (h : AllPlain (criteria.fieldNames ++ doc.columns)) (upsert : Bool) :
    (m.findOneAndUpdate criteria doc upsert).Asks Request.Numbered := by
  obtain ⟨hc, hd⟩ := allPlain_append.1 h
  have husual : AllPlain (criteria.fieldNames ++ FindOptions.usual.trusted) :=
    allPlain_append.2 ⟨hc, by decide⟩
  unfold findOneAndUpdate
  refine ((asks_findOne hs husual).mapError _).bind fun found => ?_
  split
  · split
    -- no row, and an upsert
    · exact ((asks_insertOne hs (columns_insertFields hd)).mapError _).bind fun _ => Action.asks_pure _
    · exact Action.asks_pure _
  · split
    · exact Action.asks_ofExcept _
    -- a row, and fields to set in it
    · refine (Action.asks_emitAll _).bind fun _ => asks_compiled fun stmt hstmt => ?_
      exact (asks_exec (Staged.update_asked hs (fieldNames_pinned hc found) hstmt)).bind fun _ =>
        Action.asks_pure _

theorem asks_updateOne (hs : AllPlain m.schema.trusted) {criteria : Filter} {updates : Record}
    (h : AllPlain (criteria.fieldNames ++ updates.columns)) (upsert : Bool) :
    (m.updateOne criteria updates upsert).Asks Request.Numbered := by
  unfold updateOne
  split
  -- an upsert goes by way of the row, with nothing for insertion only
  · refine asks_findOneAndUpdate hs ?_ upsert
    intro t ht
    refine h t ?_
    rwa [UpdateDoc.columns, show ((UpdateDoc.ofSet updates).setOnInsert.getD .empty).columns = [] from rfl,
      List.append_nil] at ht
  · refine (Action.asks_emitAll _).bind fun _ => asks_compiled fun stmt hstmt => ?_
    exact (asks_exec (Staged.update_asked hs (allPlain_append.1 h).1 hstmt)).bind fun _ => Action.asks_pure _

theorem asks_updateMany (hs : AllPlain m.schema.trusted) {criteria : Filter}
    (hc : AllPlain criteria.fieldNames) (updates : Record) :
    (m.updateMany criteria updates).Asks Request.Numbered := by
  have hb := (((builder_isPlain hs).prepare .update).setFields updates).restrict .and hc
  unfold updateMany
  refine (Action.asks_emitAll _).bind fun _ => asks_compiled fun stmt hstmt => ?_
  exact asks_exec (Builder.build_numbered hb hstmt).2

theorem asks_deleteOne (hs : AllPlain m.schema.trusted) {criteria : Filter}
    (hc : AllPlain criteria.fieldNames) : (m.deleteOne criteria).Asks Request.Numbered := by
  unfold deleteOne
  refine asks_compiled fun stmt hstmt => asks_exec ?_
  exact (Statement.numbered (Staged.delete_numbered hstmt)
    (Staged.delete_scanned (allPlain_append.2 ⟨hs, hc⟩) hstmt)).2

theorem asks_remove (hs : AllPlain m.schema.trusted) {criteria : Filter}
    (hc : AllPlain criteria.fieldNames) : (m.remove criteria).Asks Request.Numbered := by
  have hb := ((builder_isPlain hs).prepare .delete).restrict .and hc
  unfold remove
  exact asks_compiled fun stmt hstmt => asks_exec (Builder.build_numbered hb hstmt).2

theorem asks_count (hs : AllPlain m.schema.trusted) {criteria : Filter}
    (hc : AllPlain criteria.fieldNames) : (m.count criteria).Asks Request.Numbered := by
  have hcount : AllPlain (Builder.starred [countProjection]) := by decide
  have hb := ((builder_isPlain hs).project hcount).restrict .and hc
  unfold count
  refine asks_compiled fun stmt hstmt => (asks_fetch ?_).bind fun _ => Action.asks_pure _
  exact (Builder.build_numbered hb hstmt).1

/-- **All that an operation asks for has its placeholders in order**, hand-written SQL apart. -/
theorem perform_asks {op : Operation} (hraw : ∀ sql params, op ≠ .rawQuery sql params)
    (h : AllPlain (m.schema.trusted ++ op.trusted)) : (m.perform op).Asks Request.Numbered := by
  obtain ⟨hs, ht⟩ := allPlain_append.1 h
  cases op with
  | insertOne data => exact (asks_insertOne hs ht).only
  | findOne criteria options => exact (asks_findOne hs ht).only
  | findAll criteria options => exact (asks_findAll hs ht).only
  | findBy criteria =>
    have husual : AllPlain (criteria.fieldNames ++ FindOptions.usual.trusted) :=
      allPlain_append.2 ⟨ht, by decide⟩
    exact (asks_findAll hs husual).only
  | findOneAndUpdate criteria doc upsert => exact (asks_findOneAndUpdate hs ht upsert).only
  | updateOne criteria updates upsert => exact (asks_updateOne hs ht upsert).only
  | updateMany criteria updates => exact (asks_updateMany hs ht updates).only
  | deleteOne criteria => exact (asks_deleteOne hs ht).only
  | remove criteria => exact (asks_remove hs ht).only
  | count criteria => exact (asks_count hs ht).only
  | rawQuery sql params => exact absurd rfl (hraw sql params)

end Model

end CriteriaSql
