import CriteriaSql.Proofs.Insertion

/-!
# Find, then write

Finding and updating a row asks the executor at most twice: for the first row that the criteria admit,
and then for an insertion if there is none, or for an update of the row that was found. Which of them
is asked, and with which text and values, follows from the row alone.

* `FindThenWrite`: the sequences of requests, and when each write is asked.
* `Upserted`, `Pinned`: the record that is inserted, and the row that is updated.
* `find_then_write`: an operation keeps to it, whatever the executor answers.
-/

namespace CriteriaSql

variable {σ : Type}

/-! ## The runs -/

namespace Model

variable {m : Model} {criteria : Filter}

theorem run_findOne_refused (m : Model) (h : criteria.HasEmptyList) (ex : Executor σ) (s : σ) :
    ∃ e cause, ((m.findOne criteria .usual).run.run ex s).result = .error e ∧ e.root = .validation cause ∧
      ((m.findOne criteria .usual).run.run ex s).requests = [] := by
  obtain ⟨cause, hb⟩ := finder_refused m h
  have hrun : (m.findOne criteria .usual).run.run ex s =
      ⟨.error (m.around "find_one" (.validation cause)), [], m.selectionEvents .usual ++ [], s⟩ := by
    unfold findOne
    rw [Action.run_bind, Action.run_emitAll]
    change Run.continue _
      (fun _ s => ((m.compiled "find_one" (m.finder criteria).build >>= _).run.run ex s)) = _
    simp only [Run.continue, run_compiled, hb]
    rfl
  rw [hrun]
  exact ⟨_, cause, rfl, rfl, rfl⟩

theorem run_findOne (m : Model) (h : ¬ criteria.HasEmptyList) (ex : Executor σ) (s : σ) :
    ((m.findOne criteria .usual).run.run ex s).requests = [.query (m.findSql criteria) criteria.operands] ∧
      ((m.findOne criteria .usual).run.run ex s).result =
        (m.firstRow criteria ex s).mapError (m.around "find_one") := by
  obtain ⟨stmt, hb, hvalues, hsql⟩ := finder_accepted m h
  have hfirst : m.firstRow criteria ex s =
      (ex.query stmt.sql stmt.values s).result.map (·.headD .empty) := by
    rw [hsql, hvalues]
    rfl
  have hrun : (m.findOne criteria .usual).run.run ex s =
      (Action.emitAll (m.selectionEvents .usual) >>= fun _ =>
        m.compiled "find_one" (m.finder criteria).build >>= fun stmt =>
          m.fetch "find_one" stmt >>= fun rows => pure (rows.headD .empty)).run.run ex s := rfl
  rw [hrun, Action.requests_bind, Action.result_bind, Action.run_emitAll]
  dsimp only
  rw [run_compiled, hb]
  dsimp only
  rw [Action.requests_bind, Action.result_bind, run_fetch, hfirst, ← hsql, ← hvalues]
  cases (ex.query stmt.sql stmt.values s).result with
  | ok rows => exact ⟨rfl, rfl⟩
  | error e => exact ⟨rfl, rfl⟩

/-- The requests of an insertion: none for a record without columns. -/
theorem requests_insertOne (m : Model) (data : Record) (ex : Executor σ) (s : σ) :
    ((m.insertOne data).run.run ex s).requests =
      if (m.withIdentifier data).1.isEmpty then []
      else [.query (m.insertSql (m.withIdentifier data).1) (m.withIdentifier data).1.values] := by
  have hentries := m.entries_withIdentifier data
  have hempty : (m.withIdentifier data).1.isEmpty = (m.inserted data).isEmpty := by
    rw [Record.isEmpty, hentries]
  rw [hempty, insertSql_eq, Record.values, hentries]
  by_cases hnil : m.inserted data = []
  · rw [m.run_insertOne_refused hnil, hnil]
    rfl
  · have hfalse : (m.inserted data).isEmpty = false := List.isEmpty_eq_false_iff.2 hnil
    rw [(m.run_insertOne hnil ex s).1, hfalse]
    rfl

/-- What follows the query for a row: an insertion, an update, or nothing. -/
def writes (m : Model) (criteria : Filter) (doc : UpdateDoc) (upsert : Bool) (found : Record) :
    List Request :=
  if found.isEmpty then
    if upsert && !(m.upserted doc).isEmpty then
      [.query (m.insertSql (m.upserted doc)) (m.upserted doc).values]
    else []
  else
    match doc.set with
    | none => []
    | some set =>
      if ∃ f ∈ m.schema.fields, f ∈ set.columns then
        [.execute (m.updateSql (pinned criteria found) set) (m.updateParams (pinned criteria found) set)]
      else []

theorem pinned_hasEmptyList (h : ¬ criteria.HasEmptyList) (found : Record) :
    ¬ (pinned criteria found).HasEmptyList := by
  unfold pinned
  split
  · split
    · exact h
    · rintro ⟨e, he, hl⟩
      rw [List.mem_singleton.1 he] at hl
      cases hl
  · exact h

/-- The requests of an update of one row. -/
theorem requests_update (m : Model) {target : Filter} (ht : ¬ target.HasEmptyList) (set : Record)
    (operation : String) (f : Nat → α) (ex : Executor σ) (s : σ) :
    ((Action.emitAll (Staged.updateEvents m.schema target set) >>= fun _ =>
      m.compiled operation (Staged.update m.schema target set) >>= fun stmt =>
        m.exec operation stmt >>= fun n => pure (f n)).run.run ex s).requests =
      if ∃ f ∈ m.schema.fields, f ∈ set.columns then
        [.execute (m.updateSql target set) (m.updateParams target set)]
      else [] := by
  rw [Action.requests_bind, Action.run_emitAll]
  dsimp only
  rw [run_compiled, List.nil_append]
  by_cases h : ∃ f ∈ m.schema.fields, f ∈ set.columns
  · obtain ⟨stmt, hs, hvalues, hsql⟩ := Staged.update_accepted m.schema ht h
    rw [if_pos h, hs]
    dsimp only
    rw [Action.requests_bind_pure, run_exec]
    dsimp only
    rw [hsql, hvalues]
    rfl
  · rw [if_neg h]
    cases hs : Staged.update m.schema target set with
    | ok stmt => exact absurd hs (Staged.update_refused target h stmt)
    | error e => rfl

/-- **The requests of the operation**: the query, and what follows from the row that it gives. -/
theorem requests_findOneAndUpdate (m : Model) (h : ¬ criteria.HasEmptyList) (doc : UpdateDoc) (upsert : Bool)
    (ex : Executor σ) (s : σ) :
    ((m.findOneAndUpdate criteria doc upsert).run.run ex s).requests =
      m.findRequest criteria ::
        match m.firstRow criteria ex s with
        | .ok found => m.writes criteria doc upsert found
        | .error _ => [] := by
  obtain ⟨hrequests, hresult⟩ := run_findOne m h ex s
  unfold findOneAndUpdate
  dsimp only
  rw [Action.requests_bind, Action.run_mapError]
  dsimp only
  rw [hrequests, hresult]
  cases m.firstRow criteria ex s with
  | error e => rfl
  | ok found =>
    simp only [Result.mapError_ok, List.singleton_append]
    refine congrArg _ ?_
    unfold writes
    -- without a row the record is inserted, if it has columns; a row is updated
    split
    · cases upsert with
      | false => rfl
      | true =>
        rw [if_pos rfl, Action.requests_bind_pure, Action.run_mapError]
        dsimp only
        rw [requests_insertOne]
        unfold upserted
        cases (m.withIdentifier doc.insertFields).1.isEmpty <;> rfl
    · cases doc.set with
      | none => rfl
      | some set => exact requests_update m (pinned_hasEmptyList h found) set _ _ ex _

end Model

/-! ## The protocol -/

/-- The run of an operation that finds a row and then writes: the sequences of requests that an executor
can see, and exactly when it sees a write, with the text and the values of that write. -/
structure FindThenWrite (m : Model) (criteria : Filter) (doc : UpdateDoc) (upsert : Bool) (ex : Executor σ)
    (s : σ) (r : Run σ (Except Error UpsertOutcome)) : Prop where
  nothing_iff : r.requests = [] ↔ criteria.HasEmptyList
  refuses : r.requests = [] → ∃ e cause, r.result = .error e ∧ e.root = .validation cause
  sequences : r.requests = [] ∨ r.requests = [m.findRequest criteria] ∨
    (∃ sql params, r.requests = [m.findRequest criteria, .query sql params]) ∨
    ∃ sql params, r.requests = [m.findRequest criteria, .execute sql params]
  inserts_iff : ∀ sql params, r.requests = [m.findRequest criteria, .query sql params] ↔
    ¬ criteria.HasEmptyList ∧ (∃ found, m.firstRow criteria ex s = .ok found ∧ found.isEmpty = true) ∧
      upsert = true ∧ (m.upserted doc).isEmpty = false ∧ sql = m.insertSql (m.upserted doc) ∧
      params = (m.upserted doc).values
  updates_iff : ∀ sql params, r.requests = [m.findRequest criteria, .execute sql params] ↔
    ¬ criteria.HasEmptyList ∧ ∃ found set, m.firstRow criteria ex s = .ok found ∧ found.isEmpty = false ∧
      doc.set = some set ∧ (∃ f ∈ m.schema.fields, f ∈ set.columns) ∧
      sql = m.updateSql (Model.pinned criteria found) set ∧
      params = (Model.pinned criteria found).operands ++ m.schema.fields.filterMap (set.get? ·)

namespace Model

variable {m : Model} {criteria : Filter} {doc : UpdateDoc} {upsert : Bool} {found : Record}

theorem writes_eq_query {sql : String} {params : List Value} :
    m.writes criteria doc upsert found = [.query sql params] ↔
      found.isEmpty = true ∧ upsert = true ∧ (m.upserted doc).isEmpty = false ∧
        sql = m.insertSql (m.upserted doc) ∧ params = (m.upserted doc).values := by
  constructor
  · intro h
    unfold writes at h
    split at h
    · next hfound =>
      split at h
      · next hw =>
        obtain ⟨hup, hd⟩ := Bool.and_eq_true_iff.1 hw
        cases h
        exact ⟨hfound, hup, by simpa using hd, rfl, rfl⟩
      · cases h
    · split at h
      · cases h
      · split at h <;> cases h
  · rintro ⟨hfound, hup, hd, rfl, rfl⟩
    rw [writes, if_pos hfound, hup, hd]
    rfl

theorem writes_eq_execute {sql : String} {params : List Value} :
    m.writes criteria doc upsert found = [.execute sql params] ↔
      found.isEmpty = false ∧ ∃ set, doc.set = some set ∧ (∃ f ∈ m.schema.fields, f ∈ set.columns) ∧
        sql = m.updateSql (pinned criteria found) set ∧
        params = m.updateParams (pinned criteria found) set := by
  constructor
  · intro h
    unfold writes at h
    split at h
    · split at h <;> cases h
    · next hfound =>
      split at h
      · cases h
      · next set hset =>
        split at h
        · next hfield =>
          cases h
          exact ⟨Bool.eq_false_iff.2 hfound, set, hset, hfield, rfl, rfl⟩
        · cases h
  · rintro ⟨hfound, set, hset, hfield, rfl, rfl⟩
    rw [writes, if_neg (Bool.eq_false_iff.1 hfound), hset]
    exact if_pos hfield

theorem writes_cases (m : Model) (criteria : Filter) (doc : UpdateDoc) (upsert : Bool) (found : Record) :
    m.writes criteria doc upsert found = [] ∨
      (∃ sql params, m.writes criteria doc upsert found = [.query sql params]) ∨
      ∃ sql params, m.writes criteria doc upsert found = [.execute sql params] := by
  unfold writes
  split
  · split
    · exact .inr (.inl ⟨_, _, rfl⟩)
    · exact .inl rfl
  · split
    · exact .inl rfl
    · split
      · exact .inr (.inr ⟨_, _, rfl⟩)
      · exact .inl rfl

/-! ## The record and the row -/

/-- A record gets an identifier when the table has one and the record does not. -/
theorem withIdentifier_eq (m : Model) (data : Record) :
    (m.withIdentifier data).1 =
      if m.schema.hasField Staged.rowId = true ∧ Staged.rowId ∉ data.columns then
        data.insert Staged.rowId (.text (m.ids.generate m.schema.name))
      else data := by
  rw [withIdentifier_eq_ite]
  exact apply_ite Prod.fst _ _ _

end Model

/-- The record that an upsert inserts: the fields to set in their places, then what is new among those for
insertion only, whose values win; and at the end an identifier, if the table has one and no field gives it. -/
structure Upserted (m : Model) (doc : UpdateDoc) (d : Record) : Prop where
  columns : d.columns = (doc.set.getD .empty).columns ++
    Record.newColumns (doc.set.getD .empty).columns (doc.setOnInsert.getD .empty).entries ++
    if m.schema.hasField Staged.rowId = true ∧ Staged.rowId ∉ (doc.set.getD .empty).columns ∧
      Staged.rowId ∉ (doc.setOnInsert.getD .empty).columns then [Staged.rowId] else []
  value : ∀ c, d.get? c = ((Record.last? c (doc.setOnInsert.getD .empty).entries).or
    ((doc.set.getD .empty).get? c)).or
      (if c = Staged.rowId ∧ m.schema.hasField Staged.rowId = true then
        some (.text (m.ids.generate m.schema.name)) else none)

theorem Model.upserted_spec (m : Model) (doc : UpdateDoc) : Upserted m doc (m.upserted doc) := by
  -- an identifier is generated if no part of the document gives one
  have hnew : Staged.rowId ∉ doc.insertFields.columns ↔
      Staged.rowId ∉ (doc.set.getD .empty).columns ∧
        Staged.rowId ∉ (doc.setOnInsert.getD .empty).columns := by
    rw [UpdateDoc.insertFields, Record.mem_columns_merge, not_or]
  have hcolumns : doc.insertFields.columns = (doc.set.getD .empty).columns ++
      Record.newColumns (doc.set.getD .empty).columns (doc.setOnInsert.getD .empty).entries :=
    Record.columns_merge _ _
  have hvalue (c : String) : doc.insertFields.get? c =
      (Record.last? c (doc.setOnInsert.getD .empty).entries).or ((doc.set.getD .empty).get? c) :=
    Record.get?_merge _ _ c
  unfold upserted
  rw [withIdentifier_eq]
  constructor
  · simp only [← hcolumns, ← hnew]
    by_cases h : m.schema.hasField Staged.rowId = true ∧ Staged.rowId ∉ doc.insertFields.columns
    · rw [if_pos h, if_pos h, Record.columns_insert, if_neg h.2]
    · rw [if_neg h, if_neg h, List.append_nil]
  · intro c
    rw [← hvalue]
    split
    · next h =>
      rw [Record.get?_insert]
      by_cases hc : Staged.rowId = c
      · have hnone : doc.insertFields.get? c = none := Record.get?_eq_none.2 (hc ▸ h.2)
        rw [if_pos hc, hnone, Option.none_or, if_pos ⟨hc.symm, h.1⟩]
      · rw [if_neg hc, if_neg fun h => hc h.1.symm, Option.or_none]
    · next h =>
      by_cases hc : c = Staged.rowId ∧ m.schema.hasField Staged.rowId = true
      · -- a field gives the identifier, so its value is the one that counts
        have hmem : c ∈ doc.insertFields.columns := by
          rw [hc.1]
          exact Classical.byContradiction fun hid => h ⟨hc.2, hid⟩
        obtain ⟨v, hv⟩ := Option.isSome_iff_exists.1 (Record.get?_isSome.2 hmem)
        rw [hv, Option.some_or]
      · rw [if_neg hc, Option.or_none]

/-- The row that an update writes: the one with the identifier of the row that was found, or the first one
that the criteria admit if that row has none that counts. -/
structure Pinned (criteria : Filter) (found : Record) (target : Filter) : Prop where
  byId : ∀ id, found.get? Staged.rowId = some id → id.isFalsy = false →
    target.whereText = " WHERE _id = $1" ∧ target.operands = [id]
  byCriteria : (∀ id, found.get? Staged.rowId = some id → id.isFalsy = true) → target = criteria

theorem Model.pinned_spec (criteria : Filter) (found : Record) :
    Pinned criteria found (pinned criteria found) := by
  unfold pinned
  constructor
  · intro id hid hf
    have hcounting : (Filter.empty.literal Staged.rowId id).counting = [(Staged.rowId, .literal id)] :=
      List.filter_cons_of_pos (decide_eq_true hf)
    rw [hid]
    simp only [hf, Bool.false_eq_true, if_false]
    constructor
    · rw [Filter.whereText, hcounting, if_neg (List.cons_ne_nil _ _), Filter.conditionTexts,
        Filter.conditionTexts, String.intercalate_singleton]
      change " WHERE " ++ (Staged.rowId ++ " " ++ Comparison.eq.sql ++ " " ++ placeholder (0 + 1)) = _
      decide
    · rw [Filter.operands, hcounting]
      rfl
  · intro h
    split
    · next id hid => rw [if_pos (h id hid)]
    · rfl

/-! ## The main result -/

theorem Model.findThenWrite (m : Model) (criteria : Filter) (doc : UpdateDoc) (upsert : Bool)
    (ex : Executor σ) (s : σ) :
    FindThenWrite m criteria doc upsert ex s ((m.findOneAndUpdate criteria doc upsert).run.run ex s) := by
  by_cases he : criteria.HasEmptyList
  -- an empty list: the query is refused, and its fault ends the run
  · obtain ⟨e, cause, hresult, hroot, hrequests⟩ := run_findOne_refused m he ex s
    have hnone : ((m.findOneAndUpdate criteria doc upsert).run.run ex s).requests = [] := by
      unfold findOneAndUpdate
      dsimp only
      rw [Action.requests_bind, Action.run_mapError]
      dsimp only
      rw [hrequests, hresult]
      rfl
    have herror : ((m.findOneAndUpdate criteria doc upsert).run.run ex s).result =
        .error (m.around "find_one_and_update" e) := by
      unfold findOneAndUpdate
      dsimp only
      rw [Action.result_bind, Action.run_mapError]
      dsimp only
      rw [hresult]
      rfl
    refine ⟨⟨fun _ => he, fun _ => hnone⟩, fun _ => ⟨_, cause, herror, hroot⟩, .inl hnone, ?_, ?_⟩
    · intro sql params
      rw [hnone]
      exact ⟨fun h => (by cases h), fun h => absurd he h.1⟩
    · intro sql params
      rw [hnone]
      exact ⟨fun h => (by cases h), fun h => absurd he h.1⟩
  -- the query is asked, and its first row decides what follows
  · have hrequests := requests_findOneAndUpdate m he doc upsert ex s
    have hne : ((m.findOneAndUpdate criteria doc upsert).run.run ex s).requests ≠ [] := by
      rw [hrequests]
      exact List.cons_ne_nil _ _
    refine ⟨⟨fun h => absurd h hne, fun h => absurd h he⟩, fun h => absurd h hne, .inr ?_, ?_, ?_⟩
    · rw [hrequests]
      cases m.firstRow criteria ex s with
      | error e => exact .inl rfl
      | ok found =>
        rcases writes_cases m criteria doc upsert found with h | ⟨sql, params, h⟩ | ⟨sql, params, h⟩
        · exact .inl (congrArg _ h)
        · exact .inr (.inl ⟨sql, params, congrArg _ h⟩)
        · exact .inr (.inr ⟨sql, params, congrArg _ h⟩)
    · intro sql params
      rw [hrequests, List.cons_inj_right]
      cases m.firstRow criteria ex s with
      | error e => exact ⟨fun h => (by cases h), fun ⟨_, ⟨_, h, _⟩, _⟩ => (by cases h)⟩
      | ok found =>
        dsimp only
        rw [writes_eq_query]
        constructor
        · rintro ⟨hf, hwrite⟩
          exact ⟨he, ⟨found, rfl, hf⟩, hwrite⟩
        · rintro ⟨-, ⟨found', hfound, hf⟩, hwrite⟩
          cases hfound
          exact ⟨hf, hwrite⟩
    · intro sql params
      rw [hrequests, List.cons_inj_right]
      cases m.firstRow criteria ex s with
      | error e => exact ⟨fun h => (by cases h), fun ⟨_, _, _, h, _⟩ => (by cases h)⟩
      | ok found =>
        dsimp only
        rw [writes_eq_execute]
        constructor
        · rintro ⟨hf, set, hwrite⟩
          exact ⟨he, found, set, rfl, hf, hwrite⟩
        · rintro ⟨-, found', set, hfound, hf, hwrite⟩
          cases hfound
          exact ⟨hf, set, hwrite⟩

/-- **Find, then write.** Whatever the executor answers, it sees one of the sequences and each write under
its conditions only; the inserted record is the merge with its identifier, and the updated row is the one
that was found. -/
theorem find_then_write :
    ∀ (σ : Type) (m : Model) (criteria : Filter) (doc : UpdateDoc) (upsert : Bool) (ex : Executor σ) (s : σ),
      FindThenWrite m criteria doc upsert ex s ((m.findOneAndUpdate criteria doc upsert).run.run ex s) ∧
        Upserted m doc (m.upserted doc) ∧ ∀ found, Pinned criteria found (Model.pinned criteria found) :=
  fun _ m criteria doc upsert ex s =>
    ⟨m.findThenWrite criteria doc upsert ex s, m.upserted_spec doc, Model.pinned_spec criteria⟩

/-- An upsert of a user that is not there, and of one that is: a value for insertion only wins in the
first, and is not bound in the second. -/
theorem find_then_write_users :
    let criteria := Filter.empty.literal "name" (.text "Ada")
    let doc : UpdateDoc := ⟨some (.ofList [("name", .text "Ada"), ("city", .text "Rome")]),
      some (.ofList [("age", .int 7), ("name", .text "Eve")])⟩
    let ada : Executor Unit :=
      { Executor.idle with
        query _ _ s := ⟨.ok [.ofList [("_id", .text "u7"), ("name", .text "Ada")]], [], s⟩ }
    let find : Request := .query "SELECT * FROM users WHERE name = $1 LIMIT 1" [.text "Ada"]
    ((Model.users.findOneAndUpdate criteria doc true).run.run .idle ()).requests =
        [find, .query "INSERT INTO users (name,city,age,_id) values ($1,$2,$3,$4)"
          [.text "Eve", .text "Rome", .int 7, .text "users:0"]] ∧
      ((Model.users.findOneAndUpdate criteria doc true).run.run ada ()).requests =
        [find, .execute ("WITH cte AS ( SELECT _id FROM users WHERE _id = $1 LIMIT 1 ) " ++
          "UPDATE users SET name = $2 FROM cte WHERE cte._id = users._id") [.text "u7", .text "Ada"]] := by
  intro criteria doc ada find
  have hfind : find = Model.users.findRequest criteria := by decide
  rw [hfind]
  constructor
  · have hidle := (find_then_write Unit .users criteria doc true .idle ()).1
    refine (hidle.inserts_iff _ _).2 ⟨by decide, ⟨.empty, rfl, rfl⟩, rfl, ?_, ?_, ?_⟩ <;> decide
  · have hada := (find_then_write Unit .users criteria doc true ada ()).1
    refine (hada.updates_iff _ _).2 ⟨by decide, _, _, rfl, rfl, rfl, ?_, ?_, ?_⟩ <;> decide

end CriteriaSql
