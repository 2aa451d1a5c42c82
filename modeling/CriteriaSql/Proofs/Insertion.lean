import CriteriaSql.Proofs.Record
import CriteriaSql.Proofs.Run
import CriteriaSql.Proofs.Writes

/-!
# Insertions of one row

Inserting a row goes through its record three times, for the columns, the placeholders and the values. They are
those of the data in their order, and behind them an identifier if the table has one and the data do not. What the
insertion reports as the generated identifier is what it bound.

* `Model.inserted`: the entries that an insertion binds.
* `Model.withIdentifier_eq_ite`, `Model.run_insertOne`: the record that is inserted, and the run of its insertion.
* `InsertsOnce`: an insertion seen from outside; `insertions_bind_once`: every insertion is one.
-/

namespace CriteriaSql

variable {σ : Type}

/-- A column that is new is inserted behind the others. -/
theorem Record.entries_insert {column : String} {r : Record} (h : column ∉ r.columns) (value : Value) :
    (r.insert column value).entries = r.entries ++ [(column, value)] := by
  obtain ⟨entries⟩ := r
  unfold columns at h
  unfold insert
  induction entries with
  | nil => rfl
  | cons e entries ih =>
    rw [List.map_cons, List.mem_cons, not_or] at h
    have hrest : insertEntry column value entries = entries ++ [(column, value)] := ih h.2
    have hne : e.1 ≠ column := fun he => h.1 he.symm
    rw [insertEntry, if_neg hne, hrest, List.cons_append]

namespace Model

/-! ## What is inserted -/

/-- The table has an identifier, and the data do not give one. -/
def Identifies (m : Model) (data : Record) : Prop :=
  m.schema.hasField "_id" = true ∧ "_id" ∉ data.columns

instance (m : Model) (data : Record) : Decidable (m.Identifies data) :=
  inferInstanceAs (Decidable (_ ∧ _))

/-- The identifier of the next row. -/
def nextId (m : Model) : String := m.ids.generate m.schema.name

/-- The columns and values that an insertion binds: the data, and behind them an identifier if there is need. -/
def inserted (m : Model) (data : Record) : List (String × Value) :=
  data.entries ++ if m.Identifies data then [("_id", .text m.nextId)] else []

/-- The text of an insertion of entries. -/
def insertionText (m : Model) (entries : List (String × Value)) : String :=
  "INSERT INTO " ++ m.schema.name ++ " (" ++ ",".intercalate (entries.map (·.1)) ++ ") values (" ++
    ",".intercalate ((List.range' 1 entries.length).map fun n => "$" ++ toString n) ++ ")" ++
    if m.schema.hasField "id" then " RETURNING id" else ""

/-- A record gets an identifier when the table has one and the record does not. -/
theorem withIdentifier_eq_ite (m : Model) (data : Record) :
    m.withIdentifier data =
      if m.Identifies data then (data.insert "_id" (.text m.nextId), some m.nextId) else (data, none) := by
  have hc : data.contains "_id" = decide ("_id" ∈ data.columns) := by
    rw [Bool.eq_iff_iff, Record.contains_iff, decide_eq_true_eq]
  have hid : m.withIdentifier data =
      if m.schema.hasField "_id" && !data.contains "_id" then
        (data.insert "_id" (.text m.nextId), some m.nextId) else (data, none) := rfl
  rw [hid, hc]
  unfold Identifies
  by_cases hf : m.schema.hasField "_id" = true <;> by_cases hmem : "_id" ∈ data.columns <;> simp [hf, hmem]

theorem entries_withIdentifier (m : Model) (data : Record) :
    (m.withIdentifier data).1.entries = m.inserted data := by
  rw [withIdentifier_eq_ite, inserted]
  by_cases h : m.Identifies data
  · rw [if_pos h, if_pos h]
    exact Record.entries_insert h.2 _
  · rw [if_neg h, if_neg h, List.append_nil]

theorem insertSql_eq (m : Model) (data : Record) : m.insertSql data = m.insertionText data.entries := by
  have hreturning : Statement.returningText (if m.schema.hasField returnedId then some returnedId else none) =
      if m.schema.hasField "id" then " RETURNING id" else "" := by
    change Statement.returningText (if m.schema.hasField "id" then some "id" else none) = _
    split
    · exact (by decide : " RETURNING " ++ "id" = " RETURNING id")
    · rfl
  unfold insertSql Statement.insertText insertionText
  rw [hreturning]
  rfl

/-- With distinct columns in the data, each column is inserted once. -/
theorem inserted_nodup {m : Model} {data : Record} (h : data.columns.Nodup) :
    ((m.inserted data).map (·.1)).Nodup := by
  rw [inserted, List.map_append]
  by_cases hid : m.Identifies data
  · rw [if_pos hid]
    exact Schema.nodup_append_singleton h hid.2
  · rw [if_neg hid, List.map_nil, List.append_nil]
    exact h

/-! ## The run -/

/-- The statement of an insertion, which needs a column. -/
theorem insertStatement_eq (m : Model) (data : Record) :
    m.insertStatement data =
      if data.entries = [] then .error (.validation (.insertWithoutFields m.schema.name))
      else .ok (.bound [m.insertionText data.entries] (data.entries.map (·.2)) 1) := by
  unfold insertStatement Statement.insert
  by_cases hnil : data.entries = []
  · rw [if_pos hnil, Record.isEmpty, hnil]
    rfl
  · have hempty : data.isEmpty = false := List.isEmpty_eq_false_iff.2 hnil
    rw [if_neg hnil, hempty, ← insertSql_eq]
    rfl

/-- What an insertion reports of the rows that come back. -/
def insertResult (m : Model) (data : Record) (rows : List Record) : InsertResult :=
  ⟨(rows.head?.bind (·.get? "id")).bind Value.int?, if m.Identifies data then some m.nextId else none⟩

/-- Without a column, nothing is asked. -/
theorem run_insertOne_refused (m : Model) {data : Record} (h : m.inserted data = []) (ex : Executor σ) (s : σ) :
    (m.insertOne data).run.run ex s =
      ⟨.error (m.around "insert_one" (.validation (.insertWithoutFields m.schema.name))), [], [], s⟩ := by
  unfold insertOne
  dsimp only
  rw [run_compiled, insertStatement_eq, entries_withIdentifier, if_pos h]

/-- **With a column, one query is asked**, and its rows are reported. -/
theorem run_insertOne (m : Model) {data : Record} (h : m.inserted data ≠ []) (ex : Executor σ) (s : σ) :
    let sql := m.insertionText (m.inserted data)
    let params := (m.inserted data).map (·.2)
    ((m.insertOne data).run.run ex s).requests = [.query sql params] ∧
      ((m.insertOne data).run.run ex s).result =
        ((ex.query sql params s).result.mapError (m.around "insert_one")).map (m.insertResult data) := by
  intro sql params
  have hsynthetic : (m.withIdentifier data).2 = if m.Identifies data then some m.nextId else none := by
    rw [withIdentifier_eq_ite]
    split <;> rfl
  have hsql : (Statement.bound [sql] params 1).sql = sql := String.intercalate_singleton
  unfold insertOne
  dsimp only
  rw [run_compiled, insertStatement_eq, entries_withIdentifier, if_neg h]
  dsimp only
  rw [Action.requests_bind_pure, Action.result_bind, run_fetch, hsql, hsynthetic]
  dsimp only [Statement.bound]
  refine ⟨rfl, ?_⟩
  cases (ex.query sql params s).result <;> rfl

end Model

/-! ## The main result -/

/-- An insertion of data, seen from outside. The entries that it binds have distinct columns. Without any it is
refused, and the executor is not called. Otherwise one query is made, for the text and the values of the entries;
an error comes back as it is, and rows come back as the integer that the first one has for its `id`, if any. The
identifier that is reported is there if one was added, and is the one that was bound; one that the data give
stays. -/
structure InsertsOnce (m : Model) (data : Record) (ex : Executor σ) (s : σ)
    (r : Run σ (Except Error InsertResult)) : Prop where
  distinct : ((m.inserted data).map (·.1)).Nodup
  refuses : m.inserted data = [] → r.requests = [] ∧ ∃ e cause, r.result = .error e ∧ e.root = .validation cause
  requests : m.inserted data ≠ [] →
    r.requests = [.query (m.insertionText (m.inserted data)) ((m.inserted data).map (·.2))]
  fails : m.inserted data ≠ [] → ∀ e,
    (ex.query (m.insertionText (m.inserted data)) ((m.inserted data).map (·.2)) s).result = .error e →
      r.result = .error (m.around "insert_one" e)
  succeeds : m.inserted data ≠ [] → ∀ rows,
    (ex.query (m.insertionText (m.inserted data)) ((m.inserted data).map (·.2)) s).result = .ok rows →
      ∃ reported, r.result = .ok reported ∧ ∀ n, reported.id = some n ↔
        ∃ row rest v, rows = row :: rest ∧ row.get? "id" = some v ∧ v.int? = some n
  reports : ∀ reported, r.result = .ok reported → ∀ x, reported.syntheticId = some x ↔
    m.Identifies data ∧ x = m.nextId
  binds : ∀ reported, r.result = .ok reported → ∀ x, reported.syntheticId = some x →
    ∀ v, ("_id", v) ∈ m.inserted data ↔ v = .text x
  keeps : ∀ v, ("_id", v) ∈ data.entries → ∀ w, ("_id", w) ∈ m.inserted data ↔ w = v

/-- **Every insertion of distinct columns binds each of them once**, whatever the executor answers. -/
theorem insertions_bind_once (m : Model) {data : Record} (h : data.columns.Nodup) (ex : Executor σ) (s : σ) :
    InsertsOnce m data ex s ((m.insertOne data).run.run ex s) := by
  have hdistinct : (Record.mk (m.inserted data)).columns.Nodup := Model.inserted_nodup h
  -- what succeeds has asked for something, and reports the rows that came back
  have hok : ∀ reported, ((m.insertOne data).run.run ex s).result = .ok reported →
      ∃ rows, reported = m.insertResult data rows := by
    intro reported hr
    by_cases hnil : m.inserted data = []
    · rw [m.run_insertOne_refused hnil] at hr
      cases hr
    · rw [(m.run_insertOne hnil ex s).2] at hr
      obtain ⟨rows, -, hrows⟩ := Result.map_eq_ok.1 hr
      exact ⟨rows, hrows.symm⟩
  have hreports : ∀ reported, ((m.insertOne data).run.run ex s).result = .ok reported →
      ∀ x, reported.syntheticId = some x ↔ m.Identifies data ∧ x = m.nextId := by
    intro reported hr x
    obtain ⟨rows, rfl⟩ := hok reported hr
    unfold Model.insertResult
    by_cases hid : m.Identifies data <;> simp [hid, eq_comm]
  refine ⟨hdistinct, ?_, fun hne => (m.run_insertOne hne ex s).1, ?_, ?_, hreports, ?_, ?_⟩
  · intro hnil
    rw [m.run_insertOne_refused hnil]
    exact ⟨rfl, _, _, rfl, rfl⟩
  · intro hne e he
    rw [(m.run_insertOne hne ex s).2, he]
    rfl
  · intro hne rows hrows
    refine ⟨m.insertResult data rows, ?_, ?_⟩
    · rw [(m.run_insertOne hne ex s).2, hrows]
      rfl
    · intro n
      unfold Model.insertResult
      cases rows with
      | nil => simp
      | cons row rest => simp [Option.bind_eq_some_iff]
  · intro reported hr x hx
    obtain ⟨hid, rfl⟩ := (hreports reported hr x).1 hx
    have hbound : ("_id", .text m.nextId) ∈ m.inserted data := by
      rw [Model.inserted, if_pos hid]
      exact List.mem_append_right _ List.mem_cons_self
    exact Record.mem_entries hdistinct hbound
  · intro v hv
    exact Record.mem_entries hdistinct (List.mem_append_left _ hv)

/-- A user without an identifier, and one who has none on purpose: the first gets the one that is reported, and the
database's key is read off the row that comes back; for the second nothing is added. -/
theorem insertions_bind_once_users :
    let ex : Executor Unit :=
      { Executor.idle with query _ _ s := ⟨.ok [⟨[("id", .text " 7 "), ("id", .null)]⟩, .empty], [], s⟩ }
    let m : Model := { Model.users with schema := Schema.users.addField "id" }
    let ann : Record := ⟨[("age", .int 30), ("name", .text "Ann")]⟩
    let nobody : Record := ⟨[("_id", .null)]⟩
    ((m.insertOne ann).run.run ex ()).requests =
        [.query "INSERT INTO users (age,name,_id) values ($1,$2,$3) RETURNING id"
          [.int 30, .text "Ann", .text "users:0"]] ∧
      (∃ reported, ((m.insertOne ann).run.run ex ()).result = .ok reported ∧ reported.id = some 7 ∧
        reported.syntheticId = some "users:0") ∧
      ((m.insertOne nobody).run.run ex ()).requests =
        [.query "INSERT INTO users (_id) values ($1) RETURNING id" [.null]] := by
  intro ex m ann nobody
  have hann : InsertsOnce m ann ex () _ := insertions_bind_once m (by decide) ex ()
  have hnobody : InsertsOnce m nobody ex () _ := insertions_bind_once m (by decide) ex ()
  refine ⟨?_, ?_, ?_⟩
  · rw [hann.requests (by decide)]
    decide
  · obtain ⟨reported, hr, hid⟩ := hann.succeeds (by decide) _ rfl
    refine ⟨reported, hr, (hid 7).2 ⟨_, _, .text " 7 ", rfl, rfl, by decide⟩, ?_⟩
    exact (hann.reports reported hr "users:0").2 ⟨by decide, by decide⟩
  · rw [hnobody.requests (by decide)]
    decide

end CriteriaSql
