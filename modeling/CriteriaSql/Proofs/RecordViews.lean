import CriteriaSql.Database.Session
import CriteriaSql.Proofs.Merging

/-!
# The views of a record

A record can be read by looking up a column, by going through its entries and by its JSON object. The first takes the
first value of a repeated column and the last one keeps its last value, so that the three agree on a record just when
no column is repeated. Insertion repeats none; but a row of a result is taken as it comes, and what is inserted into
it later does not change that.

* `Record.toJson_eq`: the JSON object has the entries as they would be inserted one after another.
* `Record.viewsAgree_iff`: the views agree just where no column is repeated.
* `Record.Obtained`: the ways to get a record, with the names of the row that it began as; `Record.obtained_of_rows`:
  the records of a reply.
* `record_views_agree`: such a record's views agree just where that row had no name twice.
* `record_views_disagree`: a reply that has one twice.
-/

namespace CriteriaSql

namespace Record

/-! ## JSON objects -/

/-- The member of a JSON object for an entry. -/
def member (e : String × Value) : String × Json := (e.1, e.2.toJson)

theorem put_member (column : String) (value : Value) (es : List (String × Value)) :
    Json.put column value.toJson (es.map member) = (insertEntry column value es).map member := by
  induction es with
  | nil => rfl
  | cons e es ih =>
    rw [List.map_cons, Json.put, insertEntry]
    by_cases he : e.1 = column
    · rw [if_pos (show (member e).1 = column from he), if_pos he]
      rfl
    · rw [if_neg (show (member e).1 ≠ column from he), if_neg he, ih]
      rfl

/-- **The JSON object of a record** has its entries as they would be inserted one after another. -/
theorem toJson_eq (r : Record) : r.toJson = .object ((ofList r.entries).entries.map member) := by
  have hfold : ∀ (es : List (String × Value)) (t : Record),
      es.foldl (fun ms e => Json.put e.1 e.2.toJson ms) (t.entries.map member) =
        (t.insertAll es).entries.map member := by
    intro es
    induction es with
    | nil => intro t; rfl
    | cons e es ih =>
      intro t
      rw [List.foldl_cons, put_member, insertAll_cons]
      exact ih (t.insert e.1 e.2)
  exact congrArg Json.object (hfold r.entries empty)

theorem find?_member (column : String) (r : Record) :
    ((r.entries.map member).find? fun m => m.1 = column).map (·.2) = (r.get? column).map Value.toJson := by
  rw [List.find?_map, get?, Option.map_map, Option.map_map]
  rfl

/-- The JSON object of a record has these names in this order, and these values. -/
def Renders (r : Record) (names : List String) (value? : String → Option Value) : Prop :=
  ∃ members, r.toJson = .object members ∧ members.map (·.1) = names ∧
    ∀ c, (members.find? fun m => m.1 = c).map (·.2) = (value? c).map Value.toJson

/-- **A repeated column** is rendered once, where it comes first and with its last value. -/
theorem renders_last (r : Record) : r.Renders r.columns.eraseDups fun c => last? c r.entries := by
  refine ⟨_, toJson_eq r, ?_, fun c => ?_⟩
  · have hcolumns := columns_ofList r.entries
    rw [List.map_map]
    exact hcolumns
  · rw [find?_member, get?_ofList]

/-! ## Views -/

/-- Looking up, going through the entries and the JSON object tell the same of each column, and the object has as many
keys as there are entries. -/
structure ViewsAgree (r : Record) : Prop where
  json : ∃ members, r.toJson = .object members ∧ (members.map (·.1)).Nodup ∧ members.length = r.size ∧
    ∀ c, (members.find? fun m => m.1 = c).map (·.2) = (r.get? c).map Value.toJson
  entries : ∀ c v, (c, v) ∈ r.entries ↔ r.get? c = some v

/-- **The views of a record agree** just where no column is repeated. -/
theorem viewsAgree_iff {r : Record} : r.ViewsAgree ↔ r.columns.Nodup := by
  obtain ⟨members, hjson, hnames, hvalues⟩ := renders_last r
  -- the object has one key for each column
  have hlength : members.length = r.columns.eraseDups.length := by
    rw [← hnames, List.length_map]
  have hsize : r.size = r.columns.length := by
    rw [size, columns, List.length_map]
  constructor
  · intro h
    obtain ⟨members', hjson', -, hsize', -⟩ := h.json
    have hmembers : members' = members := Json.object.inj (hjson'.symm.trans hjson)
    rw [← length_eraseDups, ← hlength, ← hmembers, hsize', hsize]
  · intro h
    have hdistinct : (members.map (·.1)).Nodup := by
      rw [hnames]
      exact nodup_eraseDups _
    have hsize' : members.length = r.size := by
      rw [hlength, hsize, length_eraseDups]
      exact h
    refine ⟨⟨members, hjson, hdistinct, hsize', fun c => ?_⟩, fun c v => (get?_eq_some h).symm⟩
    rw [hvalues, ← last?_eq_get? h]

/-! ## Rows -/

/-- A row is decoded with the names it has. -/
theorem columns_decodeRow {index : Nat} {cells : List ((String × ColumnType) × Option Bytes)}
    {entries : List (String × Value)} (h : Session.decodeRow index cells = .ok entries) :
    entries.map (·.1) = cells.map (·.1.1) := by
  induction cells generalizing index entries with
  | nil =>
    cases h
    rfl
  | cons cell cells ih =>
    obtain ⟨⟨name, t⟩, raw⟩ := cell
    unfold Session.decodeRow at h
    cases hvalue : Value.decode t raw with
    | error cause => simp [hvalue] at h
    | ok v =>
      rw [hvalue] at h
      obtain ⟨rest, hrest, rfl⟩ := Result.map_eq_ok.1 h
      rw [List.map_cons, List.map_cons, ih hrest]

/-- The ways to get a record, with the names of the row that it began as, if it began as one. -/
inductive Obtained : List String → Record → Prop
  | built {log : List (String × Value)} {r : Record} (h : Built log r) : Obtained [] r
  | row {cells : List ((String × ColumnType) × Option Bytes)} {entries : List (String × Value)}
    (h : Session.decodeRow 0 cells = .ok entries) : Obtained (cells.map (·.1.1)) ⟨entries⟩
  | insert {names : List String} {r : Record} (column : String) (value : Value) (h : Obtained names r) :
    Obtained names (r.insert column value)
  | merge {names others : List String} {a b : Record} (ha : Obtained names a) (hb : Obtained others b) :
    Obtained names (a.merge b)

/-- **The records of a reply** began as rows with the names of its columns. -/
theorem obtained_of_rows {reply : ServerReply} (hfull : Session.hasFullRows reply = true) {records : List Record}
    (h : Session.rows reply = .ok records) : ∀ r ∈ records, Obtained (reply.columns.map (·.1)) r := by
  intro r hr
  obtain ⟨row, hrow, hdecoded⟩ := Result.mem_of_mapM h hr
  obtain ⟨entries, hentries, rfl⟩ := Result.map_eq_ok.1 hdecoded
  have hlength : row.length = reply.columns.length := eq_of_beq (List.all_eq_true.1 hfull row hrow)
  have hzip : (reply.columns.zip row).map Prod.fst = reply.columns := List.map_fst_zip (Nat.le_of_eq hlength.symm)
  have hnames := congrArg (List.map Prod.fst) hzip
  rw [List.map_map] at hnames
  rw [← hnames]
  exact .row hentries

/-- **Only a row repeats a column**, and what is done to it later does not change that. -/
theorem Obtained.nodup_iff {names : List String} {r : Record} (h : Obtained names r) :
    r.columns.Nodup ↔ names.Nodup := by
  induction h with
  | built h => exact iff_of_true h.isMapOf.distinct List.nodup_nil
  | row h =>
    rw [columns, columns_decodeRow h]
  | @insert names r column value _ ih =>
    have hinsert : (r.insertAll [(column, value)]).columns.Nodup ↔ r.columns.Nodup := nodup_insertAll
    exact hinsert.trans ih
  | @merge names others a b _ _ ih _ =>
    have hmerge : (a.merge b).columns.Nodup ↔ a.columns.Nodup := nodup_insertAll
    exact hmerge.trans ih

end Record

/-- **The views of a record agree** just where the row that it began as has no name twice; a record that began empty
has no such row. Where the views do not agree, the JSON object has the last value of each column. -/
theorem record_views_agree {names : List String} {r : Record} (h : Record.Obtained names r) :
    (r.ViewsAgree ↔ names.Nodup) ∧ r.Renders r.columns.eraseDups fun c => Record.last? c r.entries :=
  ⟨Record.viewsAgree_iff.trans h.nodup_iff, r.renders_last⟩

/-- A reply with two columns, and a third inserted later. -/
theorem record_views_agree_users :
    let reply : ServerReply :=
      ⟨none, [("id", .int4), ("name", .text)], [[some [0, 0, 0, 1], some [65]]], "SELECT 1", none⟩
    let r : Record := ⟨[("id", .int 1), ("name", .text "A")]⟩
    Session.rows reply = .ok [r] ∧ r.ViewsAgree ∧ (r.insert "age" (.int 30)).ViewsAgree := by
  intro reply r
  have hrows : Session.rows reply = .ok [r] := by decide +kernel
  have hr : Record.Obtained ["id", "name"] r := Record.obtained_of_rows (by decide) hrows r List.mem_cons_self
  have hinserted : Record.Obtained ["id", "name"] (r.insert "age" (.int 30)) := hr.insert "age" (.int 30)
  have hnames : ["id", "name"].Nodup := by decide
  exact ⟨hrows, (record_views_agree hr).1.2 hnames, (record_views_agree hinserted).1.2 hnames⟩

/-- A reply with one name twice: its row has two entries but one key, and a look-up finds one value where the JSON
object has the other. -/
theorem record_views_disagree :
    let reply : ServerReply :=
      ⟨none, [("id", .int4), ("id", .int4)], [[some [0, 0, 0, 1], some [0, 0, 0, 2]]], "SELECT 1", none⟩
    let r : Record := ⟨[("id", .int 1), ("id", .int 2)]⟩
    Session.rows reply = .ok [r] ∧ Record.Obtained ["id", "id"] r ∧ r.size = 2 ∧ r.get? "id" = some (.int 1) ∧
      r.toJson = .object [("id", Json.ofInt 2)] ∧ ¬ r.ViewsAgree := by
  intro reply r
  have hrows : Session.rows reply = .ok [r] := by decide +kernel
  have hr : Record.Obtained ["id", "id"] r := Record.obtained_of_rows (by decide) hrows r List.mem_cons_self
  refine ⟨hrows, hr, rfl, by decide, rfl, ?_⟩
  rw [Record.viewsAgree_iff]
  decide

end CriteriaSql
