import CriteriaSql.Proofs.Record
import CriteriaSql.Proofs.Result
import CriteriaSql.UpdateDoc
import Mathlib.Data.List.Induction
import Mathlib.Data.List.Nodup

/-!
# Records built by insertion

However a record is built, it is what insertions one after another leave behind: its columns are those inserted, each
once and where it came first, and a column has the value that was inserted last. Such records are determined by
their columns and their look-ups, and so merging them is associative and idempotent and has the empty record as
identity on both sides.

* `Record.Built`: the ways to build a record, with what was inserted; `Record.Built.eq_ofList`: they come to one.
* `Record.columns_ofList`, `Record.get?_ofList`: what insertions leave behind.
* `Record.eq_of_columns`: a record with distinct columns is determined by its columns and its look-ups.
* `Record.merge_assoc`, `Record.merge_self`, `Record.empty_merge`: the laws of merging.
* `UpdateDoc.readMembers_perm`, `UpdateDoc.isBuilt_ofJson`: the order of an update document's keys, and its records.
* `records_are_ordered_maps`: all of this together.
-/

namespace CriteriaSql

/-! ## Distinct elements -/

section Distinct

variable {α : Type} [DecidableEq α]

theorem eraseDups_concat (as : List α) (a : α) :
    (as ++ [a]).eraseDups = if a ∈ as then as.eraseDups else as.eraseDups ++ [a] := by
  rw [List.eraseDups_append]
  split
  · next h => simp [List.removeAll, h]
  · next h => simp [List.removeAll, List.eraseDups_cons, h]

theorem nodup_eraseDups (as : List α) : as.eraseDups.Nodup := by
  induction as using List.reverseRecOn with
  | nil => exact List.nodup_nil
  | append_singleton as a ih =>
    rw [eraseDups_concat]
    split
    · exact ih
    · next hnew =>
      rw [← List.concat_eq_append, List.nodup_concat]
      exact ⟨fun hmem => hnew (List.mem_eraseDups.1 hmem), ih⟩

theorem eraseDups_sublist (as : List α) : as.eraseDups.Sublist as := by
  induction as using List.reverseRecOn with
  | nil => exact List.Sublist.refl _
  | append_singleton as a ih =>
    rw [eraseDups_concat]
    split
    · exact ih.trans (List.sublist_append_left as [a])
    · exact ih.append_right [a]

/-- Only a list without repetitions is as long as its distinct elements. -/
theorem length_eraseDups {as : List α} : as.eraseDups.length = as.length ↔ as.Nodup := by
  constructor
  · intro h
    rw [← (eraseDups_sublist as).eq_of_length h]
    exact nodup_eraseDups as
  · intro h
    induction as using List.reverseRecOn with
    | nil => rfl
    | append_singleton as a ih =>
      rw [← List.concat_eq_append, List.nodup_concat] at h
      rw [eraseDups_concat, if_neg h.1, List.length_append, List.length_append, ih h.2]

theorem eraseDups_eq_self {as : List α} (h : as.Nodup) : as.eraseDups = as :=
  (eraseDups_sublist as).eq_of_length (length_eraseDups.2 h)

end Distinct

namespace Record

/-! ## Insertions one after another -/

theorem columns_insertAll_eq (r : Record) (es : List (String × Value)) :
    (r.insertAll es).columns =
      r.columns ++ ((es.map (·.1)).filter fun c => decide (c ∉ r.columns)).eraseDups := by
  have hfold : (r.insertAll es).columns = (es.map (·.1)).foldl addNew r.columns := by
    induction es generalizing r with
    | nil => rfl
    | cons e es ih =>
      rw [insertAll_cons, ih, columns_insert]
      rfl
  rw [hfold, foldl_addNew]

/-- **The columns are those inserted**, each once and where it came first. -/
theorem columns_ofList (log : List (String × Value)) : (ofList log).columns = (log.map (·.1)).eraseDups := by
  rw [ofList, columns_insertAll_eq]
  simp [empty, columns]

/-- **A column has the value inserted last.** -/
theorem get?_ofList (log : List (String × Value)) (c : String) : (ofList log).get? c = last? c log := by
  rw [ofList, get?_insertAll]
  exact Option.or_none

/-- Insertions repeat no column, and a column that was repeated before stays so. -/
theorem nodup_insertAll {r : Record} {es : List (String × Value)} :
    (r.insertAll es).columns.Nodup ↔ r.columns.Nodup := by
  rw [columns_insertAll_eq]
  constructor
  · intro h
    exact h.of_append_left
  · intro h
    refine h.append (nodup_eraseDups _) ?_
    intro c hc hnew
    have hnot := (List.mem_filter.1 (List.mem_eraseDups.1 hnew)).2
    exact of_decide_eq_true hnot hc

/-- Where no column is repeated, the first value of a column is the last one. -/
theorem last?_eq_get? {r : Record} (h : r.columns.Nodup) (c : String) : last? c r.entries = r.get? c := by
  obtain ⟨entries⟩ := r
  unfold columns at h
  induction entries with
  | nil => rfl
  | cons e entries ih =>
    obtain ⟨hnew, hrest⟩ := List.nodup_cons.1 h
    rw [last?, ih hrest, get?_cons]
    by_cases he : e.1 = c
    · have hnone : get? c ⟨entries⟩ = none := get?_eq_none.2 (he ▸ hnew)
      rw [if_pos he, if_pos he, hnone, Option.none_or]
    · rw [if_neg he, if_neg he, Option.or_none]

/-! ## Equality -/

/-- Where no column is repeated, the entries are the columns with their look-ups. -/
theorem entries_eq {r : Record} (h : r.columns.Nodup) :
    r.entries = r.columns.filterMap fun c => (r.get? c).map (c, ·) := by
  obtain ⟨entries⟩ := r
  unfold columns at h ⊢
  induction entries with
  | nil => rfl
  | cons e entries ih =>
    obtain ⟨hnew, hrest⟩ := List.nodup_cons.1 h
    have hhead : get? e.1 ⟨e :: entries⟩ = some e.2 := by rw [get?_cons, if_pos rfl]
    have htail : (entries.map (·.1)).filterMap (fun c => (get? c ⟨e :: entries⟩).map (c, ·)) = entries := by
      rw [List.filterMap_congr, ← ih hrest]
      intro c hc
      have hne : e.1 ≠ c := by
        rintro rfl
        exact hnew hc
      rw [get?_cons, if_neg hne]
    simp only [List.map_cons, List.filterMap_cons, hhead, Option.map_some, htail]

/-- **Columns and look-ups determine a record** in which no column is repeated. -/
theorem eq_of_columns {r t : Record} (h : r.columns.Nodup) (hc : r.columns = t.columns)
    (hv : ∀ c, r.get? c = t.get? c) : r = t := by
  have hentries : r.entries = t.entries := by
    rw [entries_eq h, entries_eq (hc ▸ h), hc]
    simp only [hv]
  obtain ⟨entries⟩ := r
  exact congrArg Record.mk hentries

/-- Inserting the entries of such a record again gives the same record. -/
theorem ofList_entries {r : Record} (h : r.columns.Nodup) : ofList r.entries = r := by
  have hcolumns : (ofList r.entries).columns = r.columns := by
    rw [columns_ofList]
    exact eraseDups_eq_self h
  refine eq_of_columns (hcolumns ▸ h) hcolumns fun c => ?_
  rw [get?_ofList, last?_eq_get? h]

/-! ## Merging -/

/-- **The columns of a merge**: the new ones follow in their order. -/
theorem columns_merge_eq (a : Record) {b : Record} (hb : b.columns.Nodup) :
    (a.merge b).columns = a.columns ++ b.columns.filter fun c => decide (c ∉ a.columns) := by
  rw [merge, columns_insertAll_eq]
  exact congrArg _ (eraseDups_eq_self (hb.filter _))

/-- **The values of a merge**: those of the second record win. -/
theorem get?_merge_eq (a : Record) {b : Record} (hb : b.columns.Nodup) (c : String) :
    (a.merge b).get? c = (b.get? c).or (a.get? c) := by
  rw [get?_merge, last?_eq_get? hb]

theorem nodup_merge {a : Record} (ha : a.columns.Nodup) (b : Record) : (a.merge b).columns.Nodup :=
  nodup_insertAll.2 ha

variable {a b c : Record}

/-- **Merging is associative**, for columns, order and values. -/
theorem merge_assoc (ha : a.columns.Nodup) (hb : b.columns.Nodup) (hc : c.columns.Nodup) :
    (a.merge b).merge c = a.merge (b.merge c) := by
  have hbc := nodup_merge hb c
  refine eq_of_columns (nodup_merge (nodup_merge ha b) c) ?_ fun x => ?_
  · rw [columns_merge_eq _ hc, columns_merge_eq a hb, columns_merge_eq a hbc, columns_merge_eq b hc,
      List.filter_append, List.append_assoc, List.filter_filter]
    -- what is new to the first two is new to the second, and then to the first
    have hnew : (c.columns.filter fun x =>
          decide (x ∉ a.columns ++ b.columns.filter fun y => decide (y ∉ a.columns))) =
        c.columns.filter fun x => decide (x ∉ a.columns) && decide (x ∉ b.columns) := by
      refine List.filter_congr fun x _ => ?_
      by_cases hxa : x ∈ a.columns <;> by_cases hxb : x ∈ b.columns <;> simp [hxa, hxb]
    rw [hnew]
  · rw [get?_merge_eq _ hc, get?_merge_eq a hb, get?_merge_eq a hbc, get?_merge_eq b hc, Option.or_assoc]

/-- **Merging a record with itself** changes nothing. -/
theorem merge_self (ha : a.columns.Nodup) : a.merge a = a := by
  have hcolumns : (a.merge a).columns = a.columns := by
    rw [columns_merge_eq a ha]
    simp
  refine eq_of_columns (nodup_merge ha a) hcolumns fun x => ?_
  rw [get?_merge_eq a ha]
  exact Option.or_self

theorem empty_merge (ha : a.columns.Nodup) : empty.merge a = a := ofList_entries ha

theorem merge_empty (a : Record) : a.merge empty = a := rfl

/-! ## Building -/

/-- The scalars among the members of a JSON object. -/
def scalars (members : List (String × Json)) : List (String × Value) :=
  members.filterMap fun m => (Value.ofJson? m.2).map (m.1, ·)

/-- **An object is read if all of its members are scalars**, which are inserted in their order. -/
theorem insertMembers_eq_ok {r t : Record} {members : List (String × Json)} :
    r.insertMembers members = .ok t ↔
      (∀ m ∈ members, (Value.ofJson? m.2).isSome) ∧ t = r.insertAll (scalars members) := by
  induction members generalizing r with
  | nil =>
    constructor
    · intro h
      cases h
      exact ⟨fun m hm => absurd hm List.not_mem_nil, rfl⟩
    · rintro ⟨-, rfl⟩
      rfl
  | cons m members ih =>
    obtain ⟨column, raw⟩ := m
    unfold insertMembers
    cases hraw : Value.ofJson? raw with
    | none => simp [hraw]
    | some value =>
      have hscalars : scalars ((column, raw) :: members) = (column, value) :: scalars members := by
        simp [scalars, hraw]
      dsimp only
      rw [ih, hscalars, insertAll_cons, List.forall_mem_cons, hraw]
      simp

/-- The ways to build a record, with what was inserted on the way, in order. -/
inductive Built : List (String × Value) → Record → Prop
  | empty : Built [] empty
  | insert {log : List (String × Value)} {r : Record} (column : String) (value : Value) (h : Built log r) :
    Built (log ++ [(column, value)]) (r.insert column value)
  | merge {log log' : List (String × Value)} {a b : Record} (ha : Built log a) (hb : Built log' b) :
    Built (log ++ b.entries) (a.merge b)
  | ofList (log : List (String × Value)) : Built log (ofList log)
  | ofJson {members : List (String × Json)} {r : Record} (h : ofJson (.object members) = .ok r) :
    Built (scalars members) r

/-- **All ways to build a record come to one**: insertions one after another. -/
theorem Built.eq_ofList {log : List (String × Value)} {r : Record} (h : Built log r) : r = .ofList log := by
  induction h with
  | empty => rfl
  | @insert log r column value _ ih =>
    rw [ih, Record.ofList, Record.ofList, insertAll, insertAll, List.foldl_append]
    rfl
  | @merge log log' a b _ _ iha _ =>
    rw [iha, Record.merge, Record.ofList, Record.ofList, insertAll, insertAll, insertAll, List.foldl_append]
  | ofList log => rfl
  | ofJson h => exact (insertMembers_eq_ok.1 h).2

/-- A record is an ordered map of what was inserted. -/
structure IsMapOf (log : List (String × Value)) (r : Record) : Prop where
  distinct : r.columns.Nodup
  /-- The columns are in the order of their first insertions. -/
  columns : r.columns = (log.map (·.1)).eraseDups
  /-- The last insertion counts. -/
  values : ∀ c, r.get? c = last? c log

theorem Built.isMapOf {log : List (String × Value)} {r : Record} (h : Built log r) : r.IsMapOf log := by
  have hcolumns : r.columns = (log.map (·.1)).eraseDups := by
    rw [h.eq_ofList, columns_ofList]
  refine ⟨?_, hcolumns, fun c => ?_⟩
  · rw [hcolumns]
    exact nodup_eraseDups _
  · rw [h.eq_ofList, get?_ofList]

/-- A record that was built in some way. -/
def IsBuilt (r : Record) : Prop := ∃ log, Built log r

theorem IsBuilt.nodup {r : Record} (h : r.IsBuilt) : r.columns.Nodup := by
  obtain ⟨log, hlog⟩ := h
  exact hlog.isMapOf.distinct

theorem isBuilt_ofJson {json : Json} {r : Record} (h : ofJson json = .ok r) : r.IsBuilt := by
  cases json with
  | object members => exact ⟨_, .ofJson h⟩
  | _ => cases h

/-- The second record's entries are added to the first, where new columns are last and new values win. -/
structure IsMergeOf (a b r : Record) : Prop where
  columns : r.columns = a.columns ++ b.columns.filter fun c => decide (c ∉ a.columns)
  values : ∀ c, r.get? c = (b.get? c).or (a.get? c)

theorem isMergeOf_merge (a : Record) (hb : b.columns.Nodup) : IsMergeOf a b (a.merge b) :=
  ⟨columns_merge_eq a hb, get?_merge_eq a hb⟩

/-- What merging does to three records. -/
structure MergeLaws (a b c : Record) : Prop where
  isMergeOf : IsMergeOf a b (a.merge b)
  assoc : (a.merge b).merge c = a.merge (b.merge c)
  self : a.merge a = a
  empty_left : empty.merge a = a
  empty_right : a.merge empty = a

end Record

/-! ## Update documents -/

namespace UpdateDoc

theorem readMembers_cons (doc : UpdateDoc) (m : String × Json) (rest : List (String × Json)) :
    doc.readMembers (m :: rest) = (doc.readMembers [m]).bind (·.readMembers rest) := by
  obtain ⟨key, fields⟩ := m
  simp only [readMembers]
  split
  · cases Record.ofJson fields <;> rfl
  · split
    · cases Record.ofJson fields <;> rfl
    · rfl

/-- Reads one more member, if those before it were read. -/
def readNext (found : Option UpdateDoc) (m : String × Json) : Option UpdateDoc :=
  found.bind fun doc => (doc.readMembers [m]).toOption

theorem toOption_readMembers (doc : UpdateDoc) (members : List (String × Json)) :
    (doc.readMembers members).toOption = members.foldl readNext (some doc) := by
  have hnone : ∀ ms : List (String × Json), ms.foldl readNext none = none := by
    intro ms
    induction ms with
    | nil => rfl
    | cons m ms ih => exact ih
  induction members generalizing doc with
  | nil => rfl
  | cons m members ih =>
    rw [readMembers_cons, List.foldl_cons]
    have hnext : readNext (some doc) m = (doc.readMembers [m]).toOption := rfl
    rw [hnext]
    cases doc.readMembers [m] with
    | ok next => exact ih next
    | error cause => exact (hnone members).symm

theorem readNext_unknown {key : String} (hset : key ≠ "$set") (hinsert : key ≠ "$setOnInsert")
    (found : Option UpdateDoc) (fields : Json) : readNext found (key, fields) = none := by
  cases found <;> simp [readNext, readMembers, hset, hinsert]

/-- The two keys write to different parts of a document. -/
theorem readNext_set_setOnInsert (doc : UpdateDoc) (fields fields' : Json) :
    readNext (readNext (some doc) ("$set", fields)) ("$setOnInsert", fields') =
      readNext (readNext (some doc) ("$setOnInsert", fields')) ("$set", fields) := by
  cases hread : Record.ofJson fields <;> cases hread' : Record.ofJson fields' <;>
    simp [readNext, readMembers, hread, hread']

/-- **Members of different names can change places.** -/
theorem readNext_comm (doc : UpdateDoc) {m n : String × Json} (h : m.1 ≠ n.1) :
    readNext (readNext (some doc) m) n = readNext (readNext (some doc) n) m := by
  obtain ⟨key, fields⟩ := m
  obtain ⟨key', fields'⟩ := n
  have hnone : ∀ k : String × Json, readNext none k = none := fun _ => rfl
  by_cases hset : key = "$set"
  · by_cases hinsert : key' = "$setOnInsert"
    · rw [hset, hinsert, readNext_set_setOnInsert]
    · have hset' : key' ≠ "$set" := fun h' => h (hset.trans h'.symm)
      rw [readNext_unknown hset' hinsert, readNext_unknown hset' hinsert, hnone]
  · by_cases hinsert : key = "$setOnInsert"
    · by_cases hset' : key' = "$set"
      · rw [hinsert, hset', readNext_set_setOnInsert]
      · have hinsert' : key' ≠ "$setOnInsert" := fun h' => h (hinsert.trans h'.symm)
        rw [readNext_unknown hset' hinsert', readNext_unknown hset' hinsert', hnone]
    · rw [readNext_unknown hset hinsert, readNext_unknown hset hinsert, hnone]

/-- **The order of the keys does not matter** to what is read, if anything is. -/
theorem readMembers_perm (doc : UpdateDoc) {members reordered : List (String × Json)}
    (hkeys : (members.map (·.1)).Nodup) (h : reordered.Perm members) :
    (doc.readMembers reordered).toOption = (doc.readMembers members).toOption := by
  rw [toOption_readMembers, toOption_readMembers]
  refine (h.symm.foldl_eq' ?_ _).symm
  intro m hm n hn found
  by_cases hkey : m.1 = n.1
  · rw [List.inj_on_of_nodup_map hkeys hm hn hkey]
  · cases found with
    | none => rfl
    | some found => exact readNext_comm found hkey

/-- Both records of a document were built in some way. -/
def IsBuilt (doc : UpdateDoc) : Prop :=
  (∀ r, doc.set = some r → r.IsBuilt) ∧ ∀ r, doc.setOnInsert = some r → r.IsBuilt

theorem IsBuilt.readMembers {doc t : UpdateDoc} (h : doc.IsBuilt) {members : List (String × Json)}
    (hread : doc.readMembers members = .ok t) : t.IsBuilt := by
  induction members generalizing doc with
  | nil =>
    cases hread
    exact h
  | cons m members ih =>
    obtain ⟨key, fields⟩ := m
    unfold UpdateDoc.readMembers at hread
    split at hread
    · obtain ⟨r, hr, hread⟩ := Result.bind_eq_ok.1 hread
      have hset : UpdateDoc.IsBuilt { doc with set := some r } := by
        refine ⟨?_, h.2⟩
        rintro _ ⟨⟩
        exact Record.isBuilt_ofJson hr
      exact ih hset hread
    · split at hread
      · obtain ⟨r, hr, hread⟩ := Result.bind_eq_ok.1 hread
        have hinsert : UpdateDoc.IsBuilt { doc with setOnInsert := some r } := by
          refine ⟨h.1, ?_⟩
          rintro _ ⟨⟩
          exact Record.isBuilt_ofJson hr
        exact ih hinsert hread
      · cases hread

/-- **Documents that are read** have records that were built. -/
theorem isBuilt_ofJson {json : Json} {doc : UpdateDoc} (h : ofJson json = .ok doc) : doc.IsBuilt := by
  have hempty : empty.IsBuilt := by
    constructor <;> rintro _ ⟨⟩
  cases json with
  | object members => exact hempty.readMembers h
  | _ => cases h

theorem IsBuilt.nodup_setOnInsert {doc : UpdateDoc} (h : doc.IsBuilt) :
    (doc.setOnInsert.getD .empty).columns.Nodup := by
  cases hr : doc.setOnInsert with
  | none => exact List.nodup_nil
  | some r => exact (h.2 r hr).nodup

end UpdateDoc

/-! ## Ordered maps -/

/-- **Records are ordered maps, and merging makes them a monoid**: a record holds what was inserted last, in the order
of what was inserted first; merging adds the second record to the first, is associative and idempotent and has the
empty record as identity; an insertion writes the one part of a document with the other merged into it, also of a
document that was read; and the order of the keys of such a document does not matter. -/
theorem records_are_ordered_maps :
    (∀ log r, Record.Built log r → r.IsMapOf log) ∧
    (∀ a b c : Record, a.IsBuilt → b.IsBuilt → c.IsBuilt → Record.MergeLaws a b c) ∧
    (∀ doc : UpdateDoc, doc.IsBuilt →
      Record.IsMergeOf (doc.set.getD .empty) (doc.setOnInsert.getD .empty) doc.insertFields) ∧
    (∀ (json : Json) (doc : UpdateDoc), UpdateDoc.ofJson json = .ok doc → doc.IsBuilt) ∧
    ∀ members reordered : List (String × Json), (members.map (·.1)).Nodup → reordered.Perm members →
      (UpdateDoc.ofJson (.object reordered)).toOption = (UpdateDoc.ofJson (.object members)).toOption := by
  refine ⟨fun log r h => h.isMapOf, ?_, ?_, fun json doc h => UpdateDoc.isBuilt_ofJson h, ?_⟩
  · intro a b c ha hb hc
    exact
      { isMergeOf := Record.isMergeOf_merge a hb.nodup
        assoc := Record.merge_assoc ha.nodup hb.nodup hc.nodup
        self := Record.merge_self ha.nodup
        empty_left := Record.empty_merge ha.nodup
        empty_right := Record.merge_empty a }
  · intro doc h
    exact Record.isMergeOf_merge _ h.nodup_setOnInsert
  · intro members reordered hkeys h
    exact UpdateDoc.readMembers_perm .empty hkeys h

/-- A name inserted twice, merged with other fields; and an update document with its keys in either order. -/
theorem records_are_ordered_maps_users :
    let log : List (String × Value) := [("name", .text "Ann"), ("age", .int 30), ("name", .text "Bea")]
    let a : Record := .ofList log
    let b : Record := .ofList [("city", .text "Oslo"), ("name", .text "Cid")]
    let set : String × Json := ("$set", .object [("age", .bool true)])
    let onInsert : String × Json := ("$setOnInsert", .object [("name", .string "Ann")])
    a.columns = ["name", "age"] ∧ a.get? "name" = some (.text "Bea") ∧
      (a.merge b).columns = ["name", "age", "city"] ∧ (a.merge b).get? "name" = some (.text "Cid") ∧
      (a.merge b).merge a = a.merge (b.merge a) ∧
      (UpdateDoc.mk (some a) (some b)).insertFields.get? "age" = some (.int 30) ∧
      (UpdateDoc.ofJson (.object [onInsert, set])).toOption =
        some ⟨some ⟨[("age", .bool true)]⟩, some ⟨[("name", .text "Ann")]⟩⟩ := by
  intro log a b set onInsert
  obtain ⟨hmaps, hlaws, hinsert, -, horder⟩ := records_are_ordered_maps
  have ha : Record.Built log a := .ofList log
  have hb : b.IsBuilt := ⟨_, .ofList _⟩
  have hmap := hmaps log a ha
  have hmerge := hlaws a b a ⟨log, ha⟩ hb ⟨log, ha⟩
  have hdoc : (UpdateDoc.mk (some a) (some b)).IsBuilt := by
    constructor <;> rintro r ⟨⟩
    · exact ⟨log, ha⟩
    · exact hb
  refine ⟨?_, ?_, ?_, ?_, hmerge.assoc, ?_, ?_⟩
  · rw [hmap.columns]
    decide
  · rw [hmap.values]
    decide
  · rw [hmerge.isMergeOf.columns]
    decide
  · rw [hmerge.isMergeOf.values]
    decide
  · rw [(hinsert _ hdoc).values]
    decide
  · rw [horder [set, onInsert] [onInsert, set] (by decide) (List.Perm.swap set onInsert [])]
    decide

end CriteriaSql
