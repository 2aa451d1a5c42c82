import CriteriaSql.Record

/-!
# Records as ordered maps

Inserting into a record replaces a value where its column stands, or appends. Merging inserts one
record into another: the columns of the first keep their places, new columns follow in their order,
and the values of the second win.

* `foldl_addNew`: what new elements add to a list.
* `Record.get?_eq_some`: a look-up finds the entry of its column.
* `columns_insert`, `get?_insert`: one insertion.
* `columns_merge`, `get?_merge`: the columns of a merge in order, and the value of each.
-/

namespace CriteriaSql

/-! ## New elements -/

section New

variable {α : Type} [DecidableEq α]

/-- Adds an element behind a list, unless it is there. -/
def addNew (seen : List α) (a : α) : List α := if a ∈ seen then seen else seen ++ [a]

/-- **New elements are added in order**, each where it comes first. -/
theorem foldl_addNew (as seen : List α) :
    as.foldl addNew seen = seen ++ (as.filter fun a => decide (a ∉ seen)).eraseDups := by
  induction as generalizing seen with
  | nil => simp
  | cons a as ih =>
    rw [List.foldl_cons, ih, addNew]
    by_cases h : a ∈ seen
    · rw [if_pos h, List.filter_cons_of_neg (by simpa using h)]
    -- a new element is not added again
    · have hnew : (as.filter fun b => decide (b ∉ seen ++ [a])) =
          (as.filter fun b => decide (b ∉ seen)).filter (fun b => !b == a) := by
        rw [List.filter_filter]
        refine List.filter_congr fun b _ => ?_
        by_cases hb : b ∈ seen <;> by_cases ha : b = a <;> simp [hb, ha]
      rw [if_neg h, List.filter_cons_of_pos (by simpa using h), List.eraseDups_cons, hnew,
        List.append_assoc, List.singleton_append]

end New

namespace Record

/-! ## Looking up -/

theorem get?_isSome {column : String} {r : Record} : (r.get? column).isSome ↔ column ∈ r.columns := by
  unfold get? columns
  rw [Option.isSome_map, List.find?_isSome, List.mem_map]
  simp only [decide_eq_true_eq]

theorem contains_iff {column : String} {r : Record} : r.contains column = true ↔ column ∈ r.columns :=
  get?_isSome

theorem get?_eq_none {column : String} {r : Record} : r.get? column = none ↔ column ∉ r.columns := by
  rw [← get?_isSome, Option.not_isSome_iff_eq_none]

theorem get?_cons (e : String × Value) (es : List (String × Value)) (column : String) :
    get? column ⟨e :: es⟩ = if e.1 = column then some e.2 else get? column ⟨es⟩ := by
  unfold get?
  rw [List.find?_cons]
  by_cases h : e.1 = column
  · rw [decide_eq_true h, if_pos h]; rfl
  · rw [decide_eq_false h, if_neg h]

/-- Where no column is repeated, each entry is found. -/
theorem get?_eq_some {r : Record} (h : r.columns.Nodup) {column : String} {value : Value} :
    r.get? column = some value ↔ (column, value) ∈ r.entries := by
  obtain ⟨entries⟩ := r
  unfold columns at h
  induction entries with
  | nil => simp [get?]
  | cons e entries ih =>
    obtain ⟨hnew, hrest⟩ := List.nodup_cons.1 h
    have hrest := ih hrest
    rw [get?_cons, List.mem_cons]
    by_cases he : e.1 = column
    · have hnot : (column, value) ∉ entries := by
        intro hm
        exact hnew (List.mem_map.2 ⟨_, hm, he.symm⟩)
      rw [if_pos he, Option.some.injEq]
      constructor
      · intro hv
        exact .inl (Prod.ext he.symm hv.symm)
      · intro hm
        exact (congrArg Prod.snd (hm.resolve_right hnot)).symm
    · rw [if_neg he, hrest]
      constructor
      · intro hm
        exact .inr hm
      · intro hm
        exact hm.resolve_left fun heq => he (congrArg Prod.fst heq).symm

theorem mem_entries {r : Record} (h : r.columns.Nodup) {column : String} {value : Value}
    (hv : (column, value) ∈ r.entries) (w : Value) : (column, w) ∈ r.entries ↔ w = value := by
  rw [← get?_eq_some h] at hv ⊢
  rw [hv, Option.some.injEq, eq_comm]

/-! ## Insertion -/

theorem columns_insertEntry (column : String) (value : Value) (es : List (String × Value)) :
    (insertEntry column value es).map (·.1) =
      if column ∈ es.map (·.1) then es.map (·.1) else es.map (·.1) ++ [column] := by
  induction es with
  | nil => rfl
  | cons e es ih =>
    rw [insertEntry]
    by_cases he : e.1 = column
    · rw [if_pos he, List.map_cons, List.map_cons, if_pos (he ▸ List.mem_cons_self), he]
    · rw [if_neg he, List.map_cons, ih, List.map_cons]
      by_cases hm : column ∈ es.map (·.1)
      · rw [if_pos hm, if_pos (List.mem_cons_of_mem _ hm)]
      · rw [if_neg hm, if_neg (by rw [List.mem_cons, not_or]; exact ⟨fun hc => he hc.symm, hm⟩),
          List.cons_append]

/-- **Insertion keeps the columns**, or adds one at the end. -/
theorem columns_insert (column : String) (value : Value) (r : Record) :
    (r.insert column value).columns =
      if column ∈ r.columns then r.columns else r.columns ++ [column] :=
  columns_insertEntry column value r.entries

theorem mem_columns_insert {column c : String} {value : Value} {r : Record} :
    c ∈ (r.insert column value).columns ↔ c ∈ r.columns ∨ c = column := by
  rw [columns_insert]
  split
  · next h => exact ⟨.inl, fun hc => hc.elim id fun he => he ▸ h⟩
  · rw [List.mem_append, List.mem_singleton]

theorem get?_insertEntry (column c : String) (value : Value) (es : List (String × Value)) :
    get? c ⟨insertEntry column value es⟩ = if column = c then some value else get? c ⟨es⟩ := by
  induction es with
  | nil => rw [insertEntry, get?_cons]
  | cons e es ih =>
    unfold insertEntry
    by_cases he : e.1 = column
    · rw [if_pos he, get?_cons, get?_cons, he]
      split <;> rfl
    · rw [if_neg he, get?_cons, ih, get?_cons]
      by_cases hc : column = c
      · rw [if_pos hc, if_pos hc, if_neg fun h => he (h.trans hc.symm)]
      · rw [if_neg hc, if_neg hc]

/-- An insertion changes the value of its column only. -/
theorem get?_insert (column c : String) (value : Value) (r : Record) :
    (r.insert column value).get? c = if column = c then some value else r.get? c :=
  get?_insertEntry column c value r.entries

/-! ## Merging -/

theorem insertAll_cons (r : Record) (e : String × Value) (es : List (String × Value)) :
    r.insertAll (e :: es) = (r.insert e.1 e.2).insertAll es := rfl

theorem mem_columns_insertAll {es : List (String × Value)} :
    ∀ {r : Record} {c : String}, c ∈ (r.insertAll es).columns ↔ c ∈ r.columns ∨ c ∈ es.map (·.1) := by
  induction es with
  | nil => intro r c; simp [insertAll]
  | cons e es ih =>
    intro r c
    rw [insertAll_cons, ih, mem_columns_insert, List.map_cons, List.mem_cons, or_assoc]

theorem mem_columns_merge {a b : Record} {c : String} :
    c ∈ (a.merge b).columns ↔ c ∈ a.columns ∨ c ∈ b.columns := mem_columns_insertAll

/-- The columns of entries that are not among those seen before, in the order of their first entries. -/
def newColumns (seen : List String) : List (String × Value) → List String
  | [] => []
  | e :: es => if e.1 ∈ seen then newColumns seen es else e.1 :: newColumns (seen ++ [e.1]) es

/-- The value of a column, the last one if it is repeated. -/
def last? (c : String) : List (String × Value) → Option Value
  | [] => none
  | e :: es => (last? c es).or (if e.1 = c then some e.2 else none)

theorem columns_insertAll (es : List (String × Value)) (r : Record) :
    (r.insertAll es).columns = r.columns ++ newColumns r.columns es := by
  induction es generalizing r with
  | nil => exact (List.append_nil _).symm
  | cons e es ih =>
    rw [insertAll_cons, ih, columns_insert, newColumns]
    by_cases h : e.1 ∈ r.columns
    · rw [if_pos h, if_pos h]
    · rw [if_neg h, if_neg h, List.append_assoc, List.singleton_append]

theorem get?_insertAll (es : List (String × Value)) (r : Record) (c : String) :
    (r.insertAll es).get? c = (last? c es).or (r.get? c) := by
  induction es generalizing r with
  | nil => rfl
  | cons e es ih =>
    -- the first entry counts only if no other is for its column
    rw [insertAll_cons, ih, get?_insert, last?]
    by_cases h : e.1 = c
    · rw [if_pos h, if_pos h, Option.or_assoc, Option.some_or]
    · rw [if_neg h, if_neg h, Option.or_none]

/-- **The columns of a merge**: those of the first record in their places, then the new ones. -/
theorem columns_merge (a b : Record) : (a.merge b).columns = a.columns ++ newColumns a.columns b.entries :=
  columns_insertAll b.entries a

/-- **The values of a merge**: the second record's win. -/
theorem get?_merge (a b : Record) (c : String) : (a.merge b).get? c = (last? c b.entries).or (a.get? c) :=
  get?_insertAll b.entries a c

end Record

end CriteriaSql
