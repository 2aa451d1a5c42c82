import CriteriaSql.Proofs.RecordViews
import CriteriaSql.Proofs.TypedCalls

/-!
# Values and records through JSON and back

Every value has a JSON form and is read back from it, whole numbers as whole numbers and binary numbers with all their
bits. The exception is a number that is not finite: it is written as null, and null is read (`Value.settled`). A record
is read back entry by entry, each column once. The other way, JSON scalars come back but for the whole numbers beyond
64 signed bits, which become binary; an object comes back if its names are distinct.

The texts that are written without a JSON value in between are those of the JSON values.

* `Value.ofJson?_toJson`, `Record.ofJson_toJson`: what is read back of a value and of a record.
* `Value.toJson_of_isExact`, `Record.toJson_ofJson_iff`: what is written again of a scalar and of an object.
* `Value.serialize_eq`, `Record.render_toJson`: the two ways to write a text.
* `json_round_trips`: all of it together.
-/

namespace CriteriaSql

/-! ## Values -/

/-- A scalar, and no whole number beyond 64 signed bits. -/
def Json.IsExact : Json → Prop
  | .null | .bool _ | .string _ | .number (.float _ _) => True
  | .number (.int n _) => Text.int64Low ≤ n ∧ n ≤ Text.int64High
  | .array _ | .object _ => False

namespace Value

/-- No number, or a finite one. -/
def IsFinite : Value → Prop
  | .float x => x.isFinite = true
  | _ => True

/-- What is left of a value in JSON: null in the place of a number that is not finite. -/
def settled : Value → Value
  | .float x => if x.isFinite then .float x else .null
  | v => v

theorem settled_eq_iff {v : Value} : v.settled = v ↔ v.IsFinite := by
  cases v with
  | float x => by_cases hx : x.isFinite = true <;> simp [settled, IsFinite, hx]
  | _ => simp [settled, IsFinite]

theorem toInt_bounds (n : Int64) : Text.int64Low ≤ n.toInt ∧ n.toInt ≤ Text.int64High := by
  have hlow := Int64.le_toInt n
  have hhigh := Int64.toInt_lt n
  unfold Text.int64Low Text.int64High
  omega

/-- A whole number is written as such. -/
theorem toJson_int (n : Int64) : ∃ h, (Value.int n).toJson = .number (.int n.toInt h) := by
  have hbounds := toInt_bounds n
  have hwhole : Json.wholeLow ≤ n.toInt ∧ n.toInt ≤ Json.wholeHigh := by
    unfold Text.int64Low Text.int64High at hbounds
    unfold Json.wholeLow Json.wholeHigh
    omega
  exact ⟨hwhole, dif_pos hwhole⟩

/-- **A value is read back from its JSON form**, or null is where that has no place for it. -/
theorem ofJson?_toJson (v : Value) : ofJson? v.toJson = some v.settled := by
  cases v with
  | int n =>
    obtain ⟨h, hjson⟩ := toJson_int n
    rw [hjson, ofJson?, if_pos (toInt_bounds n), Int64.ofInt_toInt]
    rfl
  | float x =>
    rw [toJson, Json.ofBinary64, settled]
    by_cases hx : x.isFinite = true
    · rw [dif_pos hx, if_pos hx]
      rfl
    · rw [dif_neg hx, if_neg hx]
      rfl
  | _ => rfl

/-- The JSON form of a value is exact. -/
theorem isExact_toJson (v : Value) : v.toJson.IsExact := by
  cases v with
  | int n =>
    obtain ⟨h, hjson⟩ := toJson_int n
    rw [hjson]
    exact toInt_bounds n
  | float x =>
    rw [toJson, Json.ofBinary64]
    split <;> trivial
  | _ => trivial

/-- An exact scalar has a value. -/
theorem exists_ofJson? {j : Json} (h : j.IsExact) : ∃ v, ofJson? j = some v := by
  rcases Json.scalar_or_nested j with ⟨v, hv⟩ | ⟨items, rfl⟩ | ⟨members, rfl⟩
  · exact ⟨v, Json.ofJson?_eq_some.2 hv⟩
  · exact h.elim
  · exact h.elim

/-- **An exact scalar is written again** from the value that it is read as. -/
theorem toJson_of_isExact {j : Json} {v : Value} (hv : ofJson? j = some v) (h : j.IsExact) : v.toJson = j := by
  cases Json.ofJson?_eq_some.1 hv with
  | whole n hn =>
    obtain ⟨_, hjson⟩ := toJson_int n
    exact hjson
  | large hn hlarge => exact absurd hlarge ((Json.int64_range hn.1).1 h)
  | binary x hx => exact dif_pos hx
  | _ => rfl

/-- **The text written at once** is the text of the JSON form, also for a number that is not finite. -/
theorem serialize_eq (v : Value) : v.serialize = v.toJson.render := by
  cases v with
  | int n =>
    obtain ⟨h, hjson⟩ := toJson_int n
    rw [hjson]
    rfl
  | float x =>
    rw [serialize, toJson, Json.ofBinary64]
    by_cases hx : x.isFinite = true
    · rw [if_pos hx, dif_pos hx]
      rfl
    · rw [if_neg hx, dif_neg hx]
      rfl
  | _ => rfl

end Value

/-! ## Records -/

namespace Record

/-- What is left of a record's values in JSON. -/
def settled (r : Record) : Record := ⟨r.entries.map fun e => (e.1, e.2.settled)⟩

theorem columns_settled (r : Record) : r.settled.columns = r.columns := by
  simp [settled, columns]

theorem settled_eq_iff {r : Record} : r.settled = r ↔ ∀ v ∈ r.values, v.IsFinite := by
  obtain ⟨entries⟩ := r
  rw [settled, Record.mk.injEq, values, List.forall_mem_map]
  induction entries with
  | nil => simp
  | cons e entries ih =>
    obtain ⟨c, v⟩ := e
    rw [List.map_cons, List.cons.injEq, ih, List.forall_mem_cons, Prod.mk.injEq, Value.settled_eq_iff]
    simp

/-- The scalars of members written for entries are the values as they are read back. -/
theorem scalars_map_member (entries : List (String × Value)) :
    scalars (entries.map member) = entries.map fun e => (e.1, e.2.settled) := by
  have hread : ∀ e : String × Value,
      (Value.ofJson? (member e).2).map ((member e).1, ·) = some (e.1, e.2.settled) := by
    intro e
    have hvalue : Value.ofJson? (member e).2 = some e.2.settled := Value.ofJson?_toJson e.2
    rw [hvalue]
    rfl
  rw [scalars, List.filterMap_map, ← List.filterMap_eq_map]
  exact List.filterMap_congr fun e _ => hread e

/-- **A record is read back from its JSON object**, each column once and with what is left of its value. -/
theorem ofJson_toJson (r : Record) : ofJson r.toJson = .ok (ofList r.entries).settled := by
  rw [toJson_eq]
  refine insertMembers_eq_ok.2 ⟨?_, ?_⟩
  · intro m hm
    obtain ⟨e, -, rfl⟩ := List.mem_map.1 hm
    have hvalue : Value.ofJson? (member e).2 = some e.2.settled := Value.ofJson?_toJson e.2
    rw [hvalue]
    rfl
  · have hnodup : (ofList r.entries).settled.columns.Nodup := by
      rw [columns_settled]
      exact IsBuilt.nodup ⟨_, .ofList _⟩
    rw [scalars_map_member]
    exact (ofList_entries hnodup).symm

/-- **What comes back is the record** just where no column is repeated and all numbers are finite. -/
theorem ofJson_toJson_iff {r : Record} :
    ofJson r.toJson = .ok r ↔ r.columns.Nodup ∧ ∀ v ∈ r.values, v.IsFinite := by
  rw [ofJson_toJson, Except.ok.injEq, ← settled_eq_iff]
  constructor
  · intro h
    have hnodup : r.columns.Nodup := by
      rw [← h, columns_settled]
      exact IsBuilt.nodup ⟨_, .ofList _⟩
    rw [ofList_entries hnodup] at h
    exact ⟨hnodup, h⟩
  · rintro ⟨hnodup, h⟩
    rw [ofList_entries hnodup, h]

/-- Members that are exact scalars are written again from their values. -/
theorem map_member_scalars {members : List (String × Json)} (h : ∀ m ∈ members, m.2.IsExact) :
    (scalars members).map member = members := by
  induction members with
  | nil => rfl
  | cons m members ih =>
    obtain ⟨name, j⟩ := m
    obtain ⟨hj, hrest⟩ := List.forall_mem_cons.1 h
    obtain ⟨v, hv⟩ := Value.exists_ofJson? hj
    have hscalars : scalars ((name, j) :: members) = (name, v) :: scalars members := by
      simp [scalars, hv]
    rw [hscalars, List.map_cons, ih hrest, member, Value.toJson_of_isExact hv hj]

/-- **An object comes back from the record that it is read as** just where its names are distinct and its members are
exact scalars. -/
theorem toJson_ofJson_iff {members : List (String × Json)} :
    (∃ r, ofJson (.object members) = .ok r ∧ r.toJson = .object members) ↔
      (members.map (·.1)).Nodup ∧ ∀ m ∈ members, m.2.IsExact := by
  constructor
  · rintro ⟨r, -, hr⟩
    rw [toJson_eq, Json.object.injEq] at hr
    refine ⟨?_, ?_⟩
    · have hnodup : (ofList r.entries).columns.Nodup := IsBuilt.nodup ⟨_, .ofList _⟩
      rw [← hr, List.map_map]
      exact hnodup
    · intro m hm
      rw [← hr] at hm
      obtain ⟨e, -, rfl⟩ := List.mem_map.1 hm
      exact Value.isExact_toJson e.2
  · rintro ⟨hnames, hexact⟩
    have hback := map_member_scalars hexact
    have hnodup : (⟨scalars members⟩ : Record).columns.Nodup := by
      rw [← hback, List.map_map] at hnames
      exact hnames
    have hentries : ofList (scalars members) = ⟨scalars members⟩ := ofList_entries hnodup
    refine ⟨⟨scalars members⟩, insertMembers_eq_ok.2 ⟨?_, hentries.symm⟩, ?_⟩
    · intro m hm
      obtain ⟨v, hv⟩ := Value.exists_ofJson? (hexact m hm)
      rw [hv]
      rfl
    · rw [toJson_eq, hentries, hback]

/-- **The text of a record's JSON object** is the one written at once for its entries, each column once. -/
theorem render_toJson (r : Record) : r.toJson.render = (ofList r.entries).serialize := by
  have hmembers : ∀ entries : List (String × Value), Json.renderMembers (entries.map member) =
      entries.map fun e => Json.quote e.1 ++ ":" ++ e.2.serialize := by
    intro entries
    induction entries with
    | nil => rfl
    | cons e entries ih =>
      rw [List.map_cons, List.map_cons, member, Json.renderMembers, ih, Value.serialize_eq]
  rw [toJson_eq, Json.render, hmembers]
  rfl

end Record

/-! ## Both together -/

/-- **Values and records come back from JSON, and JSON from them**, just as far as either has a place for the other;
and writing at once gives the text of the JSON form. -/
theorem json_round_trips :
    (∀ v : Value, Value.ofJson? v.toJson = some v ↔ v.IsFinite) ∧
      (∀ r : Record, Record.ofJson r.toJson = .ok r ↔ r.columns.Nodup ∧ ∀ v ∈ r.values, v.IsFinite) ∧
      (∀ members, (∃ r, Record.ofJson (.object members) = .ok r ∧ r.toJson = .object members) ↔
        (members.map (·.1)).Nodup ∧ ∀ m ∈ members, m.2.IsExact) ∧
      (∀ v : Value, v.serialize = v.toJson.render) ∧
      ∀ r : Record, r.columns.Nodup → r.serialize = r.toJson.render := by
  refine ⟨?_, fun r => Record.ofJson_toJson_iff, fun members => Record.toJson_ofJson_iff, Value.serialize_eq, ?_⟩
  · intro v
    rw [Value.ofJson?_toJson, Option.some.injEq, Value.settled_eq_iff]
  · intro r h
    rw [Record.render_toJson, Record.ofList_entries h]

/-- The least whole number, a negative zero, and a number that is not finite. -/
theorem json_round_trips_extremes :
    let zero : Floating.Binary64 := ⟨0x8000000000000000⟩
    let infinite : Floating.Binary64 := ⟨0x7ff0000000000000⟩
    let r : Record := ⟨[("n", .int Int64.minValue), ("x", .float zero)]⟩
    let s : Record := ⟨[("n", .int Int64.minValue), ("x", .float infinite)]⟩
    (r.columns.Nodup ∧ ∀ v ∈ r.values, v.IsFinite) ∧ Record.ofJson r.toJson = .ok r ∧
      s.columns.Nodup ∧ s.serialize = s.toJson.render ∧ Record.ofJson s.toJson ≠ .ok s := by
  intro zero infinite r s
  obtain ⟨-, hrecord, -, -, htext⟩ := json_round_trips
  have hr : r.columns.Nodup ∧ ∀ v ∈ r.values, v.IsFinite := by
    refine ⟨by decide, ?_⟩
    intro v hv
    rcases List.mem_pair.1 hv with rfl | rfl
    · trivial
    · exact (by decide +kernel : zero.isFinite = true)
  have hs : s.columns.Nodup := by decide
  refine ⟨hr, (hrecord r).2 hr, hs, htext s hs, ?_⟩
  intro h
  have hfinite : infinite.isFinite = true :=
    ((hrecord s).1 h).2 (.float infinite) (List.mem_cons_of_mem _ List.mem_cons_self)
  exact absurd hfinite (by decide +kernel)

end CriteriaSql
