import CriteriaSql.Proofs.TypedCalls

/-!
# What strict reading keeps

When unknown operators are rejected, a document that is read loses no condition, with one exception: a named
member that is an object without keys has no key that could be rejected, and disappears without a report.

* `Filter.ofMember_reject`: the members that ask for nothing when unknown operators are rejected.
* `Json.Gathered.kept`: one condition for each of the other named members, in order.
* `strict_reading_keeps`: what is left of a document that is read strictly.
-/

namespace CriteriaSql

open List (Forall₂)

/-- Things that are related by name are named alike. -/
theorem names_eq {α β : Type} {R : α → β → Prop} {as : List (String × α)} {bs : List (String × β)}
    (h : Forall₂ (Named R) as bs) : as.map (·.1) = bs.map (·.1) := by
  induction h with
  | nil => rfl
  | cons hab _ ih => rw [List.map_cons, List.map_cons, ih, hab.1]

namespace Json

def isEmptyObject : Json → Bool
  | .object [] => true
  | _ => false

/-- An object without keys asks for nothing. -/
theorem Asks.isEmptyObject {raw : Json} {c : Condition} (h : Asks raw (some c)) :
    raw.isEmptyObject = false := by
  cases h with
  | scalar h => cases h <;> rfl
  | operator h extra => rfl

theorem Gathered.named {R : Json → Option Condition → Prop} {members : List (String × Json)}
    {calls : List (String × Condition)} (h : Gathered R members calls) : ∀ c ∈ calls, c.1 ≠ "" := by
  induction h with
  | nil => exact List.forall_mem_nil _
  | unnamed _ _ ih => exact ih
  | silent _ _ _ ih => exact ih
  | call hn _ _ ih => exact List.forall_mem_cons.2 ⟨hn, ih⟩

/-- Members of which only objects without keys ask for nothing: the others are kept. -/
theorem Gathered.kept {members : List (String × Json)} {calls : List (String × Condition)}
    (h : Gathered (fun raw found => Asks raw found ∧ (found = none → raw = .object [])) members calls) :
    Forall₂ (Named fun raw c => Asks raw (some c))
      ((members.filter (·.1 ≠ "")).filter (!·.2.isEmptyObject)) calls := by
  induction h with
  | nil => exact .nil
  | unnamed _ _ ih => exact ih
  | silent hn h _ ih =>
    rw [h.2 rfl, List.filter_cons_of_pos]
    · exact ih
    · exact decide_eq_true hn
  | call hn h _ ih =>
    rw [List.filter_cons_of_pos, List.filter_cons_of_pos]
    · exact .cons ⟨rfl, h.1⟩ ih
    · rw [Bool.not_eq_true']
      exact h.1.isEmptyObject
    · exact decide_eq_true hn

end Json

namespace Filter

open Json

/-- **A member is read as what it asks for** when unknown operators are rejected, and only an object without
keys asks for nothing. -/
theorem ofMember_reject {field : String} {raw : Json} {found : Option Condition}
    (h : (ofMember .reject field raw).result = .ok found) :
    Asks raw found ∧ (found = none → raw = .object []) := by
  refine ⟨ofMember_eq_ok.1 (((ofMember_refines field raw).ok_iff found).1 h).1, ?_⟩
  rintro rfl
  match raw with
  | .object [] => rfl
  | .object ((key, operand) :: extra) =>
    -- a key without an operator is refused
    rw [ofMember, ofOperators_result] at h
    obtain ⟨-, -, h⟩ := Result.bind_eq_ok.1 h
    obtain ⟨op?, -, h⟩ := Result.bind_eq_ok.1 h
    cases op? <;> cases h
  | .array items => cases h
  | .null => cases h
  | .bool b => cases h
  | .string s => cases h
  | .number n => cases h

/-- Typed calls with names are the entries of their filter. -/
theorem entries_ofTyped {calls : List (String × Condition)} (h : ∀ c ∈ calls, c.1 ≠ "") :
    (ofTyped calls).entries = calls := by
  suffices hfold : ∀ f : Filter, (calls.foldl typed f).entries = f.entries ++ calls from hfold empty
  induction calls with
  | nil => exact fun f => (List.append_nil _).symm
  | cons c calls ih =>
    intro f
    obtain ⟨hn, hrest⟩ := List.forall_mem_cons.1 h
    have hname : c.1.isEmpty = false := by simpa using hn
    rw [List.foldl_cons, typed_eq_add, ih hrest, add, hname, if_neg Bool.false_ne_true, List.append_assoc]
    rfl

end Filter

/-! ## The main result -/

/-- **What is read strictly is kept, but for objects without keys.** When unknown operators are rejected, a
document that is read gives one entry, with the condition that it asks for, for each of its named members in
order, except for those that are an object without keys. So none is lost just when there are none of these. -/
theorem strict_reading_keeps {members : List (String × Json)} {f : Filter}
    (h : (Filter.ofJson .reject (.object members)).result = .ok f) :
    Forall₂ (Named fun raw c => raw.Asks (some c))
        ((members.filter (·.1 ≠ "")).filter (!·.2.isEmptyObject)) f.entries ∧
      (f.entries.map (·.1) = (members.filter (·.1 ≠ "")).map (·.1) ↔
        ∀ m ∈ members, m.1 ≠ "" → m.2.isEmptyObject = false) := by
  obtain ⟨calls, hcalls, hf⟩ := Filter.gathered_of_addMembers (fun _ _ _ => Filter.ofMember_reject) h
  have hentries : f.entries = calls := by
    rw [hf]
    exact Filter.entries_ofTyped hcalls.named
  have hkept := hcalls.kept
  rw [hentries, ← names_eq hkept]
  refine ⟨hkept, ?_⟩
  constructor
  · intro hsame m hm hn
    -- as many members are left, so they are all left
    have hlength : ((members.filter (·.1 ≠ "")).filter (!·.2.isEmptyObject)).length =
        (members.filter (·.1 ≠ "")).length := by
      simpa only [List.length_map] using congrArg List.length hsame
    have hall := List.filter_eq_self.1 (List.filter_sublist.eq_of_length hlength)
    have hkeep := hall m (List.mem_filter.2 ⟨hm, decide_eq_true hn⟩)
    rwa [Bool.not_eq_true'] at hkeep
  · intro hall
    rw [List.filter_eq_self.2]
    intro m hm
    obtain ⟨hm, hn⟩ := List.mem_filter.1 hm
    rw [hall m hm (of_decide_eq_true hn)]
    rfl

theorem strict_reading_keeps_users :
    let members := [("name", Json.object [("$like", .string "a%")]), ("age", .object [])]
    let f : Filter := ⟨[("name", .operator (.like "a%"))]⟩
    (Filter.ofJson .reject (.object members)).result = .ok f ∧
      Forall₂ (Named fun raw c => raw.Asks (some c)) (members.take 1) f.entries ∧
      f.entries.map (·.1) ≠ members.map (·.1) := by
  intro members f
  have hread : (Filter.ofJson .reject (.object members)).result = .ok f := rfl
  obtain ⟨hkept, hnames⟩ := strict_reading_keeps hread
  refine ⟨hread, hkept, fun hall => ?_⟩
  have hage := hnames.1 hall ("age", .object []) (List.mem_cons_of_mem _ List.mem_cons_self) (by decide)
  cases hage

/-- A named member that is an object without keys disappears. -/
theorem strict_reading_drops :
    ¬ ∀ (members : List (String × Json)) (f : Filter),
      (Filter.ofJson .reject (.object members)).result = .ok f →
        f.entries.map (·.1) = (members.filter (·.1 ≠ "")).map (·.1) := by
  intro hall
  have hnames := hall [("age", .object [])] .empty rfl
  exact absurd hnames (by decide)

end CriteriaSql
