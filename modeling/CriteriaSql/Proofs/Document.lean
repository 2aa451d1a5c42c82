import CriteriaSql.Proofs.Alike
import CriteriaSql.Proofs.Trusted

/-!
# Which filter documents are refused

A document is refused if it is no object, or if one of its named members is refused: an operator with an
operand that it does not take, membership in an empty list, and, where unknown operators are rejected, an
array, a second key or a key that names no operator.

* `Json.MemberRefused`, `Json.Refused`: the refused members and documents.
* `Filter.operator?_cases`: what becomes of an operator.
* `Filter.ofJson_accepted`: the other documents give filters without empty lists, and only they.
-/

namespace CriteriaSql

namespace Json

/-- The keys that name an operator. -/
def operatorKeys : List String := Comparison.all.map Comparison.key ++ ["$in", "$like"]

/-- An operand that the operator of a key does not take: a list takes an array of scalars, a pattern a
text, a comparison a scalar. -/
def Unfit (key : String) (operand : Json) : Prop :=
  if key = "$in" then ¬ ∃ items, operand = .array items ∧ items.all isScalar = true
  else if key = "$like" then ¬ ∃ pattern, operand = .string pattern
  else key ∈ operatorKeys ∧ operand.isScalar = false

/-- A member that is refused under a policy. -/
inductive MemberRefused (policy : Policy) : Json → Prop
  | operand {key : String} {operand : Json} (extra : List (String × Json)) (h : Unfit key operand) :
    MemberRefused policy (.object ((key, operand) :: extra))
  | emptyList (extra : List (String × Json)) : MemberRefused policy (.object (("$in", .array []) :: extra))
  | unknownKey (hp : policy = .reject) {key : String} (operand : Json) (extra : List (String × Json))
    (h : key ∉ operatorKeys) : MemberRefused policy (.object ((key, operand) :: extra))
  | furtherKey (hp : policy = .reject) (first second : String × Json) (extra : List (String × Json)) :
    MemberRefused policy (.object (first :: second :: extra))
  | array (hp : policy = .reject) (items : List Json) : MemberRefused policy (.array items)

/-- A document that is refused under a policy. -/
inductive Refused (policy : Policy) : Json → Prop
  | kind {j : Json} (h : ∀ members, j ≠ .object members) : Refused policy j
  | member {members : List (String × Json)} {m : String × Json} (hm : m ∈ members) (hn : m.1 ≠ "")
    (h : MemberRefused policy m.2) : Refused policy (.object members)

end Json

namespace Filter

open Json

/-- A filter is refused if it was or if the entry added asks for membership in an empty list. -/
theorem hasEmptyList_add {field : String} (hn : field ≠ "") (c : Condition) (f : Filter) :
    (f.add field c).HasEmptyList ↔ f.HasEmptyList ∨ c = .operator (.inList []) := by
  have hname : field.isEmpty = false := by simpa using hn
  simp [add, hname, HasEmptyList, or_and_right, exists_or]

/-- The first unknown operator is refused, or none. -/
theorem unknownAll_result (policy : Policy) (field : String) (keys : List String) :
    (unknownAll policy field keys).result =
      match policy, keys with
      | .reject, key :: _ => .error (.unknownOperator key field)
      | _, _ => .ok () := by
  induction keys with
  | nil => cases policy <;> rfl
  | cons key keys ih =>
    rw [unknownAll, Noted.bind_result, ih]
    cases policy <;> rfl

theorem mem_operatorKeys {key : String} {c : Comparison} (h : Comparison.ofKey? key = some c) :
    key ∈ operatorKeys := by
  unfold Comparison.ofKey? at h
  have hk : c.key = key := by simpa using List.find?_some h
  rw [operatorKeys, ← hk]
  exact List.mem_append_left _ (List.mem_map_of_mem (List.mem_of_find?_eq_some h))

theorem not_mem_operatorKeys {key : String} (h : Comparison.ofKey? key = none) (hin : key ≠ "$in")
    (hlike : key ≠ "$like") : key ∉ operatorKeys := by
  unfold Comparison.ofKey? at h
  rw [operatorKeys, List.mem_append, List.mem_map]
  rintro (⟨c, hc, hk⟩ | hspecial)
  · exact List.find?_eq_none.1 h c hc (decide_eq_true hk)
  · simp [hin, hlike] at hspecial

/-- No operand is unfit for a key that names no operator. -/
theorem fit_of_unknown {key : String} (h : key ∉ operatorKeys) (operand : Json) :
    key ≠ "$in" ∧ ¬ Unfit key operand := by
  have hin : key ≠ "$in" := fun he => h (he ▸ by decide)
  have hlike : key ≠ "$like" := fun he => h (he ▸ by decide)
  refine ⟨hin, ?_⟩
  rw [Unfit, if_neg hin, if_neg hlike]
  exact fun hu => h hu.1

/-- **What becomes of an operator**: its operand is unfit, or it is read, or its key names none. -/
theorem operator?_cases (field key : String) (operand : Json) :
    (Unfit key operand ∧ ∃ cause, operator? field key operand = .error cause) ∨
      (¬ Unfit key operand ∧ key ∈ operatorKeys ∧
        ∃ op, operator? field key operand = .ok (some op) ∧
          (op = .inList [] ↔ key = "$in" ∧ operand = .array [])) ∨
      (key ∉ operatorKeys ∧ operator? field key operand = .ok none) := by
  unfold operator? Unfit
  cases hc : Comparison.ofKey? key with
  | some c =>
    obtain ⟨hin, hlike⟩ := key_ofKey? hc
    have hkey := mem_operatorKeys hc
    rw [if_neg hin, if_neg hlike]
    unfold isScalar scalar
    cases Value.ofJson? operand with
    | none => exact .inl ⟨⟨hkey, rfl⟩, _, rfl⟩
    | some v => exact .inr (.inl ⟨by simp, hkey, _, rfl, by simp [hin]⟩)
  | none =>
    by_cases hin : key = "$in"
    · have hkey : key ∈ operatorKeys := by rw [hin]; decide
      simp only [if_pos hin]
      split
      · next items =>
        cases hi : items.all isScalar with
        | false =>
          rw [scalars_eq_error hi]
          exact .inl ⟨by simpa using hi, _, rfl⟩
        | true =>
          -- the list is as long as the array
          obtain ⟨vs, hvs, hl⟩ := scalars_eq_ok field hi
          have hnil : vs = [] ↔ items = [] := by
            rw [← List.length_eq_zero_iff, hl, List.length_eq_zero_iff]
          rw [hvs]
          exact .inr (.inl ⟨by simpa using hi, hkey, _, rfl, by simp [hin, hnil]⟩)
      · next ho =>
        exact .inl ⟨fun ⟨items, hitems, _⟩ => ho items hitems, _, rfl⟩
    · by_cases hlike : key = "$like"
      · have hkey : key ∈ operatorKeys := by rw [hlike]; decide
        simp only [if_neg hin, if_pos hlike]
        split
        · exact .inr (.inl ⟨by simp, hkey, _, rfl, by simp [hin]⟩)
        · next ho => exact .inl ⟨fun ⟨pattern, hpattern⟩ => ho pattern hpattern, _, rfl⟩
      · simp only [if_neg hin, if_neg hlike]
        exact .inr (.inr ⟨not_mem_operatorKeys hc hin hlike, trivial⟩)

/-- When an object is refused as a member. -/
theorem memberRefused_object {policy : Policy} {key : String} {operand : Json}
    {extra : List (String × Json)} :
    MemberRefused policy (.object ((key, operand) :: extra)) ↔
      Unfit key operand ∨ (key = "$in" ∧ operand = .array []) ∨
        policy = .reject ∧ (key ∉ operatorKeys ∨ extra ≠ []) := by
  constructor
  · intro h
    cases h with
    | operand _ h => exact .inl h
    | emptyList => exact .inr (.inl ⟨rfl, rfl⟩)
    | unknownKey hp _ _ h => exact .inr (.inr ⟨hp, .inl h⟩)
    | furtherKey hp => exact .inr (.inr ⟨hp, .inr (List.cons_ne_nil _ _)⟩)
  · rintro (h | ⟨rfl, rfl⟩ | ⟨hp, h | h⟩)
    · exact .operand extra h
    · exact .emptyList extra
    · exact .unknownKey hp operand extra h
    · obtain ⟨second, extra, rfl⟩ := List.exists_cons_of_ne_nil h
      exact .furtherKey hp _ second extra

/-- The results of a member that is not refused: no condition, or one that can be met. -/
def Answered (r : Except Invalid (Option Condition)) : Prop :=
  ∃ found, r = .ok found ∧ found ≠ some (.operator (.inList []))

theorem not_answered_error (cause : Invalid) : ¬ Answered (.error cause) := by
  rintro ⟨found, h, -⟩
  cases h

theorem answered_ok {found : Option Condition} :
    Answered (.ok found) ↔ found ≠ some (.operator (.inList [])) := by
  simp [Answered]

theorem ofOperators_result (policy : Policy) (field key : String) (operand : Json)
    (extra : List (String × Json)) :
    (ofOperators policy field ((key, operand) :: extra)).result =
      (unknownAll policy field (extra.map (·.1))).result.bind fun _ =>
        (operator? field key operand).bind fun
          | some op => .ok (some (.operator op))
          | none => (unknown policy field key).result.map fun _ => none := by
  rw [ofOperators, Noted.bind_result]
  refine congrArg _ (funext fun _ => ?_)
  rw [Noted.bind_result]
  cases operator? field key operand with
  | error cause => rfl
  | ok found =>
    cases found with
    | some op => rfl
    | none => cases policy <;> rfl

theorem ofOperators_answered (policy : Policy) (field key : String) (operand : Json)
    (extra : List (String × Json)) :
    Answered (ofOperators policy field ((key, operand) :: extra)).result ↔
      ¬ MemberRefused policy (.object ((key, operand) :: extra)) := by
  rw [ofOperators_result, memberRefused_object]
  by_cases hextra : policy = .reject ∧ extra ≠ []
  · obtain ⟨rfl, hne⟩ := hextra
    obtain ⟨second, extra, rfl⟩ := List.exists_cons_of_ne_nil hne
    simp [unknownAll_result, not_answered_error]
  -- the further keys are let through, and the first one decides
  · have hok : (unknownAll policy field (extra.map (·.1))).result = .ok () := by
      cases policy with
      | ignore => exact unknownAll_result ..
      | reject =>
        have hnil : extra = [] := Classical.byContradiction fun hne => hextra ⟨rfl, hne⟩
        rw [hnil]
        rfl
    have hfirst : (policy = .reject ∧ (key ∉ operatorKeys ∨ extra ≠ [])) ↔
        (policy = .reject ∧ key ∉ operatorKeys) := by
      constructor
      · rintro ⟨hp, hk | hne⟩
        · exact ⟨hp, hk⟩
        · exact absurd ⟨hp, hne⟩ hextra
      · rintro ⟨hp, hk⟩
        exact ⟨hp, .inl hk⟩
    rw [hok, Result.bind_ok, hfirst]
    obtain ⟨hunfit, cause, hop⟩ | ⟨hfit, hkey, op, hop, hempty⟩ | ⟨hkey, hop⟩ :=
      operator?_cases field key operand
    · simp [hop, hunfit, not_answered_error]
    · rw [hop, Result.bind_ok, answered_ok]
      simp [hfit, hkey, ← hempty]
    · obtain ⟨hin, hfit⟩ := fit_of_unknown hkey operand
      cases policy <;>
        simp [hop, hfit, hkey, hin, unknown, Noted.emit, Noted.fault, not_answered_error, answered_ok]

/-- **A member is answered** unless it is refused. -/
theorem ofMember_answered (policy : Policy) (field : String) (raw : Json) :
    Answered (ofMember policy field raw).result ↔ ¬ MemberRefused policy raw := by
  cases raw with
  | object members =>
    cases members with
    | nil =>
      refine iff_of_true ⟨none, rfl, by simp⟩ fun h => ?_
      cases h
    | cons m extra => exact ofOperators_answered policy field m.1 m.2 extra
  | array items =>
    cases policy with
    | ignore =>
      refine iff_of_true ⟨none, rfl, by simp⟩ fun h => ?_
      cases h with
      | array hp => cases hp
    | reject => exact iff_of_false (not_answered_error _) fun h => h (.array rfl items)
  | _ =>
    -- a scalar asks for equality
    refine iff_of_true ⟨_, rfl, by simp⟩ fun h => ?_
    cases h

/-- Documents that are not refused, read member by member. -/
theorem addMembers_accepted (policy : Policy) (members : List (String × Json)) (f : Filter) :
    (∃ g, (addMembers policy f members).result = .ok g ∧ ¬ g.HasEmptyList) ↔
      ¬ f.HasEmptyList ∧ ∀ m ∈ members, m.1 ≠ "" → ¬ MemberRefused policy m.2 := by
  induction members generalizing f with
  | nil => simp [addMembers, pure, Noted.done]
  | cons m members ih =>
    obtain ⟨field, raw⟩ := m
    rw [List.forall_mem_cons, addMembers]
    by_cases hn : field = ""
    · simp [hn, ih]
    · have hname : field.isEmpty = false := by simpa using hn
      have hanswered := ofMember_answered policy field raw
      simp only [hname, Bool.false_eq_true, if_false, Noted.bind_result, ne_eq, hn, not_false_eq_true,
        forall_const]
      cases hr : (ofMember policy field raw).result with
      | error cause =>
        rw [hr] at hanswered
        simp [← hanswered, not_answered_error]
      | ok found =>
        rw [hr, answered_ok] at hanswered
        rw [Result.bind_ok, ← hanswered]
        cases found with
        | none => simp [ih]
        | some c => simp [ih, hasEmptyList_add hn, and_assoc]

/-- **The documents that are refused**: all others give a filter without empty lists. -/
theorem ofJson_accepted (policy : Policy) (j : Json) :
    (∃ f, (ofJson policy j).result = .ok f ∧ ¬ f.HasEmptyList) ↔ ¬ j.Refused policy := by
  cases j with
  | object members =>
    have hempty : ¬ empty.HasEmptyList := by decide
    rw [ofJson, addMembers_accepted, and_iff_right hempty]
    constructor
    · intro h hr
      cases hr with
      | kind hk => exact hk members rfl
      | member hm hn hr => exact h _ hm hn hr
    · intro h m hm hn hr
      exact h (.member hm hn hr)
  | _ =>
    -- nothing but an object is a filter document
    refine iff_of_false ?_ fun h => h (.kind fun members he => by cases he)
    rintro ⟨f, hf, -⟩
    cases hf

end Filter

end CriteriaSql
