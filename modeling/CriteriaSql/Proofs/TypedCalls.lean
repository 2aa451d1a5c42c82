import CriteriaSql.Proofs.Composition
import CriteriaSql.Proofs.Emptying
import CriteriaSql.Proofs.Faults
import CriteriaSql.Proofs.Policy

/-!
# Filter documents in typed calls

A filter document says, member by member, what the typed calls of a filter say: a scalar asks for equality,
an object for the operator that its first key names, and a member that names no operator for nothing, as long
as unknown operators are ignored. A document is unreadable if it is no object or if some operator does not
take its operand.

* `Json.Scalar`, `Json.IsOperator`, `Json.Asks`: what scalars, operators and members say.
* `Json.Says`: the typed calls of a document; `Json.Unreadable`: the documents that have none.
* `Filter.ofMember_eq_ok`, `Filter.ofJson_eq_ok_iff`: members and documents are read as what they say.
* `Builder.spoiled_of_fails`: no statement comes of a builder after a call that fails.
* `documents_say_typed_calls`: documents and typed filters, on any builder.
-/

namespace CriteriaSql

open List (Forall₂)

/-! ## What documents say -/

namespace Json

/-- A scalar as a value: whole numbers of 64 signed bits stay whole, all other numbers become binary. -/
inductive Scalar : Json → Value → Prop
  | null : Scalar .null .null
  | bool (b : Bool) : Scalar (.bool b) (.bool b)
  | whole (n : Int64) (h : wholeLow ≤ n.toInt ∧ n.toInt ≤ wholeHigh) :
    Scalar (.number (.int n.toInt h)) (.int n)
  | large {n : Int} (h : wholeLow ≤ n ∧ n ≤ wholeHigh) (hn : Int64.maxValue.toInt < n) :
    Scalar (.number (.int n h)) (.float (Floating.Binary64.ofInt n))
  | binary (x : Floating.Binary64) (h : x.isFinite = true) : Scalar (.number (.float x h)) (.float x)
  | string (s : String) : Scalar (.string s) (.text s)

/-- An array or an object. -/
def IsNested (j : Json) : Prop := (∃ items, j = .array items) ∨ ∃ members, j = .object members

/-- The operator of a key with its operand. -/
inductive IsOperator : String → Json → Operator → Prop
  | compare (c : Comparison) {operand : Json} {v : Value} (h : Scalar operand v) :
    IsOperator c.key operand (.compare c v)
  | inList {items : List Json} {vs : List Value} (h : Forall₂ Scalar items vs) :
    IsOperator "$in" (.array items) (.inList vs)
  | like (pattern : String) : IsOperator "$like" (.string pattern) (.like pattern)

/-- An operand that the operator of a key does not take. -/
inductive IllFormed : String → Json → Prop
  | comparison (c : Comparison) {operand : Json} (h : operand.IsNested) : IllFormed c.key operand
  | list {operand : Json} (h : ∀ items, operand ≠ .array items) : IllFormed "$in" operand
  | element {items : List Json} {item : Json} (hm : item ∈ items) (h : item.IsNested) :
    IllFormed "$in" (.array items)
  | pattern {operand : Json} (h : ∀ pattern, operand ≠ .string pattern) : IllFormed "$like" operand

/-- What a member asks of its field, which may be nothing. -/
inductive Asks : Json → Option Condition → Prop
  | scalar {j : Json} {v : Value} (h : Scalar j v) : Asks j (some (.literal v))
  | operator {key : String} {operand : Json} {op : Operator} (h : IsOperator key operand op)
    (extra : List (String × Json)) : Asks (.object ((key, operand) :: extra)) (some (.operator op))
  | unknownKey {key : String} (h : key ∉ operatorKeys) (operand : Json) (extra : List (String × Json)) :
    Asks (.object ((key, operand) :: extra)) none
  | noKey : Asks (.object []) none
  | array (items : List Json) : Asks (.array items) none

/-- What members ask for, in order: those without a name for nothing, the others for what a relation says. -/
inductive Gathered (R : Json → Option Condition → Prop) :
    List (String × Json) → List (String × Condition) → Prop
  | nil : Gathered R [] []
  | unnamed (raw : Json) {members : List (String × Json)} {calls : List (String × Condition)}
    (hs : Gathered R members calls) : Gathered R (("", raw) :: members) calls
  | silent {field : String} (hn : field ≠ "") {raw : Json} (h : R raw none) {members : List (String × Json)}
    {calls : List (String × Condition)} (hs : Gathered R members calls) :
    Gathered R ((field, raw) :: members) calls
  | call {field : String} (hn : field ≠ "") {raw : Json} {c : Condition} (h : R raw (some c))
    {members : List (String × Json)} {calls : List (String × Condition)} (hs : Gathered R members calls) :
    Gathered R ((field, raw) :: members) ((field, c) :: calls)

/-- The typed calls of a document. -/
inductive Says : Json → List (String × Condition) → Prop
  | object {members : List (String × Json)} {calls : List (String × Condition)}
    (h : Gathered Asks members calls) : Says (.object members) calls

/-- A document that is no object, or with an operator that does not take its operand. -/
inductive Unreadable : Json → Prop
  | kind {j : Json} (h : ∀ members, j ≠ .object members) : Unreadable j
  | operand {members extra : List (String × Json)} {field key : String} {operand : Json}
    (hm : (field, .object ((key, operand) :: extra)) ∈ members) (hn : field ≠ "")
    (h : IllFormed key operand) : Unreadable (.object members)

/-- A document that asks for membership in an empty list. -/
def HasEmptyList (j : Json) : Prop :=
  ∃ members field extra, j = .object members ∧ field ≠ "" ∧
    (field, .object (("$in", .array []) :: extra)) ∈ members

/-! ## Scalars -/

/-- A whole number has 64 signed bits unless it is too large. -/
theorem int64_range {n : Int} (h : wholeLow ≤ n) :
    (Text.int64Low ≤ n ∧ n ≤ Text.int64High) ↔ ¬ Int64.maxValue.toInt < n := by
  have hmax : Int64.maxValue.toInt = 9223372036854775807 := rfl
  unfold wholeLow at h
  unfold Text.int64Low Text.int64High
  omega

/-- **The value of a scalar** is the one that it says. -/
theorem ofJson?_eq_some {j : Json} {v : Value} : Value.ofJson? j = some v ↔ j.Scalar v := by
  constructor
  · intro h
    match j with
    | .null => cases h; exact .null
    | .bool b => cases h; exact .bool b
    | .string s => cases h; exact .string s
    | .number (.float x hx) => cases h; exact .binary x hx
    | .number (.int n hn) =>
      by_cases hlarge : Int64.maxValue.toInt < n
      · rw [Value.ofJson?, if_neg (mt (int64_range hn.1).1 (not_not.2 hlarge))] at h
        cases h
        exact .large hn hlarge
      · have hrange := (int64_range hn.1).2 hlarge
        rw [Value.ofJson?, if_pos hrange] at h
        cases h
        -- the number is that of its 64 bits
        unfold Text.int64Low Text.int64High at hrange
        have hbits : (Int64.ofInt n).toInt = n := Int64.toInt_ofInt_of_le (by omega) (by omega)
        obtain ⟨m, rfl⟩ : ∃ m : Int64, m.toInt = n := ⟨_, hbits⟩
        rw [Int64.ofInt_toInt]
        exact .whole m hn
  · intro h
    cases h with
    | whole n hn =>
      have hsmall : ¬ Int64.maxValue.toInt < n.toInt :=
        Int.not_lt.2 (Int64.le_iff_toInt_le.1 (Int64.le_maxValue n))
      rw [Value.ofJson?, if_pos ((int64_range hn.1).2 hsmall), Int64.ofInt_toInt]
    | large hn hlarge => rw [Value.ofJson?, if_neg (mt (int64_range hn.1).1 (not_not.2 hlarge))]
    | _ => rfl

theorem ofJson?_nested {j : Json} (h : j.IsNested) : Value.ofJson? j = none := by
  rcases h with ⟨items, rfl⟩ | ⟨members, rfl⟩ <;> rfl

theorem scalar_or_nested (j : Json) : (∃ v, j.Scalar v) ∨ j.IsNested := by
  match j with
  | .array items => exact .inr (.inl ⟨items, rfl⟩)
  | .object members => exact .inr (.inr ⟨members, rfl⟩)
  | .null => exact .inl ⟨_, .null⟩
  | .bool b => exact .inl ⟨_, .bool b⟩
  | .string s => exact .inl ⟨_, .string s⟩
  | .number (.int n h) => exact .inl ⟨_, ofJson?_eq_some.1 rfl⟩
  | .number (.float x h) => exact .inl ⟨_, .binary x h⟩

theorem scalars_or_nested (items : List Json) :
    (∃ vs, Forall₂ Scalar items vs) ∨ ∃ item ∈ items, item.IsNested := by
  induction items with
  | nil => exact .inl ⟨[], .nil⟩
  | cons item items ih =>
    rcases scalar_or_nested item with ⟨v, hv⟩ | hnested
    · rcases ih with ⟨vs, hvs⟩ | ⟨item', hm, hnested⟩
      · exact .inl ⟨v :: vs, .cons hv hvs⟩
      · exact .inr ⟨item', List.mem_cons_of_mem _ hm, hnested⟩
    · exact .inr ⟨item, List.mem_cons_self, hnested⟩

/-! ## Operators -/

/-- **A key with its operand** is an operator, or the operand is not one that the operator takes, or the key
names no operator. -/
theorem isOperator_cases (key : String) (operand : Json) :
    (∃ op, IsOperator key operand op) ∨ IllFormed key operand ∨ key ∉ operatorKeys := by
  by_cases hkey : key ∈ operatorKeys
  · rw [operatorKeys, List.mem_append, List.mem_map] at hkey
    rcases hkey with ⟨c, -, rfl⟩ | hspecial
    · rcases scalar_or_nested operand with ⟨v, hv⟩ | hnested
      · exact .inl ⟨_, .compare c hv⟩
      · exact .inr (.inl (.comparison c hnested))
    · obtain rfl | rfl : key = "$in" ∨ key = "$like" := by simpa using hspecial
      · by_cases harray : ∃ items, operand = .array items
        · obtain ⟨items, rfl⟩ := harray
          rcases scalars_or_nested items with ⟨vs, hvs⟩ | ⟨item, hm, hnested⟩
          · exact .inl ⟨_, .inList hvs⟩
          · exact .inr (.inl (.element hm hnested))
        · exact .inr (.inl (.list (not_exists.1 harray)))
      · by_cases htext : ∃ pattern, operand = .string pattern
        · obtain ⟨pattern, rfl⟩ := htext
          exact .inl ⟨_, .like pattern⟩
        · exact .inr (.inl (.pattern (not_exists.1 htext)))
  · exact .inr (.inr hkey)

theorem ofKey?_key (c : Comparison) : Comparison.ofKey? c.key = some c := by
  cases c <;> rfl

theorem IllFormed.unfit {key : String} {operand : Json} (h : IllFormed key operand) : Unfit key operand := by
  cases h with
  | comparison c h =>
    obtain ⟨hin, hlike⟩ := Filter.key_ofKey? (ofKey?_key c)
    rw [Unfit, if_neg hin, if_neg hlike, isScalar, ofJson?_nested h]
    exact ⟨Filter.mem_operatorKeys (ofKey?_key c), rfl⟩
  | list h =>
    rw [Unfit, if_pos rfl]
    rintro ⟨items, rfl, -⟩
    exact h items rfl
  | element hm h =>
    rw [Unfit, if_pos rfl]
    rintro ⟨items, ⟨⟩, hall⟩
    have hitem := List.all_eq_true.1 hall _ hm
    rw [isScalar, ofJson?_nested h] at hitem
    cases hitem
  | pattern h =>
    rw [Unfit, if_neg (by decide), if_pos rfl]
    rintro ⟨pattern, rfl⟩
    exact h pattern rfl

/-! ## Members in order -/

section Members

variable {R : Json → Option Condition → Prop} {members : List (String × Json)}
  {calls : List (String × Condition)}

/-- Calls are gathered if each named member says something. -/
theorem Gathered.exists (h : ∀ m ∈ members, m.1 ≠ "" → ∃ found, R m.2 found) :
    ∃ calls, Gathered R members calls := by
  induction members with
  | nil => exact ⟨[], .nil⟩
  | cons m members ih =>
    obtain ⟨field, raw⟩ := m
    obtain ⟨calls, hcalls⟩ := ih fun m hm => h m (List.mem_cons_of_mem _ hm)
    by_cases hn : field = ""
    · exact ⟨calls, hn ▸ .unnamed raw hcalls⟩
    · obtain ⟨found, hfound⟩ := h (field, raw) List.mem_cons_self hn
      cases found with
      | none => exact ⟨calls, .silent hn hfound hcalls⟩
      | some c => exact ⟨(field, c) :: calls, .call hn hfound hcalls⟩

theorem Gathered.mem (h : Gathered R members calls) {field : String} {raw : Json}
    (hm : (field, raw) ∈ members) (hn : field ≠ "") : ∃ found, R raw found := by
  induction h with
  | nil => cases hm
  | unnamed _ _ ih =>
    rcases List.mem_cons.1 hm with heq | hm
    · exact absurd (Prod.mk.inj heq).1 hn
    · exact ih hm
  | silent _ hR _ ih =>
    rcases List.mem_cons.1 hm with heq | hm
    · obtain ⟨rfl, rfl⟩ := Prod.mk.inj heq
      exact ⟨none, hR⟩
    · exact ih hm
  | call _ hR _ ih =>
    rcases List.mem_cons.1 hm with heq | hm
    · obtain ⟨rfl, rfl⟩ := Prod.mk.inj heq
      exact ⟨_, hR⟩
    · exact ih hm

end Members

theorem HasEmptyList.refused {j : Json} (h : j.HasEmptyList) {policy : Policy} : j.Refused policy := by
  obtain ⟨members, field, extra, rfl, hn, hm⟩ := h
  exact .member hm hn (.emptyList extra)

end Json

namespace Filter

open Json

theorem scalars_of_forall₂ (field : String) {items : List Json} {vs : List Value}
    (h : Forall₂ Scalar items vs) : scalars field items = .ok vs := by
  induction h with
  | nil => rfl
  | cons hv _ ih =>
    rw [scalars, ofJson?_eq_some.2 hv, ih]
    rfl

theorem operator?_isOperator (field : String) {key : String} {operand : Json} {op : Operator}
    (h : IsOperator key operand op) : operator? field key operand = .ok (some op) := by
  cases h with
  | compare c hv =>
    unfold operator? scalar
    rw [ofKey?_key, ofJson?_eq_some.2 hv]
    rfl
  | inList hvs => exact Result.map_eq_ok.2 ⟨_, scalars_of_forall₂ field hvs, rfl⟩
  | like pattern => rfl

theorem operator?_illFormed (field : String) {key : String} {operand : Json} (h : IllFormed key operand) :
    ∃ cause, operator? field key operand = .error cause := by
  rcases operator?_cases field key operand with ⟨-, hcause⟩ | ⟨hfit, -⟩ | ⟨hkey, -⟩
  · exact hcause
  · exact absurd h.unfit hfit
  · exact absurd h.unfit (fit_of_unknown hkey operand).2

theorem operator?_unknown (field : String) {key : String} (operand : Json) (h : key ∉ operatorKeys) :
    operator? field key operand = .ok none := by
  rcases operator?_cases field key operand with ⟨hunfit, -⟩ | ⟨-, hkey, -⟩ | ⟨-, hnone⟩
  · exact absurd hunfit (fit_of_unknown h operand).2
  · exact absurd hkey h
  · exact hnone

/-! ## Members -/

theorem ofMember_asks (field : String) {raw : Json} {found : Option Condition} (h : Asks raw found) :
    (ofMember .ignore field raw).result = .ok found := by
  cases h with
  | scalar hv => rw [ofMember_scalar (ofJson?_eq_some.2 hv)]; rfl
  | operator h extra => rw [ofMember, ofOperators_result, unknownAll_result, Result.bind_ok,
      operator?_isOperator field h, Result.bind_ok]
  | unknownKey h operand extra =>
    rw [ofMember, ofOperators_result, unknownAll_result, Result.bind_ok, operator?_unknown field operand h]
    rfl
  | noKey => rfl
  | array items => rfl

theorem ofMember_illFormed (field : String) {key : String} {operand : Json} (extra : List (String × Json))
    (h : IllFormed key operand) :
    ∃ cause, (ofMember .ignore field (.object ((key, operand) :: extra))).result = .error cause := by
  obtain ⟨cause, hcause⟩ := operator?_illFormed field h
  refine ⟨cause, ?_⟩
  rw [ofMember, ofOperators_result, unknownAll_result, Result.bind_ok, hcause, Result.bind_error]

/-- A member says what it asks for, unless its operator does not take its operand. -/
theorem asks_cases (raw : Json) :
    (∃ found, Asks raw found) ∨
      ∃ key operand extra, raw = .object ((key, operand) :: extra) ∧ IllFormed key operand := by
  match raw with
  | .object [] => exact .inl ⟨none, .noKey⟩
  | .object ((key, operand) :: extra) =>
    rcases isOperator_cases key operand with ⟨op, hop⟩ | hill | hkey
    · exact .inl ⟨_, .operator hop extra⟩
    · exact .inr ⟨key, operand, extra, rfl, hill⟩
    · exact .inl ⟨none, .unknownKey hkey operand extra⟩
  | .array items => exact .inl ⟨none, .array items⟩
  | .null => exact .inl ⟨_, .scalar .null⟩
  | .bool b => exact .inl ⟨_, .scalar (.bool b)⟩
  | .string s => exact .inl ⟨_, .scalar (.string s)⟩
  | .number n =>
    rcases scalar_or_nested (.number n) with ⟨v, hv⟩ | ⟨_, ⟨⟩⟩ | ⟨_, ⟨⟩⟩
    exact .inl ⟨_, .scalar hv⟩

/-- **A member is read as what it asks for** when unknown operators are ignored. -/
theorem ofMember_eq_ok {field : String} {raw : Json} {found : Option Condition} :
    (ofMember .ignore field raw).result = .ok found ↔ Asks raw found := by
  refine ⟨fun h => ?_, ofMember_asks field⟩
  rcases asks_cases raw with ⟨found', hasks⟩ | ⟨key, operand, extra, rfl, hill⟩
  · rw [ofMember_asks field hasks] at h
    exact Except.ok.inj h ▸ hasks
  · obtain ⟨cause, hcause⟩ := ofMember_illFormed field extra hill
    rw [hcause] at h
    cases h

/-! ## Documents -/

/-- One typed call of a filter. -/
def typed (f : Filter) : String × Condition → Filter
  | (field, .literal v) => f.literal field v
  | (field, .operator op) => f.operator field op

/-- The filter that typed calls make. -/
def ofTyped (calls : List (String × Condition)) : Filter := calls.foldl typed empty

theorem typed_eq_add (f : Filter) (field : String) (c : Condition) : f.typed (field, c) = f.add field c := by
  cases c <;> rfl

section Reading

variable {policy : Policy} {R : Json → Option Condition → Prop} {members : List (String × Json)}
  {calls : List (String × Condition)} {f g : Filter}

theorem gathered_of_addMembers
    (hR : ∀ field raw found, (ofMember policy field raw).result = .ok found → R raw found)
    (h : (addMembers policy f members).result = .ok g) :
    ∃ calls, Gathered R members calls ∧ g = calls.foldl typed f := by
  induction members generalizing f with
  | nil =>
    cases h
    exact ⟨[], .nil, rfl⟩
  | cons m members ih =>
    obtain ⟨field, raw⟩ := m
    rw [addMembers] at h
    split at h
    · next hname =>
      obtain ⟨calls, hcalls, hg⟩ := ih h
      obtain rfl : field = "" := by simpa using hname
      exact ⟨calls, .unnamed raw hcalls, hg⟩
    · next hname =>
      have hn : field ≠ "" := by simpa using hname
      obtain ⟨found, hfound, h⟩ := Noted.bind_result_ok h
      have hraw := hR field raw found hfound
      cases found with
      | none =>
        obtain ⟨calls, hcalls, hg⟩ := ih h
        exact ⟨calls, .silent hn hraw hcalls, hg⟩
      | some c =>
        obtain ⟨calls, hcalls, hg⟩ := ih h
        refine ⟨(field, c) :: calls, .call hn hraw hcalls, ?_⟩
        rw [List.foldl_cons, typed_eq_add]
        exact hg

theorem addMembers_of_gathered
    (hR : ∀ field raw found, R raw found → (ofMember policy field raw).result = .ok found)
    (h : Gathered R members calls) (f : Filter) :
    (addMembers policy f members).result = .ok (calls.foldl typed f) := by
  induction h generalizing f with
  | nil => rfl
  | unnamed raw _ ih => exact ih f
  | @silent field hn raw h _ _ _ ih =>
    have hname : field.isEmpty = false := by simpa using hn
    rw [addMembers, hname, if_neg Bool.false_ne_true, Noted.bind_result, hR field raw none h, Result.bind_ok]
    exact ih f
  | @call field hn raw c h _ _ _ ih =>
    have hname : field.isEmpty = false := by simpa using hn
    rw [addMembers, hname, if_neg Bool.false_ne_true, Noted.bind_result, hR field raw _ h, Result.bind_ok,
      List.foldl_cons, typed_eq_add]
    exact ih _

end Reading

/-- **A document that is read says the filter**, call by call. -/
theorem ofJson_eq_ok_iff {j : Json} {f : Filter} :
    (ofJson .ignore j).result = .ok f ↔ ∃ calls, j.Says calls ∧ f = ofTyped calls := by
  constructor
  · intro h
    cases j with
    | object members =>
      obtain ⟨calls, hcalls, hf⟩ := gathered_of_addMembers (fun _ _ _ => ofMember_eq_ok.1) h
      exact ⟨calls, .object hcalls, hf⟩
    | _ => cases h
  · rintro ⟨calls, ⟨hcalls⟩, rfl⟩
    exact addMembers_of_gathered (fun field _ _ => ofMember_asks field) hcalls empty

/-- **The documents that are not read** are those that are unreadable. -/
theorem ofJson_fails_iff {j : Json} : (∃ cause, (ofJson .ignore j).result = .error cause) ↔ j.Unreadable := by
  constructor
  · rintro ⟨cause, hcause⟩
    refine Classical.byContradiction fun hreadable => ?_
    cases j with
    | object members =>
      have hasks : ∀ m ∈ members, m.1 ≠ "" → ∃ found, Asks m.2 found := by
        rintro ⟨field, raw⟩ hm hn
        rcases asks_cases raw with hfound | ⟨key, operand, extra, rfl, hill⟩
        · exact hfound
        · exact absurd (.operand hm hn hill) hreadable
      obtain ⟨calls, hcalls⟩ := Gathered.exists hasks
      have hread := ofJson_eq_ok_iff.2 ⟨calls, .object hcalls, rfl⟩
      rw [hcause] at hread
      cases hread
    | _ => exact hreadable (.kind fun members he => by cases he)
  · intro h
    cases hr : (ofJson .ignore j).result with
    | error cause => exact ⟨cause, rfl⟩
    | ok f =>
      obtain ⟨calls, ⟨hcalls⟩, -⟩ := ofJson_eq_ok_iff.1 hr
      cases h with
      | kind hk => exact absurd rfl (hk _)
      | @operand _ extra field _ _ hm hn hill =>
        obtain ⟨found, hfound⟩ := hcalls.mem hm hn
        obtain ⟨cause, hcause⟩ := ofMember_illFormed field extra hill
        rw [ofMember_asks field hfound] at hcause
        cases hcause

theorem hasEmptyList_of_ofJson {policy : Policy} {j : Json} (h : j.HasEmptyList) {f : Filter}
    (hf : (ofJson policy j).result = .ok f) : f.HasEmptyList :=
  Classical.byContradiction fun hnone => (ofJson_accepted policy j).1 ⟨f, hf, hnone⟩ h.refused

end Filter

/-! ## Builders -/

namespace Builder

/-- No statement comes of a builder before it is emptied. -/
def Spoiled (b : Builder) : Prop :=
  ∀ calls : List Call, (∀ kind, .prepare kind ∉ calls) → .reset ∉ calls →
    ∀ k, ∃ cause, (b.run calls).buildFrom k = .error cause

/-- A fault is kept until the builder is emptied. -/
theorem run_failure {b : Builder} {cause : Invalid} (hb : b.failure = some cause) {calls : List Call}
    (hprepare : ∀ kind, .prepare kind ∉ calls) (hreset : .reset ∉ calls) :
    (b.run calls).failure = some cause := by
  induction calls generalizing b with
  | nil => exact hb
  | cons call calls ih =>
    have hstep : (b.apply call).failure = some cause := by
      rcases b.apply_cases call with ⟨-, hcall⟩ | ⟨policy, rfl⟩ | ⟨kind, rfl⟩ | rfl
      · rw [hcall]
        change b.failure.or _ = some cause
        rw [hb, Option.some_or]
      · exact hb
      · exact absurd List.mem_cons_self (hprepare kind)
      · exact absurd List.mem_cons_self hreset
    exact ih hstep (fun kind hm => hprepare kind (List.mem_cons_of_mem _ hm))
      fun hm => hreset (List.mem_cons_of_mem _ hm)

/-- **A call that fails spoils its builder.** -/
theorem spoiled_of_fails {b : Builder} {call : Call} (h : call.Fails b.policy) : (b.apply call).Spoiled := by
  obtain ⟨cause, hcause⟩ : ∃ cause, (b.apply call).failure = some cause := by
    obtain ⟨cause, hcause⟩ := Option.isSome_iff_exists.1 (Call.fault?_isSome.2 h)
    rw [apply_eq_take b h.contributes]
    change ∃ cause, b.failure.or (call.fault? b.policy) = some cause
    rw [hcause]
    cases b.failure with
    | none => exact ⟨cause, rfl⟩
    | some earlier => exact ⟨earlier, rfl⟩
  intro calls hprepare hreset k
  refine ⟨cause, ?_⟩
  unfold buildFrom
  rw [run_failure hcause hprepare hreset]

end Builder

/-! ## The main results -/

/-- **A filter document says typed calls.** When unknown operators are ignored, a document is refused, with the
cause of a validation error, if and only if it is unreadable, and it is read as a filter if and only if that is
the filter of its typed calls. A model reads that filter, and a builder takes the document as it takes the
filter, so that the statements and the errors after it are the same. A document that asks for membership in an
empty list never leads to a statement, under either policy, nor does the filter that it is read as. -/
theorem documents_say_typed_calls (j : Json) :
    ((∃ cause, (Filter.ofJson .ignore j).result = .error cause) ↔ j.Unreadable) ∧
      (∀ f, (Filter.ofJson .ignore j).result = .ok f ↔ ∃ calls, j.Says calls ∧ f = Filter.ofTyped calls) ∧
      (∀ calls, j.Says calls →
        (∀ m : Model, m.config.policy = .ignore → (m.filter j).result = .ok (Filter.ofTyped calls)) ∧
          ∀ (b : Builder) (connective : Connective), b.policy = .ignore →
            b.restrictJson connective j = b.restrict connective (Filter.ofTyped calls)) ∧
      (j.HasEmptyList → ∀ (b : Builder) (connective : Connective), (b.restrictJson connective j).Spoiled ∧
        ∀ policy f, (Filter.ofJson policy j).result = .ok f → (b.restrict connective f).Spoiled ∧
          ∀ schema updates, (¬ ∃ s, Staged.update schema f updates = .ok s) ∧
            ¬ ∃ s, Staged.delete schema f = .ok s) := by
  refine ⟨Filter.ofJson_fails_iff, fun f => Filter.ofJson_eq_ok_iff, ?_, ?_⟩
  · intro calls hcalls
    have hread := Filter.ofJson_eq_ok_iff.2 ⟨calls, hcalls, rfl⟩
    refine ⟨fun m hpolicy => ?_, fun b connective hpolicy => ?_⟩
    · rw [Model.filter, hpolicy, hread]
    · rw [Builder.restrictJson, hpolicy, hread]
      rfl
  · intro hlist b connective
    refine ⟨Builder.spoiled_of_fails (.document connective hlist.refused), fun policy f hf => ?_⟩
    have hempty := Filter.hasEmptyList_of_ofJson hlist hf
    refine ⟨Builder.spoiled_of_fails (.emptyList connective hempty), fun schema updates => ⟨?_, ?_⟩⟩
    · exact fun hmade => (Staged.update_made_iff.1 hmade).1 hempty
    · exact fun hmade => (Staged.delete_made_iff.1 hmade).1 hempty

/-- A document with a further key, a member without a name and one that asks for nothing, on a builder of
users; and one with an empty list. -/
theorem documents_say_typed_calls_users :
    let j := Json.object [("name", .object [("$like", .string "a%"), ("$not", .null)]), ("", .array []),
      ("age", .number (.int 18 (by decide))), ("_id", .object [("$or", .null)])]
    let missing := Json.object [("name", .string "ann"), ("age", .object [("$in", .array [])])]
    let b := Builder.ofSchema .users .ignore
    b.restrictJson .or j =
        b.restrict .or ((Filter.empty.operator "name" (.like "a%")).literal "age" (.int 18)) ∧
      ∃ cause, ((b.restrictJson .and missing).run [.limit 3]).buildFrom 0 = .error cause := by
  intro j missing b
  constructor
  · have hcalls : j.Says [("name", .operator (.like "a%")), ("age", .literal (.int 18))] :=
      .object <| .call (by decide) (.operator (.like "a%") _) <| .unnamed _ <|
        .call (by decide) (.scalar (.whole 18 _)) <| .silent (by decide) (.unknownKey (by decide) _ _) .nil
    exact ((documents_say_typed_calls j).2.2.1 _ hcalls).2 b .or rfl
  · have hlist : missing.HasEmptyList := ⟨_, "age", [], rfl, by decide, by simp⟩
    exact ((documents_say_typed_calls missing).2.2.2 hlist b .and).1 [.limit 3] (by simp) (by simp) 0

end CriteriaSql
