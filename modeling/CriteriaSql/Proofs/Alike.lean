import CriteriaSql.Builder.Call
import CriteriaSql.Proofs.Filter
import Mathlib.Data.List.Forall2

/-!
# Alike up to operand values

Arguments that differ in operand values only: other operands under the same operators, other values in
the same columns, other scalars in a document of the same shape. A bare value may not change whether it
counts.

* `Operator.Alike`, `Filter.Alike`, `Json.Alike`, `Call.Alike`: alike arguments.
* `Result.Both`: the same error, or related results.
* `Filter.predicates_alike`, `Filter.ofJson_alike`: what alike filters and documents give.
-/

namespace CriteriaSql

open List (Forall₂)

variable {α β γ δ ε ε' : Type}

/-! ## Results -/

/-- The same error, or results in a relation. -/
inductive Result.Both (R : α → β → Prop) : Except ε α → Except ε β → Prop
  | error (e : ε) : Both R (.error e) (.error e)
  | ok {a : α} {b : β} (h : R a b) : Both R (.ok a) (.ok b)

namespace Result

variable {R : α → β → Prop} {S : γ → δ → Prop} {x : Except ε α} {y : Except ε β}

theorem Both.map {f : α → γ} {g : β → δ} (h : Both R x y) (hfg : ∀ a b, R a b → S (f a) (g b)) :
    Both S (x.map f) (y.map g) := by
  cases h with
  | error e => exact .error e
  | ok h => exact .ok (hfg _ _ h)

theorem Both.bind {f : α → Except ε γ} {g : β → Except ε δ} (h : Both R x y)
    (hfg : ∀ a b, R a b → Both S (f a) (g b)) : Both S (x.bind f) (y.bind g) := by
  cases h with
  | error e => exact .error e
  | ok h => exact hfg _ _ h

theorem Both.mapError (f : ε → ε') (h : Both R x y) : Both R (x.mapError f) (y.mapError f) := by
  cases h with
  | error e => exact .error (f e)
  | ok h => exact .ok h

theorem Both.refl {R : α → α → Prop} (hR : ∀ a, R a a) (x : Except ε α) : Both R x x := by
  cases x with
  | error e => exact .error e
  | ok a => exact .ok (hR a)

end Result

/-- The same events, with the same fault or related results. -/
structure Noted.Both (R : α → β → Prop) (x : Noted α) (y : Noted β) : Prop where
  events : x.events = y.events
  result : Result.Both R x.result y.result

namespace Noted

variable {R : α → β → Prop} {S : γ → δ → Prop}

theorem Both.pure {a : α} {b : β} (h : R a b) : Both R (pure a : Noted α) (pure b : Noted β) :=
  ⟨rfl, .ok h⟩

theorem Both.same (x : Noted α) : Both Eq x x :=
  ⟨rfl, .refl (fun _ => rfl) _⟩

theorem Both.bind {x : Noted α} {y : Noted β} {f : α → Noted γ} {g : β → Noted δ} (h : Both R x y)
    (hfg : ∀ a b, R a b → Both S (f a) (g b)) : Both S (x >>= f) (y >>= g) := by
  obtain ⟨events, r⟩ := x
  obtain ⟨events', r'⟩ := y
  obtain ⟨he, hr⟩ := h
  change events = events' at he
  subst he
  cases hr with
  | error cause => exact ⟨rfl, .error cause⟩
  | ok hab =>
    obtain ⟨hev, hres⟩ := hfg _ _ hab
    exact ⟨congrArg (events ++ ·) hev, hres⟩

end Noted

/-! ## Operators and filters -/

/-- The same operator with another operand; a list must keep its length. -/
inductive Operator.Alike : Operator → Operator → Prop
  | compare (c : Comparison) (v w : Value) : Alike (.compare c v) (.compare c w)
  | inList {vs ws : List Value} (h : vs.length = ws.length) : Alike (.inList vs) (.inList ws)
  | like (p q : String) : Alike (.like p) (.like q)

/-- A bare value for one that counts as much, or alike operators. -/
inductive Condition.Alike : Condition → Condition → Prop
  | literal {v w : Value} (h : v.isFalsy = w.isFalsy) : Alike (.literal v) (.literal w)
  | operator {p q : Operator} (h : p.Alike q) : Alike (.operator p) (.operator q)

/-- A name with related things. -/
def Named (R : α → β → Prop) (e : String × α) (e' : String × β) : Prop :=
  e.1 = e'.1 ∧ R e.2 e'.2

/-- The same fields in the same order, with alike conditions. -/
def Filter.Alike (f g : Filter) : Prop := Forall₂ (Named Condition.Alike) f.entries g.entries

/-- The same condition, up to its operand. -/
inductive Predicate.Alike : Predicate → Predicate → Prop
  | field (name : String) {p q : Operator} (h : p.Alike q) : Alike (.field name p) (.field name q)
  | raw (sql : String) : Alike (.raw sql) (.raw sql)

theorem Operator.Alike.refl (op : Operator) : op.Alike op := by
  cases op with
  | compare c v => exact .compare c v v
  | inList vs => exact .inList rfl
  | like p => exact .like p p

theorem Condition.Alike.refl (c : Condition) : c.Alike c := by
  cases c with
  | literal v => exact .literal rfl
  | operator op => exact .operator (.refl op)

theorem Predicate.Alike.refl (p : Predicate) : p.Alike p := by
  cases p with
  | field name op => exact .field name (.refl op)
  | raw sql => exact .raw sql

theorem Filter.Alike.refl (f : Filter) : f.Alike f :=
  List.forall₂_same.2 fun e _ => ⟨rfl, .refl e.2⟩

theorem Condition.Alike.operator? {c d : Condition} (h : c.Alike d) :
    (c.operator? = none ∧ d.operator? = none) ∨
      ∃ p q, c.operator? = some p ∧ d.operator? = some q ∧ p.Alike q := by
  cases h with
  -- both count or none does
  | @literal v w h =>
    unfold Condition.operator?
    cases hw : w.isFalsy with
    | true => exact .inl ⟨if_pos (h.trans hw), if_pos hw⟩
    | false =>
      have hv : ¬ v.isFalsy = true := by rw [h, hw]; decide
      exact .inr ⟨_, _, if_neg hv, if_neg (by rw [hw]; decide), .compare .eq v w⟩
  | operator h => exact .inr ⟨_, _, rfl, rfl, h⟩

theorem Operator.Alike.check {p q : Operator} (h : p.Alike q) (field : String) :
    p.check field = q.check field := by
  cases h with
  | compare c v w => rfl
  | like p q => rfl
  | @inList vs ws h =>
    cases vs with
    | nil => rw [List.eq_nil_of_length_eq_zero h.symm]
    | cons v vs =>
      cases ws with
      | nil => cases h
      | cons w ws => rfl

namespace Filter

theorem usable_alike {f g : Filter} (h : f.Alike g) : Forall₂ (Named Operator.Alike) f.usable g.usable := by
  unfold usable
  unfold Filter.Alike at h
  generalize f.entries = es, g.entries = es' at h
  induction h with
  | nil => exact .nil
  | @cons e e' es es' he _ ih =>
    obtain ⟨hn, hc⟩ := he
    rcases hc.operator? with ⟨hp, hq⟩ | ⟨p, q, hp, hq, hpq⟩
    · rw [List.filterMap_cons, List.filterMap_cons, hp, hq]
      exact ih
    · rw [List.filterMap_cons, List.filterMap_cons, hp, hq]
      exact .cons ⟨hn, hpq⟩ ih

theorem ofField_alike {field : String} {p q : Operator} (h : p.Alike q) :
    Result.Both Predicate.Alike (Predicate.ofField field p) (Predicate.ofField field q) := by
  unfold Predicate.ofField
  rw [h.check field]
  exact (Result.Both.refl (fun _ => rfl) (q.check field)).map fun _ _ (_ : _ = _) => .field field h

/-- Alike filters are refused alike, or give alike conditions. -/
theorem predicates_alike {f g : Filter} (h : f.Alike g) :
    Result.Both (Forall₂ Predicate.Alike) f.predicates g.predicates := by
  unfold predicates
  have hu := usable_alike h
  generalize f.usable = us, g.usable = us' at hu
  induction hu with
  | nil => exact .ok .nil
  | @cons e e' es es' he _ ih =>
    obtain ⟨field, p⟩ := e
    obtain ⟨field', q⟩ := e'
    obtain ⟨rfl, hpq⟩ := he
    rw [List.mapM_cons, List.mapM_cons]
    refine (ofField_alike hpq).bind fun a b hab => ih.bind fun as bs habs => ?_
    exact .ok (.cons hab habs)

end Filter

/-! ## Documents -/

namespace Json

def isScalar (j : Json) : Bool := (Value.ofJson? j).isSome

def isString : Json → Bool
  | .string _ => true
  | _ => false

/-- The elements of an array. -/
def elements? : Json → Option (List Json)
  | .array items => some items
  | _ => none

/-- What a list operator sees of its elements: how many they are, if all are scalars. -/
def listShape (items : List Json) : Option Nat :=
  if items.all isScalar then some items.length else none

/-- Operands of the same shape under a key. -/
def OperandAlike (key : String) (j j' : Json) : Prop :=
  if key = "$in" then j.elements?.map listShape = j'.elements?.map listShape
  else if key = "$like" then j.isString = j'.isString
  else j.isScalar = j'.isScalar

/-- Members of the same shape: scalars that count as much, arrays, or operators with operands of the same
shape. -/
inductive MemberAlike : Json → Json → Prop
  | scalar {j j' : Json} {v w : Value} (hj : Value.ofJson? j = some v) (hj' : Value.ofJson? j' = some w)
    (h : v.isFalsy = w.isFalsy) : MemberAlike j j'
  | array (items items' : List Json) : MemberAlike (.array items) (.array items')
  | object {ms ms' : List (String × Json)}
    (h : Forall₂ (fun e e' => e.1 = e'.1 ∧ OperandAlike e.1 e.2 e'.2) ms ms') :
    MemberAlike (.object ms) (.object ms')

/-- Objects with the same names and members of the same shape, or other things of the same kind. -/
inductive Alike : Json → Json → Prop
  | object {ms ms' : List (String × Json)} (h : Forall₂ (Named MemberAlike) ms ms') :
    Alike (.object ms) (.object ms')
  | other {j j' : Json} (h : j.kind = j'.kind) (hj : j.kind ≠ (object []).kind) : Alike j j'

theorem OperandAlike.refl (key : String) (j : Json) : OperandAlike key j j := by
  unfold OperandAlike
  split
  · rfl
  · split <;> rfl

theorem MemberAlike.refl (j : Json) : MemberAlike j j := by
  cases hj : Value.ofJson? j with
  | some v => exact .scalar hj hj rfl
  | none =>
    cases j with
    | array items => exact .array items items
    | object ms => exact .object (List.forall₂_same.2 fun e _ => ⟨rfl, .refl e.1 e.2⟩)
    | null => cases hj
    | bool b => cases hj
    | string s => cases hj
    | number n => cases n <;> cases hj

theorem Alike.refl (j : Json) : j.Alike j := by
  cases j with
  | object ms => exact .object (List.forall₂_same.2 fun e _ => ⟨rfl, .refl e.2⟩)
  | null => exact .other rfl (by simp [kind])
  | bool b => exact .other rfl (by simp [kind])
  | number n => exact .other rfl (by simp [kind])
  | string s => exact .other rfl (by simp [kind])
  | array items => exact .other rfl (by simp [kind])

end Json

namespace Filter

theorem scalars_eq_ok (field : String) {items : List Json} (h : items.all Json.isScalar = true) :
    ∃ vs, scalars field items = .ok vs ∧ vs.length = items.length := by
  induction items with
  | nil => exact ⟨[], rfl, rfl⟩
  | cons item items ih =>
    rw [List.all_cons, Bool.and_eq_true] at h
    obtain ⟨v, hv⟩ := Option.isSome_iff_exists.1 h.1
    obtain ⟨vs, hvs, hl⟩ := ih h.2
    refine ⟨v :: vs, ?_, by rw [List.length_cons, List.length_cons, hl]⟩
    simp only [scalars, hv, hvs, Result.map_ok]

theorem scalars_eq_error {field : String} {items : List Json} (h : items.all Json.isScalar = false) :
    scalars field items = .error (.elementNotScalar field) := by
  induction items with
  | nil => cases h
  | cons item items ih =>
    rw [List.all_cons, Bool.and_eq_false_iff] at h
    unfold scalars
    cases hv : Value.ofJson? item with
    | none => rfl
    | some v =>
      -- the first element is a scalar, so the fault lies behind it
      have hitem : Json.isScalar item = true := by rw [Json.isScalar, hv]; rfl
      have hrest : items.all Json.isScalar = false := h.resolve_left (by rw [hitem]; decide)
      rw [ih hrest]
      rfl

theorem scalars_alike {field : String} {items items' : List Json}
    (h : Json.listShape items = Json.listShape items') :
    Result.Both (fun vs ws => vs.length = ws.length) (scalars field items) (scalars field items') := by
  unfold Json.listShape at h
  cases hi : items.all Json.isScalar <;> cases hi' : items'.all Json.isScalar
  · rw [scalars_eq_error hi, scalars_eq_error hi']
    exact .error _
  · simp [hi, hi'] at h
  · simp [hi, hi'] at h
  · obtain ⟨vs, hvs, hl⟩ := scalars_eq_ok field hi
    obtain ⟨ws, hws, hl'⟩ := scalars_eq_ok field hi'
    rw [hi, hi', if_pos rfl, if_pos rfl] at h
    rw [hvs, hws]
    exact .ok (by rw [hl, hl', Option.some.inj h])

theorem scalar_alike {field key : String} {j j' : Json} (h : j.isScalar = j'.isScalar) :
    Result.Both (fun _ _ => True) (scalar field key j) (scalar field key j') := by
  unfold Json.isScalar at h
  unfold scalar
  cases hv : Value.ofJson? j <;> cases hw : Value.ofJson? j'
  · exact .error _
  · rw [hv, hw] at h; cases h
  · rw [hv, hw] at h; cases h
  · exact .ok trivial

theorem key_ofKey? {key : String} {c : Comparison} (h : Comparison.ofKey? key = some c) :
    key ≠ "$in" ∧ key ≠ "$like" := by
  unfold Comparison.ofKey? at h
  have hk := List.find?_some h
  rw [← of_decide_eq_true hk]
  cases c <;> decide

theorem elements?_eq_none {j : Json} (h : ∀ items, j = .array items → False) : j.elements? = none := by
  cases j with
  | array items => exact (h items rfl).elim
  | _ => rfl

theorem isString_eq_false {j : Json} (h : ∀ s, j = .string s → False) : j.isString = false := by
  cases j with
  | string s => exact (h s rfl).elim
  | _ => rfl

theorem operator?_alike {field key : String} {j j' : Json} (h : Json.OperandAlike key j j') :
    Result.Both (Option.Rel Operator.Alike) (operator? field key j) (operator? field key j') := by
  unfold Json.OperandAlike at h
  unfold operator?
  cases hc : Comparison.ofKey? key with
  | some c =>
    -- a comparison takes a scalar, under a key that is not special
    obtain ⟨hin, hlike⟩ := key_ofKey? hc
    rw [if_neg hin, if_neg hlike] at h
    exact (scalar_alike h).map fun v w _ => .some (.compare c v w)
  | none =>
    by_cases hin : key = "$in"
    · simp only [if_pos hin] at h ⊢
      split <;> split
      · exact (scalars_alike (Option.some.inj h)).map fun vs ws hl => .some (.inList hl)
      · next hj' => rw [elements?_eq_none hj'] at h; cases h
      · next hj _ _ => rw [elements?_eq_none hj] at h; cases h
      · exact .error _
    · by_cases hlike : key = "$like"
      · simp only [if_neg hin, if_pos hlike] at h ⊢
        split <;> split
        · exact .ok (.some (.like _ _))
        · next hj' => rw [isString_eq_false hj'] at h; cases h
        · next hj _ _ => rw [isString_eq_false hj] at h; cases h
        · exact .error _
      -- an unknown operator gives no condition, whatever its operand
      · simp only [if_neg hin, if_neg hlike]
        exact .ok .none

theorem ofOperators_alike {policy : Policy} {field : String} {ms ms' : List (String × Json)}
    (h : Forall₂ (fun e e' => e.1 = e'.1 ∧ Json.OperandAlike e.1 e.2 e'.2) ms ms') :
    Noted.Both (Option.Rel Condition.Alike) (ofOperators policy field ms) (ofOperators policy field ms') := by
  cases h with
  | nil => exact .pure .none
  | @cons e e' ms ms' he hms =>
    obtain ⟨key, operand⟩ := e
    obtain ⟨key', operand'⟩ := e'
    obtain ⟨rfl, ho⟩ := he
    -- only the keys of the others are reported
    have hkeys : ms.map (·.1) = ms'.map (·.1) := by
      induction hms with
      | nil => rfl
      | cons he _ ih => rw [List.map_cons, List.map_cons, he.1, ih]
    simp only [ofOperators, hkeys]
    refine (Noted.Both.same _).bind fun _ _ _ => ?_
    refine Noted.Both.bind ⟨rfl, operator?_alike ho⟩ fun op op' hop => ?_
    cases hop with
    | some hop => exact .pure (.some (.operator hop))
    | none => exact (Noted.Both.same _).bind fun _ _ _ => .pure .none

theorem ofMember_scalar {policy : Policy} {field : String} {j : Json} {v : Value}
    (h : Value.ofJson? j = some v) : ofMember policy field j = pure (some (.literal v)) := by
  cases j with
  | array items => cases h
  | object ms => cases h
  | _ =>
    change pure (some (Condition.literal ((Value.ofJson? _).getD .null))) = _
    rw [h, Option.getD_some]

theorem ofMember_alike {policy : Policy} {field : String} {j j' : Json} (h : j.MemberAlike j') :
    Noted.Both (Option.Rel Condition.Alike) (ofMember policy field j) (ofMember policy field j') := by
  cases h with
  | scalar hj hj' hf =>
    rw [ofMember_scalar hj, ofMember_scalar hj']
    exact .pure (.some (.literal hf))
  | array items items' => exact (Noted.Both.same _).bind fun _ _ _ => .pure .none
  | object h => exact ofOperators_alike h

theorem add_alike {f g : Filter} (h : f.Alike g) (field : String) {c d : Condition} (hc : c.Alike d) :
    (f.add field c).Alike (g.add field d) := by
  unfold add
  split
  · exact h
  · exact List.rel_append h (.cons ⟨rfl, hc⟩ .nil)

theorem addMembers_alike {policy : Policy} {ms ms' : List (String × Json)}
    (h : Forall₂ (Named Json.MemberAlike) ms ms') :
    ∀ {f g : Filter}, f.Alike g →
      Noted.Both Filter.Alike (addMembers policy f ms) (addMembers policy g ms') := by
  induction h with
  | nil => exact fun hfg => .pure hfg
  | @cons e e' ms ms' he _ ih =>
    intro f g hfg
    obtain ⟨field, j⟩ := e
    obtain ⟨field', j'⟩ := e'
    obtain ⟨rfl, hj⟩ := he
    unfold addMembers
    -- a member without a name is left out on both sides
    split
    · exact ih hfg
    · refine (ofMember_alike hj).bind fun c d hcd => ?_
      cases hcd with
      | some hcd => exact ih (add_alike hfg field hcd)
      | none => exact ih hfg

theorem ofJson_eq_fault {policy : Policy} {j : Json} (h : j.kind ≠ (Json.object []).kind) :
    ofJson policy j = .fault (.filterNotObject j.kind) := by
  cases j with
  | object ms => exact absurd rfl h
  | _ => rfl

/-- **Documents of the same shape give alike filters**, or are refused alike. -/
theorem ofJson_alike {policy : Policy} {j j' : Json} (h : j.Alike j') :
    Noted.Both Filter.Alike (ofJson policy j) (ofJson policy j') := by
  cases h with
  | object h => exact addMembers_alike h (.refl empty)
  | other hk hj =>
    rw [ofJson_eq_fault hj, ofJson_eq_fault (hk ▸ hj), hk]
    exact ⟨rfl, .error _⟩

end Filter

/-! ## Calls -/

/-- The same call, or one with alike filters, documents or conditions, or with the same columns. -/
inductive Call.Alike : Call → Call → Prop
  | same (call : Call) : Alike call call
  | restrict (connective : Connective) {f g : Filter} (h : f.Alike g) :
    Alike (.restrict connective f) (.restrict connective g)
  | restrictJson (connective : Connective) {j j' : Json} (h : j.Alike j') :
    Alike (.restrictJson connective j) (.restrictJson connective j')
  | predicate (connective : Connective) {p q : Predicate} (h : p.Alike q) :
    Alike (.predicate connective p) (.predicate connective q)
  | setFields {r s : Record} (h : r.columns = s.columns) : Alike (.setFields r) (.setFields s)

end CriteriaSql
