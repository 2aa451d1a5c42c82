import CriteriaSql.Proofs.FlatClause
import CriteriaSql.Proofs.Numbering

/-!
# Criteria are recovered from their clause

The text of a condition begins with three words: its subject, its operator and its placeholders. They
tell the field, the operator and how many values belong to it, so that a clause and its values can be
taken apart again, condition by condition. All that is lost is the connective of the first one.

* `Predicate.sql_words`: the words of a condition.
* `Predicate.sql_inj`: a condition is known from its text and its values.
* `Criteria.textsAfter_inj`: so are all conditions of a clause.
* `criteria_recovered`: criteria that compile alike.
-/

namespace CriteriaSql

/-! ## Words -/

/-- A text before its first space. -/
theorem word_inj {a b r s : String} (ha : ' ' ∉ a.toList) (hb : ' ' ∉ b.toList)
    (h : a ++ " " ++ r = b ++ " " ++ s) : a = b ∧ r = s := by
  have hlist (xs ys : List Char) (rs ss : List Char) (hx : ' ' ∉ xs) (hy : ' ' ∉ ys)
      (he : xs ++ ' ' :: rs = ys ++ ' ' :: ss) : xs = ys ∧ rs = ss := by
    induction xs generalizing ys with
    | nil =>
      cases ys with
      | nil => exact ⟨rfl, (List.cons.inj he).2⟩
      | cons y ys => exact absurd (List.mem_cons.2 (.inl (List.cons.inj he).1)) hy
    | cons x xs ih =>
      cases ys with
      | nil => exact absurd (List.mem_cons.2 (.inl (List.cons.inj he).1.symm)) hx
      | cons y ys =>
        obtain ⟨rfl, htail⟩ := List.cons.inj he
        obtain ⟨rfl, hr⟩ := ih ys (fun hm => hx (List.mem_cons_of_mem x hm))
          (fun hm => hy (List.mem_cons_of_mem x hm)) htail
        exact ⟨rfl, hr⟩
  have he := congrArg String.toList h
  simp only [String.toList_append] at he
  have hspace : " ".toList = [' '] := by decide
  rw [hspace, List.append_assoc, List.append_assoc, List.singleton_append, List.singleton_append] at he
  obtain ⟨hab, hrs⟩ := hlist _ _ _ _ ha hb he
  exact ⟨String.toList_inj.1 hab, String.toList_inj.1 hrs⟩

/-! ## Placeholders -/

theorem count_placeholder (n : Nat) : (placeholder n).toList.count '$' = 1 := by
  have hdigits : (toString n).toList.count '$' = 0 := List.count_eq_zero.2 (plain_toString n)
  have hdollar : "$".toList.count '$' = 1 := by decide
  rw [placeholder, String.toList_append, List.count_append, hdollar, hdigits]

/-- A list of placeholders shows how many they are. -/
theorem count_placeholders (n : Nat) :
    ∀ first, (",".intercalate ((List.range' first n).map placeholder)).toList.count '$' = n := by
  induction n with
  | zero => intro first; rfl
  | succ n ih =>
    intro first
    rw [List.range'_succ, List.map_cons]
    cases n with
    | zero => rw [List.range'_zero, List.map_nil, String.intercalate_singleton, count_placeholder]
    | succ n =>
      have hcomma : ",".toList.count '$' = 0 := by decide
      have hrest := ih (first + 1)
      rw [List.range'_succ, List.map_cons] at hrest ⊢
      rw [String.intercalate_cons_cons, String.toList_append, String.toList_append, List.count_append,
        List.count_append, hcomma, count_placeholder, hrest]
      omega

/-! ## Conditions -/

namespace Operator

/-- Operators of one kind: the same comparison, two lists or two patterns. -/
def SameKind : Operator → Operator → Prop
  | .compare c _, .compare d _ => c = d
  | .inList _, .inList _ => True
  | .like _, .like _ => True
  | _, _ => False

/-- The token in SQL tells the kind of an operator. -/
theorem sameKind_of_sql {p q : Operator} (h : p.sql = q.sql) : p.SameKind q := by
  have hcompare : ∀ c d : Comparison, c.sql = d.sql → c = d := by
    intro c d
    cases c <;> cases d <;> decide
  have hin : ∀ c : Comparison, c.sql ≠ "IN" := by
    intro c
    cases c <;> decide
  have hlike : ∀ c : Comparison, c.sql ≠ "LIKE" := by
    intro c
    cases c <;> decide
  have hinlike : "IN" ≠ "LIKE" := by decide
  cases p with
  | compare c v =>
    cases q with
    | compare d w => exact hcompare c d h
    | inList ws => exact absurd h (hin c)
    | like b => exact absurd h (hlike c)
  | inList vs =>
    cases q with
    | compare d w => exact absurd h.symm (hin d)
    | inList ws => trivial
    | like b => exact absurd h hinlike
  | like a =>
    cases q with
    | compare d w => exact absurd h.symm (hlike d)
    | inList ws => exact absurd h.symm hinlike
    | like b => trivial

theorem sql_spaceless (op : Operator) : ' ' ∉ op.sql.toList := by
  have hcompare : ∀ c : Comparison, ' ' ∉ c.sql.toList := by
    intro c
    cases c <;> decide
  have hin : ' ' ∉ "IN".toList := by decide
  have hlike : ' ' ∉ "LIKE".toList := by decide
  cases op with
  | compare c v => exact hcompare c
  | inList vs => exact hin
  | like a => exact hlike

/-- What an operator compares: a field, or its text in lower case. -/
def subject (name : String) : Operator → String
  | .like _ => "LOWER(" ++ name ++ ")"
  | _ => name

/-- What it is compared with: a placeholder, a list of them, or one in lower case. -/
def object (k : Nat) : Operator → String
  | .compare _ _ => placeholder (k + 1)
  | .inList vs => "(" ++ ",".intercalate ((List.range' (k + 1) vs.length).map placeholder) ++ ")"
  | .like _ => "LOWER(" ++ placeholder (k + 1) ++ ")"

/-- Operators of one kind with the same object bind equally many values. -/
theorem operands_length_of_object {p q : Operator} (hkind : p.SameKind q) {k : Nat}
    (h : p.object k = q.object k) : p.operands.length = q.operands.length := by
  cases p with
  | compare c v =>
    cases q with
    | compare d w => rfl
    | _ => exact hkind.elim
  | like a =>
    cases q with
    | like b => rfl
    | _ => exact hkind.elim
  | inList vs =>
    cases q with
    | inList ws =>
      -- the brackets hold the placeholders only, which can be counted
      have hinner := (String.append_right_inj "(").1 ((String.append_left_inj ")").1 h)
      have hcount := congrArg (fun t : String => t.toList.count '$') hinner
      simp only [count_placeholders] at hcount
      exact hcount
    | _ => exact hkind.elim

/-- An operator is known from its kind and its values. -/
theorem eq_of_operands {p q : Operator} (hkind : p.SameKind q) (h : p.operands = q.operands) : p = q := by
  cases p with
  | compare c v =>
    cases q with
    | compare d w =>
      have hc : c = d := hkind
      rw [hc, (List.cons.inj h).1]
    | _ => exact hkind.elim
  | inList vs =>
    cases q with
    | inList ws => exact congrArg Operator.inList h
    | _ => exact hkind.elim
  | like a =>
    cases q with
    | like b =>
      have htext : Value.text a = .text b := (List.cons.inj h).1
      rw [Value.text.inj htext]
    | _ => exact hkind.elim

end Operator

namespace Predicate

/-- A field whose name has no space in it, as no name of letters, digits, points and underscores has. -/
def IsNamed : Predicate → Prop
  | .field name _ => ' ' ∉ name.toList
  | .raw _ => False

instance : DecidablePred IsNamed
  | .field name _ => inferInstanceAs (Decidable (' ' ∉ name.toList))
  | .raw _ => inferInstanceAs (Decidable False)

/-- **The words of a condition**: subject, operator, object. -/
theorem sql_words (name : String) (op : Operator) (k : Nat) :
    (field name op).sql k = op.subject name ++ " " ++ (op.sql ++ " " ++ op.object k) := by
  cases op with
  | compare c v => simp only [sql, Operator.subject, Operator.sql, Operator.object, String.append_assoc]
  | inList vs =>
    have hin : " IN (" = " " ++ ("IN" ++ (" " ++ "(")) := by decide
    simp only [sql, Operator.subject, Operator.sql, Operator.object, hin, String.append_assoc]
  | like a =>
    have hlike : ") LIKE LOWER(" = ")" ++ (" " ++ ("LIKE" ++ (" " ++ "LOWER("))) := by decide
    simp only [sql, Operator.subject, Operator.sql, Operator.object, hlike, String.append_assoc]

theorem subject_spaceless {name : String} (h : ' ' ∉ name.toList) (op : Operator) :
    ' ' ∉ (op.subject name).toList := by
  cases op with
  | compare c v => exact h
  | inList vs => exact h
  | like a =>
    have hopen : ' ' ∉ "LOWER(".toList := by decide
    have hclose : ' ' ∉ ")".toList := by decide
    simp only [Operator.subject, String.toList_append, List.mem_append, not_or]
    exact ⟨⟨hopen, h⟩, hclose⟩

/-- Subjects under operators of one kind name the same field. -/
theorem subject_inj {p q : Operator} (hkind : p.SameKind q) {name name' : String}
    (h : p.subject name = q.subject name') : name = name' := by
  cases p <;> cases q
  case like.like => exact (String.append_right_inj "LOWER(").1 ((String.append_left_inj ")").1 h)
  case compare.compare | inList.inList => exact h
  all_goals exact hkind.elim

/-- **A condition is known from its text and its values**, though the values of others follow. -/
theorem sql_inj {p q : Predicate} (hp : p.IsNamed) (hq : q.IsNamed) {k : Nat} (h : p.sql k = q.sql k)
    {vs ws : List Value} (hv : p.operands ++ vs = q.operands ++ ws) : p = q ∧ vs = ws := by
  cases p with
  | raw sql => exact hp.elim
  | field name op =>
    cases q with
    | raw sql => exact hq.elim
    | field name' op' =>
      rw [sql_words, sql_words] at h
      obtain ⟨hsubject, hrest⟩ := word_inj (subject_spaceless hp op) (subject_spaceless hq op') h
      obtain ⟨hsql, hobject⟩ := word_inj op.sql_spaceless op'.sql_spaceless hrest
      have hkind := Operator.sameKind_of_sql hsql
      have hname := subject_inj hkind hsubject
      -- equally many values belong to both, so the values are cut at the same place
      have hlength := Operator.operands_length_of_object hkind hobject
      obtain ⟨hoperands, hvs⟩ := List.append_inj hv hlength
      rw [hname, Operator.eq_of_operands hkind hoperands]
      exact ⟨rfl, hvs⟩

end Predicate

/-! ## Criteria -/

namespace Criteria

/-- Criteria without raw conditions and without spaces in names. -/
def IsNamed (c : Criteria) : Prop := ∀ p ∈ c.conjuncts ++ c.disjuncts, p.IsNamed

instance (c : Criteria) : Decidable c.IsNamed :=
  inferInstanceAs (Decidable (∀ p ∈ c.conjuncts ++ c.disjuncts, p.IsNamed))

/-- **Conditions are known from their texts and values.** -/
theorem textsAfter_inj {ps qs : List Predicate} (hp : ∀ p ∈ ps, p.IsNamed) (hq : ∀ q ∈ qs, q.IsNamed)
    {k : Nat} (h : textsAfter k ps = textsAfter k qs)
    (hv : ps.flatMap (·.operands) = qs.flatMap (·.operands)) : ps = qs := by
  induction ps generalizing qs k with
  | nil =>
    cases qs with
    | nil => rfl
    | cons q qs => cases h
  | cons p ps ih =>
    cases qs with
    | nil => cases h
    | cons q qs =>
      obtain ⟨htext, hrest⟩ := List.cons.inj h
      rw [List.flatMap_cons, List.flatMap_cons] at hv
      obtain ⟨rfl, hvs⟩ := Predicate.sql_inj (hp p List.mem_cons_self) (hq q List.mem_cons_self) htext hv
      rw [ih (fun p' hp' => hp p' (List.mem_cons_of_mem p hp'))
        (fun q' hq' => hq q' (List.mem_cons_of_mem p hq')) hrest hvs]

theorem values_compile (c : Criteria) (k : Nat) :
    (c.compile k).values = (c.conjuncts ++ c.disjuncts).flatMap (·.operands) := by
  rw [← predicates_toList, List.flatMap_map]
  rfl

theorem compile_nil {c : Criteria} (h : c.conjuncts ++ c.disjuncts = []) (k : Nat) :
    (c.compile k).fragments = [] := by
  obtain ⟨hc, hd⟩ := List.append_eq_nil_iff.1 h
  rw [compile, toList, hc, hd]
  rfl

theorem compile_ne_nil {c : Criteria} (h : c.conjuncts ++ c.disjuncts ≠ []) (k : Nat) :
    (c.compile k).fragments ≠ [] := by
  obtain ⟨clause, hread, -⟩ := c.read?_compile k h
  intro hnil
  rw [hnil] at hread
  cases hread

variable {c d : Criteria}

/-- **What a clause and its values tell**: all conditions, and the connectives of all but the first. -/
theorem predicates_eq_of_compile (hc : c.IsNamed) (hd : d.IsNamed) {k : Nat} (h : c.compile k = d.compile k) :
    c.conjuncts ++ c.disjuncts = d.conjuncts ++ d.disjuncts ∧
      (c.toList.map (·.1)).tail = (d.toList.map (·.1)).tail := by
  have hfragments := congrArg CompiledCriteria.fragments h
  have hvalues := congrArg CompiledCriteria.values h
  rw [values_compile, values_compile] at hvalues
  by_cases hnil : c.conjuncts ++ c.disjuncts = []
  · have hnil' : d.conjuncts ++ d.disjuncts = [] := by
      refine Classical.byContradiction fun hne => ?_
      exact compile_ne_nil hne k (hfragments.symm.trans (compile_nil hnil k))
    have hlist (e : Criteria) (he : e.conjuncts ++ e.disjuncts = []) : e.toList = [] :=
      List.map_eq_nil_iff.1 (e.predicates_toList.trans he)
    rw [hnil, hnil', hlist c hnil, hlist d hnil']
    exact ⟨rfl, rfl⟩
  · have hne : d.conjuncts ++ d.disjuncts ≠ [] := by
      intro hnil'
      exact compile_ne_nil hnil k (hfragments.trans (compile_nil hnil' k))
    -- the two clauses are one, and it is read back in one way
    obtain ⟨clause, hread, htexts, hrest⟩ := c.read?_compile k hnil
    obtain ⟨clause', hread', htexts', hrest'⟩ := d.read?_compile k hne
    rw [hfragments, hread'] at hread
    obtain rfl := Option.some.inj hread
    exact ⟨textsAfter_inj hc hd (htexts.symm.trans htexts') hvalues, hrest.symm.trans hrest'⟩

/-- The connectives behind the first condition count the conjuncts, up to the first condition. -/
theorem count_connectives (n m : Nat) :
    (List.replicate n Connective.and ++ List.replicate m Connective.or).tail.count .and = n - 1 := by
  cases n with
  | succ n => simp [List.replicate_succ, List.count_replicate]
  | zero => cases m <;> simp [List.replicate_succ, List.count_replicate]

/-- The only conjunct of one is the first disjunct of the other, which has no conjuncts. -/
def Regrouped (c d : Criteria) : Prop :=
  ∃ p, c.conjuncts = [p] ∧ d.conjuncts = [] ∧ d.disjuncts = p :: c.disjuncts

theorem Regrouped.of_length (hlist : c.conjuncts ++ c.disjuncts = d.conjuncts ++ d.disjuncts)
    (hc : c.conjuncts.length = 1) (hd : d.conjuncts.length = 0) : c.Regrouped d := by
  obtain ⟨p, hp⟩ := List.length_eq_one_iff.1 hc
  have hnil := List.length_eq_zero_iff.1 hd
  rw [hp, hnil] at hlist
  exact ⟨p, hp, hnil, hlist.symm⟩

/-- The conditions and their connectives make the criteria, but for the connective of the first. -/
theorem eq_or_regrouped (hlist : c.conjuncts ++ c.disjuncts = d.conjuncts ++ d.disjuncts)
    (htail : (c.toList.map (·.1)).tail = (d.toList.map (·.1)).tail) :
    c = d ∨ c.Regrouped d ∨ d.Regrouped c := by
  have hcount := congrArg (List.count Connective.and) htail
  rw [connectives_toList, connectives_toList, count_connectives, count_connectives] at hcount
  rcases Nat.lt_trichotomy c.conjuncts.length d.conjuncts.length with hlt | heq | hlt
  · exact .inr (.inr (.of_length hlist.symm (by omega) (by omega)))
  · obtain ⟨hconj, hdisj⟩ := List.append_inj hlist heq
    obtain ⟨cs, ds⟩ := c
    obtain ⟨cs', ds'⟩ := d
    exact .inl (by rw [show cs = cs' from hconj, show ds = ds' from hdisj])
  · exact .inr (.inl (.of_length hlist (by omega) (by omega)))

theorem Regrouped.compile_eq (h : c.Regrouped d) (k : Nat) : c.compile k = d.compile k := by
  obtain ⟨cs, ds⟩ := c
  obtain ⟨cs', ds'⟩ := d
  obtain ⟨p, hc, hd, hds⟩ := h
  change cs = [p] at hc
  change cs' = [] at hd
  change ds' = p :: ds at hds
  subst hc hd hds
  rfl

end Criteria

/-- **Criteria are recovered from their clause.** Criteria compile to the same clause with the same values
exactly if they have the same conditions in the same order, with the same connectives before all but the
first; that is, if they are equal but for the group of a first condition that stands alone. -/
theorem criteria_recovered {c d : Criteria} (hc : c.IsNamed) (hd : d.IsNamed) (k : Nat) :
    (c.compile k = d.compile k →
      c.toList.map (·.2) = d.toList.map (·.2) ∧ (c.toList.map (·.1)).tail = (d.toList.map (·.1)).tail) ∧
    (c.compile k = d.compile k ↔ c = d ∨ c.Regrouped d ∨ d.Regrouped c) := by
  constructor
  · intro h
    rw [Criteria.predicates_toList, Criteria.predicates_toList]
    exact Criteria.predicates_eq_of_compile hc hd h
  · constructor
    · intro h
      obtain ⟨hlist, htail⟩ := Criteria.predicates_eq_of_compile hc hd h
      exact Criteria.eq_or_regrouped hlist htail
    · rintro (rfl | h | h)
      · rfl
      · exact h.compile_eq k
      · exact (h.compile_eq k).symm

/-- A list and a comparison joined with OR, after two bound values: it does not matter which sequence the list
is in, but it does in which order its values are. -/
theorem criteria_recovered_orders :
    let list (vs : List Value) := Predicate.field "o.age" (.inList vs)
    let total := Predicate.field "o.total" (.compare .gte (.text "7"))
    let c := Criteria.mk [list [.int 7, .int 8]] [total]
    let d := Criteria.mk [] [list [.int 7, .int 8], total]
    let e := Criteria.mk [list [.int 8, .int 7]] [total]
    (c.IsNamed ∧ d.IsNamed ∧ e.IsNamed) ∧ c ≠ d ∧ c.compile 2 = d.compile 2 ∧ c.compile 2 ≠ e.compile 2 ∧
      (c.compile 2).fragments = ["WHERE", "o.age IN ($3,$4)", "OR", "o.total >= $5"] := by
  intro list total c d e
  have hc : c.IsNamed := by decide
  have hd : d.IsNamed := by decide
  have he : e.IsNamed := by decide
  refine ⟨⟨hc, hd, he⟩, by decide, (criteria_recovered hc hd 2).2.2 (.inr (.inl ⟨_, rfl, rfl, rfl⟩)), ?_,
    by decide⟩
  intro h
  have hlists := ((criteria_recovered hc he 2).1 h).1
  revert hlists
  decide

end CriteriaSql
