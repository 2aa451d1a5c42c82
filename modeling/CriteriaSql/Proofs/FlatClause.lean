import CriteriaSql.Proofs.Filter

/-!
# The meaning of a flat clause

A WHERE clause is written without brackets, so that the precedence of SQL decides what it means: AND
binds tighter than OR. Read that way, under truth values with an unknown between false and true, a
compiled clause says that all AND conditions hold together or that some OR condition holds, in whatever
order the conditions were added.

* `Truth`, `Formula`: the logic of SQL conditions.
* `FlatClause.read?`, `FlatClause.formula`: a list of fragments, read with precedence.
* `Criteria.addAll_eq`: the conditions that a series of additions leaves behind.
* `flat_clause_meaning`: the meaning of compiled criteria.
-/

namespace CriteriaSql

/-! ## Truth values -/

/-- The truth values of SQL. -/
inductive Truth where
  | no
  | unknown
  | yes
  deriving DecidableEq, Repr

namespace Truth

/-- The less true of two. -/
def and : Truth → Truth → Truth
  | no, _ | _, no => no
  | yes, t => t
  | t, yes => t
  | unknown, unknown => unknown

/-- The more true of two. -/
def or : Truth → Truth → Truth
  | yes, _ | _, yes => yes
  | no, t => t
  | t, no => t
  | unknown, unknown => unknown

/-- Several conditions under AND. -/
def all (ts : List Truth) : Truth := ts.foldr and yes

/-- Several conditions under OR. -/
def any (ts : List Truth) : Truth := ts.foldr or no

theorem and_assoc (s t u : Truth) : (s.and t).and u = s.and (t.and u) := by
  cases s <;> cases t <;> cases u <;> rfl

theorem or_assoc (s t u : Truth) : (s.or t).or u = s.or (t.or u) := by
  cases s <;> cases t <;> cases u <;> rfl

@[simp] theorem and_yes (t : Truth) : t.and yes = t := by cases t <;> rfl

@[simp] theorem or_no (t : Truth) : t.or no = t := by cases t <;> rfl

@[simp] theorem all_nil : all [] = yes := rfl

@[simp] theorem all_cons (t : Truth) (ts : List Truth) : all (t :: ts) = t.and (all ts) := rfl

@[simp] theorem any_nil : any [] = no := rfl

@[simp] theorem any_cons (t : Truth) (ts : List Truth) : any (t :: ts) = t.or (any ts) := rfl

end Truth

/-! ## Reading with precedence -/

/-- Conditions under AND and OR. -/
inductive Formula (α : Type) where
  | condition (a : α)
  | and (f g : Formula α)
  | or (f g : Formula α)
  deriving DecidableEq, Repr

namespace Formula

variable {α : Type} (v : α → Truth)

/-- The truth of a formula, from that of its conditions. -/
def truth : Formula α → Truth
  | condition a => v a
  | and f g => (f.truth).and (g.truth)
  | or f g => (f.truth).or (g.truth)

/-- A product after the sum that stands before it, if any. -/
def close (sum : Option (Formula α)) (product : Formula α) : Formula α :=
  match sum with
  | none => product
  | some f => .or f product

/-- Reads on behind `sum OR product`: AND puts the next condition into the product, OR closes the
product and begins the next one. -/
def read (sum : Option (Formula α)) (product : Formula α) : List (Connective × α) → Formula α
  | [] => close sum product
  | (.and, a) :: rest => read sum (.and product (.condition a)) rest
  | (.or, a) :: rest => read (some (close sum product)) (.condition a) rest

/-- Conditions under OR only. -/
theorem truth_read_or (bs : List α) :
    ∀ (sum : Option (Formula α)) (product : Formula α),
      (read sum product (bs.map (Connective.or, ·))).truth v =
        ((close sum product).truth v).or (Truth.any (bs.map v)) := by
  induction bs with
  | nil => intro sum product; simp [read]
  | cons b bs ih =>
    intro sum product
    -- the product is closed, and the condition after it is a product of its own
    have hb : (close (some (close sum product)) (condition b)).truth v =
        ((close sum product).truth v).or (v b) := rfl
    simp only [List.map_cons, read]
    rw [ih, hb, Truth.or_assoc, Truth.any_cons]

/-- **AND first**: conditions under AND go into the product, conditions under OR follow it. -/
theorem truth_read (as bs : List α) (product : Formula α) :
    (read none product (as.map (Connective.and, ·) ++ bs.map (Connective.or, ·))).truth v =
      ((product.truth v).and (Truth.all (as.map v))).or (Truth.any (bs.map v)) := by
  induction as generalizing product with
  | nil => simp [truth_read_or, close]
  | cons a as ih =>
    have ha : (product.and (condition a)).truth v = (product.truth v).and (v a) := rfl
    simp only [List.map_cons, List.cons_append, read]
    rw [ih, ha, Truth.and_assoc, Truth.all_cons]

end Formula

/-- A clause from left to right: a first condition, and others with a connective before each. -/
structure FlatClause where
  first : String
  rest : List (Connective × String)
  deriving DecidableEq, Repr

namespace FlatClause

/-- The connective that a keyword stands for. -/
def connective? (word : String) : Option Connective :=
  if word = "AND" then some .and else if word = "OR" then some .or else none

/-- Reads connectives and conditions in turn. -/
def readRest? : List String → Option (List (Connective × String))
  | [] => some []
  | [_] => none
  | word :: text :: rest => do
    let connective ← connective? word
    let conditions ← readRest? rest
    return (connective, text) :: conditions

/-- Reads a clause off its fragments: the keyword, then conditions with connectives between them. -/
def read? : List String → Option FlatClause
  | "WHERE" :: first :: rest => (readRest? rest).map fun conditions => ⟨first, conditions⟩
  | _ => none

/-- The texts of the conditions, from left to right. -/
def texts (c : FlatClause) : List String := c.first :: c.rest.map (·.2)

/-- What a clause says by the precedence of SQL. Its conditions are numbered from left to right. -/
def formula (c : FlatClause) : Formula Nat :=
  Formula.read none (.condition 0) ((c.rest.map (·.1)).zip (List.range' 1 c.rest.length))

/-- The numbers of conditions under AND that come first, and of those under OR behind them. -/
theorem zip_connectives (a b : Nat) :
    (List.replicate a Connective.and ++ List.replicate b Connective.or).zip (List.range' 1 (a + b)) =
      (List.range' 1 a).map (Connective.and, ·) ++ (List.range' (1 + a) b).map (Connective.or, ·) := by
  have hzip (c : Connective) (n : Nat) :
      ∀ first, (List.replicate n c).zip (List.range' first n) = (List.range' first n).map (c, ·) := by
    induction n with
    | zero => intro first; rfl
    | succ n ih => intro first; simp [List.replicate_succ, List.range'_succ, ih]
  rw [← List.range'_append_1, List.zip_append (by simp), hzip, hzip]

end FlatClause

/-! ## Additions -/

/-- One addition to criteria. A refused filter adds nothing. -/
inductive Addition where
  | push (connective : Connective) (p : Predicate)
  | filter (connective : Connective) (f : Filter)

/-- The conditions that an addition brings under a connective. -/
def Addition.brings (connective : Connective) : Addition → List Predicate
  | .push c p => if c = connective then [p] else []
  | .filter c f => if c = connective then f.added else []

namespace Criteria

/-- Carries out an addition; criteria that refuse a filter stay as they are. -/
def add (c : Criteria) : Addition → Criteria
  | .push connective p => c.push connective p
  | .filter connective f =>
    match c.addFilter connective f with
    | .ok d => d
    | .error _ => c

/-- Carries out additions one after another. -/
def addAll (c : Criteria) (additions : List Addition) : Criteria := additions.foldl add c

/-- An addition extends the two sequences. -/
theorem add_eq (c : Criteria) (a : Addition) :
    c.add a = ⟨c.conjuncts ++ a.brings .and, c.disjuncts ++ a.brings .or⟩ := by
  cases a with
  | push connective p => cases connective <;> simp [add, push, Addition.brings]
  | filter connective f =>
    by_cases h : f.HasEmptyList
    · obtain ⟨field, hf⟩ := addFilter_refused connective c h
      simp [add, hf, Addition.brings, Filter.added, h]
    · have hf := addFilter_eq connective c h
      cases connective
      · simp [add, hf, Addition.brings, Filter.added, h, pushAll_and]
      · simp [add, hf, Addition.brings, Filter.added, h, pushAll_or]

/-- **What a series of additions leaves behind**, in the order of the additions. -/
theorem addAll_eq (additions : List Addition) (c : Criteria) :
    c.addAll additions =
      ⟨c.conjuncts ++ additions.flatMap (·.brings .and),
        c.disjuncts ++ additions.flatMap (·.brings .or)⟩ := by
  unfold addAll
  induction additions generalizing c with
  | nil => simp
  | cons a additions ih => rw [List.foldl_cons, ih, add_eq]; simp

end Criteria

/-! ## Compiled clauses -/

namespace Criteria

/-- The texts of conditions, with the numbers of their placeholders going on from one to the next. -/
def textsAfter (k : Nat) : List Predicate → List String
  | [] => []
  | p :: ps => p.sql k :: textsAfter (k + p.operands.length) ps

theorem length_textsAfter (ps : List Predicate) : ∀ k, (textsAfter k ps).length = ps.length := by
  induction ps with
  | nil => intro k; rfl
  | cons p ps ih => intro k; rw [textsAfter, List.length_cons, ih, List.length_cons]

theorem readRest?_following (ps : List (Connective × Predicate)) :
    ∀ k, FlatClause.readRest? (following k ps) =
      some ((ps.map (·.1)).zip (textsAfter k (ps.map (·.2)))) := by
  induction ps with
  | nil => intro k; rfl
  | cons p ps ih =>
    intro k
    obtain ⟨connective, p⟩ := p
    have hc : FlatClause.connective? connective.sql = some connective := by cases connective <;> decide
    simp [following, FlatClause.readRest?, hc, ih, textsAfter]

/-- A compiled clause is read back: its conditions in writing order, with their connectives. -/
theorem read?_clause (k : Nat) (p : Connective × Predicate) (ps : List (Connective × Predicate)) :
    FlatClause.read? (clause k (p :: ps)) =
      some ⟨p.2.sql k, (ps.map (·.1)).zip (textsAfter (k + p.2.operands.length) (ps.map (·.2)))⟩ := by
  simp [clause, FlatClause.read?, readRest?_following]

theorem connectives_toList (c : Criteria) :
    c.toList.map (·.1) =
      List.replicate c.conjuncts.length .and ++ List.replicate c.disjuncts.length .or := by
  simp [toList, Function.comp_def, List.map_const']

theorem predicates_toList (c : Criteria) : c.toList.map (·.2) = c.conjuncts ++ c.disjuncts := by
  simp [toList, Function.comp_def]

end Criteria

/-- What criteria mean: all conjuncts together or one of the disjuncts; without conjuncts, one of the
disjuncts. -/
def Truth.grouped (conjuncts disjuncts : List Truth) : Truth :=
  match conjuncts with
  | [] => any disjuncts
  | conjuncts => (all conjuncts).or (any disjuncts)

namespace FlatClause

variable {c : FlatClause}

/-- A first condition, `a` more under AND, and `b` under OR. -/
theorem truth_formula {a b : Nat}
    (h : c.rest.map (·.1) = List.replicate a .and ++ List.replicate b .or) (v : Nat → Truth) :
    c.formula.truth v =
      ((v 0).and (Truth.all ((List.range' 1 a).map v))).or (Truth.any ((List.range' (1 + a) b).map v)) := by
  have hlen : c.rest.length = a + b := by
    have := congrArg List.length h
    simpa using this
  rw [formula, h, hlen, zip_connectives, Formula.truth_read]
  rfl

/-- **The meaning of conjuncts that stand before disjuncts**: the first condition has no connective, and
so it does not matter which it was. -/
theorem truth_grouped {n m : Nat} (hpos : 0 < n + m)
    (h : c.rest.map (·.1) = (List.replicate n Connective.and ++ List.replicate m Connective.or).tail)
    (v : Nat → Truth) :
    c.formula.truth v = Truth.grouped ((List.range n).map v) ((List.range' n m).map v) := by
  cases n with
  | succ a =>
    have h' : c.rest.map (·.1) = List.replicate a .and ++ List.replicate m .or := h
    rw [truth_formula h', List.range_eq_range', List.range'_succ, Nat.add_comm 1 a]
    rfl
  | zero =>
    -- no conjunct: the first condition is a disjunct, and a group by itself
    obtain ⟨b, rfl⟩ : ∃ b, m = b + 1 := ⟨m - 1, by omega⟩
    have h' : c.rest.map (·.1) = List.replicate 0 .and ++ List.replicate b .or := h
    rw [truth_formula h', List.range'_succ]
    simp [Truth.grouped]

end FlatClause

/-- **A compiled clause is read back**: its conditions in writing order, and the connectives of all but
the first. -/
theorem Criteria.read?_compile (c : Criteria) (k : Nat) (hne : c.conjuncts ++ c.disjuncts ≠ []) :
    ∃ clause, FlatClause.read? (c.compile k).fragments = some clause ∧
      clause.texts = textsAfter k (c.conjuncts ++ c.disjuncts) ∧
      clause.rest.map (·.1) = (c.toList.map (·.1)).tail := by
  have hps := c.predicates_toList
  unfold compile
  cases hl : c.toList with
  | nil => rw [hl] at hps; exact absurd hps.symm hne
  | cons p ps =>
    rw [hl, List.map_cons] at hps
    refine ⟨_, read?_clause k p ps, ?_, ?_⟩
    · rw [← hps, textsAfter, FlatClause.texts, List.map_snd_zip (by simp [length_textsAfter])]
    · exact List.map_fst_zip (by simp [length_textsAfter])

/-! ## The main result -/

/-- **The meaning of a flat clause.** Whatever was added in whatever order, the compiled clause holds the
conditions one after another, the conjuncts before the disjuncts, and means that all conjuncts hold
together or some disjunct does. So only the order within each sequence counts. -/
theorem flat_clause_meaning :
    (∀ (additions : List Addition) (k : Nat),
      let conjuncts := additions.flatMap (·.brings .and)
      let disjuncts := additions.flatMap (·.brings .or)
      let n := conjuncts.length
      let m := disjuncts.length
      let fragments := ((Criteria.empty.addAll additions).compile k).fragments
      (conjuncts ++ disjuncts = [] → fragments = []) ∧
      (conjuncts ++ disjuncts ≠ [] →
        ∃ clause, FlatClause.read? fragments = some clause ∧
          clause.texts = Criteria.textsAfter k (conjuncts ++ disjuncts) ∧
          clause.rest.map (·.1) = (List.replicate n Connective.and ++ List.replicate m Connective.or).tail ∧
          ∀ v : Nat → Truth, clause.formula.truth v =
            Truth.grouped ((List.range n).map v) ((List.range' n m).map v))) ∧
    ∀ (as bs : List Addition) (k : Nat),
      (∀ connective, as.flatMap (·.brings connective) = bs.flatMap (·.brings connective)) →
        (Criteria.empty.addAll as).compile k = (Criteria.empty.addAll bs).compile k := by
  refine ⟨fun additions k => ⟨fun hnil => ?_, fun hne => ?_⟩, fun as bs k h => ?_⟩
  · obtain ⟨hc, hd⟩ := List.append_eq_nil_iff.1 hnil
    rw [Criteria.addAll_eq, hc, hd]
    rfl
  · rw [Criteria.addAll_eq]
    generalize additions.flatMap (·.brings .and) = as, additions.flatMap (·.brings .or) = bs at hne ⊢
    obtain ⟨clause, hread, htexts, hrest⟩ := Criteria.read?_compile ⟨as, bs⟩ k hne
    have hpos : 0 < as.length + bs.length := by
      rw [← List.length_append]
      exact List.length_pos_iff.2 hne
    rw [Criteria.connectives_toList] at hrest
    exact ⟨clause, hread, htexts, hrest, FlatClause.truth_grouped hpos hrest⟩
  · rw [Criteria.addAll_eq, Criteria.addAll_eq, h, h]

/-- An OR condition is added first and a refused filter in between: the clause after three bound values holds
though no conjunct does, and is the same if the OR condition comes last. -/
theorem flat_clause_meaning_mixed :
    let age := Filter.empty.operator "age" (.inList [.int 7, .int 8])
    let names := (Filter.empty.literal "name" (.text "")).operator "name" (.like "%a%")
    let additions : List Addition :=
      [.filter .or age, .push .and (.raw "a.x = b.x"), .filter .and (age.operator "x" (.inList [])),
        .filter .and names]
    let moved : List Addition := [.push .and (.raw "a.x = b.x"), .filter .and names, .filter .or age]
    let fragments := ((Criteria.empty.addAll additions).compile 3).fragments
    fragments = ["WHERE", "a.x = b.x", "AND", "LOWER(name) LIKE LOWER($4)", "OR", "age IN ($5,$6)"] ∧
      (∃ clause, FlatClause.read? fragments = some clause ∧
        clause.formula.truth (fun i => if i = 0 then .unknown else if i = 1 then .no else .yes) = .yes) ∧
      (Criteria.empty.addAll additions).compile 3 = (Criteria.empty.addAll moved).compile 3 := by
  intro age names additions moved fragments
  obtain ⟨hmeaning, hinterleaved⟩ := flat_clause_meaning
  obtain ⟨clause, hread, -, -, htruth⟩ := (hmeaning additions 3).2 (by decide)
  have hsame : ∀ connective,
      additions.flatMap (·.brings connective) = moved.flatMap (·.brings connective) := by
    intro connective
    cases connective <;> decide
  refine ⟨by decide, ⟨clause, hread, ?_⟩, hinterleaved additions moved 3 hsame⟩
  rw [htruth]
  decide

end CriteriaSql
