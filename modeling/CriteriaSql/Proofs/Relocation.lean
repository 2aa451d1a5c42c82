import CriteriaSql.Proofs.Alike
import CriteriaSql.Proofs.Trusted

/-!
# Statements relocate

A statement that is numbered after values bound before it is the one numbered from one, with the same
number added to all its placeholders. It is built, or refused, for the same reasons wherever it stands.

* `Statement.renumbered`: a text with a number added to each of its markers.
* `Statement.Relocated`: what two such statements share.
* `Criteria.compile_add`, `Builder.assignmentTexts_add`: the parts that hold markers.
* `Builder.buildFrom_relocated`: the build of a statement at another place.
-/

namespace CriteriaSql

namespace Statement

/-! ## Renumbered text -/

/-- The digits of a marker after `k` is added to its number. The digits read so far stand in reverse; there
are none behind a dollar sign alone. -/
def digitsPlus (k : Nat) (read : List Char) : List Char :=
  match Text.natural? read.reverse with
  | some n => Text.natural (n + k)
  | none => []

/-- A text with `k` added to each marker. `pending` holds the digits since the last dollar sign, the latest
first; `none` says that no marker is open. -/
def renumberedChars (k : Nat) : Option (List Char) → List Char → List Char
  | none, [] => []
  | some read, [] => digitsPlus k read
  | none, c :: rest => c :: renumberedChars k (if c = '$' then some [] else none) rest
  | some read, c :: rest =>
    if c.isDigit then renumberedChars k (some (c :: read)) rest
    else digitsPlus k read ++ c :: renumberedChars k (if c = '$' then some [] else none) rest

/-- A text with `k` added to each marker: a dollar sign and the digits behind it. -/
def renumbered (k : Nat) (text : String) : String :=
  String.ofList (renumberedChars k none text.toList)

variable (k : Nat)

theorem renumberedChars_append {rest : List Char} (h : ∀ c ∈ rest.head?, c.isDigit = false) :
    ∀ (cs : List Char) (pending : Option (List Char)),
      renumberedChars k pending (cs ++ rest) =
        renumberedChars k pending cs ++ renumberedChars k none rest := by
  intro cs
  induction cs with
  | nil =>
    intro pending
    cases pending with
    | none => rfl
    | some read =>
      -- the open marker ends here, since the rest does not open with a digit
      cases rest with
      | nil => simp [renumberedChars]
      | cons c rest =>
        have hc : c.isDigit = false := h c rfl
        simp [renumberedChars, hc]
  | cons c cs ih =>
    intro pending
    cases pending with
    | none => simp [renumberedChars, ih]
    | some read =>
      by_cases hc : c.isDigit = true
      · simp [renumberedChars, hc, ih]
      · simp [renumberedChars, hc, ih]

theorem renumberedChars_plain_append {cs : List Char} (h : '$' ∉ cs) (rest : List Char) :
    renumberedChars k none (cs ++ rest) = cs ++ renumberedChars k none rest := by
  induction cs with
  | nil => rfl
  | cons c cs ih =>
    rw [List.mem_cons, not_or] at h
    have hc : c ≠ '$' := fun he => h.1 he.symm
    rw [List.cons_append, renumberedChars, if_neg hc, ih h.2, List.cons_append]

theorem renumberedChars_digits {ds : List Char} (h : ∀ c ∈ ds, c.isDigit = true) :
    ∀ read : List Char, renumberedChars k (some read) ds = digitsPlus k (ds.reverse ++ read) := by
  induction ds with
  | nil => intro read; rfl
  | cons d ds ih =>
    intro read
    have hd : d.isDigit = true := h d List.mem_cons_self
    rw [renumberedChars, if_pos hd, ih (fun c hc => h c (List.mem_cons_of_mem d hc)), List.reverse_cons,
      List.append_assoc, List.singleton_append]

theorem renumbered_append (a : String) {b : String} (h : EndsNumber b) :
    renumbered k (a ++ b) = renumbered k a ++ renumbered k b := by
  unfold renumbered
  rw [String.toList_append, renumberedChars_append k h, String.ofList_append]

theorem renumbered_plain_append {a : String} (h : Plain a) (b : String) :
    renumbered k (a ++ b) = a ++ renumbered k b := by
  unfold renumbered
  rw [String.toList_append, renumberedChars_plain_append k h, String.ofList_append, String.ofList_toList]

theorem renumbered_plain {a : String} (h : Plain a) : renumbered k a = a := by
  have hempty : renumbered k "" = "" := rfl
  have := renumbered_plain_append k h ""
  rwa [String.append_empty, hempty, String.append_empty] at this

/-- **A placeholder is renumbered** to the placeholder of the sum. -/
theorem renumbered_placeholder (n : Nat) : renumbered k (placeholder n) = placeholder (n + k) := by
  have hd : ∀ c ∈ Text.natural n, c.isDigit = true := fun c hc => Text.isDigit_of_mem_natural hc
  have hlist (m : Nat) : (placeholder m).toList = '$' :: Text.natural m := by
    rw [placeholder, String.toList_append, Nat.toString_eq_repr, Nat.toList_repr]
    rfl
  have hplus : digitsPlus k ((Text.natural n).reverse ++ []) = Text.natural (n + k) := by
    rw [List.append_nil, digitsPlus, List.reverse_reverse, Text.natural?_natural]
  rw [renumbered, hlist, renumberedChars, if_pos rfl, renumberedChars_digits k hd, hplus, ← hlist,
    String.ofList_toList]

theorem renumbered_intercalate {sep : String} (h : Separator sep) (texts : List String) :
    renumbered k (sep.intercalate texts) = sep.intercalate (texts.map (renumbered k)) := by
  induction texts with
  | nil => rfl
  | cons a rest ih =>
    cases rest with
    | nil => rw [String.intercalate_singleton]; rfl
    | cons b rest =>
      have hends : EndsNumber (sep ++ sep.intercalate (b :: rest)) := endsNumber_append h.ends h.ne_nil
      simp only [List.map_cons, String.intercalate_cons_cons, String.append_assoc] at ih ⊢
      rw [renumbered_append k a hends, renumbered_plain_append k h.plain, ih]

/-- Placeholders of consecutive numbers. -/
theorem map_renumbered_placeholders (first n : Nat) :
    ((List.range' first n).map placeholder).map (renumbered k) =
      (List.range' (first + k) n).map placeholder := by
  induction n generalizing first with
  | zero => rfl
  | succ n ih =>
    simp only [List.range'_succ, List.map_cons]
    rw [renumbered_placeholder, ih, Nat.add_right_comm]

theorem map_renumbered_plain {fragments : List String} (h : ∀ f ∈ fragments, Plain f) :
    fragments.map (renumbered k) = fragments := by
  induction fragments with
  | nil => rfl
  | cons f fragments ih =>
    rw [List.map_cons, renumbered_plain k (h f List.mem_cons_self),
      ih fun g hg => h g (List.mem_cons_of_mem f hg)]

/-! ## Relocated statements -/

/-- A statement at another place: the same values, every placeholder `k` higher, also in the text if the text
that is trusted is `plain`. -/
structure Relocated (k : Nat) (plain : Prop) (s t : Statement) : Prop where
  values : t.values = s.values
  placeholders : t.placeholders = s.placeholders.map (· + k)
  fragments : plain → t.fragments = s.fragments.map (renumbered k)

variable {k} {plain : Prop} {s t s' t' : Statement}

theorem Relocated.append (h : Relocated k plain s t) (h' : Relocated k plain s' t') :
    Relocated k plain (s ++ s') (t ++ t') where
  values := by rw [append_values, append_values, h.values, h'.values]
  placeholders := by
    rw [append_placeholders, append_placeholders, h.placeholders, h'.placeholders, List.map_append]
  fragments hp := by
    rw [append_fragments, append_fragments, h.fragments hp, h'.fragments hp, List.map_append]

/-- Fragments without markers stay as they are. -/
theorem relocated_ofFragments {fragments : List String} (h : plain → ∀ f ∈ fragments, Plain f) :
    Relocated k plain (ofFragments fragments) (ofFragments fragments) where
  values := rfl
  placeholders := rfl
  fragments hp := (map_renumbered_plain k (h hp)).symm

/-- The same values, bound to placeholders `k` higher. -/
theorem relocated_bound {fragments fragments' : List String} (values : List Value) (first : Nat)
    (h : plain → fragments' = fragments.map (renumbered k)) :
    Relocated k plain (bound fragments values first) (bound fragments' values (first + k)) where
  values := rfl
  placeholders := by
    change List.range' (first + k) values.length = (List.range' first values.length).map (· + k)
    simp only [Nat.add_comm _ k, List.map_add_range']
  fragments := h

end Statement

/-! ## Criteria -/

open Statement (renumbered renumbered_append renumbered_plain_append renumbered_plain renumbered_placeholder
  renumbered_intercalate map_renumbered_placeholders map_renumbered_plain Relocated)

/-- **The text of a condition at another place.** -/
theorem Predicate.sql_add {p : Predicate} (h : Plain p.trusted) (j k : Nat) :
    p.sql (j + k) = renumbered k (p.sql j) := by
  have hnext : j + 1 + k = j + k + 1 := by omega
  cases p with
  | raw sql => exact (renumbered_plain k h).symm
  | field name op =>
    have hn : Plain name := h
    cases op with
    | compare c v =>
      have hc : Plain c.sql := by cases c <;> decide
      have hp : Plain (name ++ " " ++ c.sql ++ " ") := by
        simp only [plain_append]; exact ⟨⟨⟨hn, by decide⟩, hc⟩, by decide⟩
      rw [sql, sql, renumbered_plain_append k hp, renumbered_placeholder, hnext]
    | inList values =>
      have hp : Plain (name ++ " IN (") := plain_append.2 ⟨hn, by decide⟩
      -- the bracket after the list ends its last marker
      rw [sql, sql, renumbered_append k _ (by decide), renumbered_plain_append k hp,
        renumbered_intercalate k ⟨by decide, by decide, by decide⟩, map_renumbered_placeholders, hnext,
        renumbered_plain k (by decide)]
    | like pattern =>
      have hp : Plain ("LOWER(" ++ name ++ ") LIKE LOWER(") := by
        simp only [plain_append]; exact ⟨⟨by decide, hn⟩, by decide⟩
      rw [sql, sql, renumbered_append k _ (by decide), renumbered_plain_append k hp,
        renumbered_placeholder, hnext, renumbered_plain k (by decide)]

namespace Criteria

theorem following_add {ps : List (Connective × Predicate)} (h : ∀ p ∈ ps, Plain p.2.trusted) (j k : Nat) :
    following (j + k) ps = (following j ps).map (renumbered k) := by
  induction ps generalizing j with
  | nil => rfl
  | cons p ps ih =>
    obtain ⟨connective, p⟩ := p
    have hc : Plain connective.sql := by cases connective <;> decide
    have hp : p.sql (j + k) = renumbered k (p.sql j) := p.sql_add (h _ List.mem_cons_self) j k
    have hps := ih (fun q hq => h q (List.mem_cons_of_mem _ hq)) (j + p.operands.length)
    rw [Nat.add_right_comm] at hps
    simp only [following, List.map_cons]
    rw [hp, hps, renumbered_plain k hc]

/-- **A clause at another place.** -/
theorem compile_add {c : Criteria} (h : c.IsPlain) (j k : Nat) :
    (c.compile (j + k)).fragments = (c.compile j).fragments.map (renumbered k) := by
  have ht := h.toList
  unfold compile
  cases hl : c.toList with
  | nil => rfl
  | cons p ps =>
    rw [hl] at ht
    have hwhere : Plain "WHERE" := by decide
    have hp : p.2.sql (j + k) = renumbered k (p.2.sql j) := p.2.sql_add (ht p List.mem_cons_self) j k
    have hps := following_add (fun q hq => ht q (List.mem_cons_of_mem _ hq)) (j + p.2.operands.length) k
    rw [Nat.add_right_comm] at hps
    simp only [clause, List.map_cons]
    rw [hp, hps, renumbered_plain k hwhere]

end Criteria

/-! ## Builders -/

namespace Builder

/-- **The assignments of an UPDATE at another place.** -/
theorem assignmentTexts_add {columns : List String} (h : ∀ c ∈ columns, Plain c) (j k : Nat) :
    assignmentTexts (j + k) columns = (assignmentTexts j columns).map (renumbered k) := by
  unfold assignmentTexts
  induction columns generalizing j with
  | nil => rfl
  | cons c columns ih =>
    have hc : Plain (c ++ " = ") := plain_append.2 ⟨h c List.mem_cons_self, by decide⟩
    have hfirst : assignment c (j + k + 1) = renumbered k (assignment c (j + 1)) := by
      rw [assignment, assignment, renumbered_plain_append k hc, renumbered_placeholder, Nat.add_right_comm]
    have hrest := ih (fun c' hc' => h c' (List.mem_cons_of_mem c hc')) (j + 1)
    rw [Nat.add_right_comm j 1 k] at hrest
    rw [List.length_cons, List.range'_succ, List.range'_succ, List.zip_cons_cons, List.zip_cons_cons,
      List.map_cons, List.map_cons, List.map_cons, hrest]
    exact congrArg (· :: _) hfirst

variable {plain : Prop} {b : Builder}

/-- Criteria behind a statement go on with its numbers, wherever it is. -/
theorem withCriteria_relocated (hc : plain → b.criteria.IsPlain) {j k : Nat} {s t : Statement}
    (h : Relocated k plain s t) : Relocated k plain (b.withCriteria j s) (b.withCriteria (j + k) t) := by
  refine h.append ?_
  have hstart : j + k + s.values.length = j + s.values.length + k := by omega
  simp only [h.values, hstart, Nat.add_right_comm _ k 1]
  exact Statement.relocated_bound _ _ fun hp => Criteria.compile_add (hc hp) _ _

theorem updateHead_relocated (h : plain → b.IsPlain) (j k : Nat) :
    Relocated k plain (b.updateHead j) (b.updateHead (j + k)) := by
  have hfrom : Plain "FROM " := by decide
  have hstaging := Statement.relocated_ofFragments (k := k) fun hp => plain_staging (h hp) hfrom
  refine Relocated.append ?_ hstaging
  rw [Nat.add_right_comm]
  refine Statement.relocated_bound _ _ fun hp => ?_
  have ht : Plain ("UPDATE " ++ b.table ++ " SET") := by
    simp only [plain_append]; exact ⟨⟨by decide, (h hp).table⟩, by decide⟩
  rw [List.map_cons, List.map_cons, List.map_nil, renumbered_plain k ht,
    renumbered_intercalate k ⟨by decide, by decide, by decide⟩, assignmentTexts_add (h hp).columns]

/-- **A statement at another place** is refused with the same fault, or is the same but for its numbers. -/
theorem buildFrom_relocated (h : plain → b.IsPlain) (j k : Nat) :
    Result.Both (Relocated k plain) (b.buildFrom j) (b.buildFrom (j + k)) := by
  unfold buildFrom
  have hcriteria : plain → b.criteria.IsPlain := fun hp => (h hp).criteria
  cases b.failure with
  | some cause => exact .error cause
  | none =>
    cases b.kind with
    | select =>
      simp only [buildSelect]
      cases hp : b.projectionText with
      | error cause => exact .error cause
      | ok p =>
        have hhead : Relocated k plain (b.selectHead p) (b.selectHead p) :=
          Statement.relocated_ofFragments fun ht => plain_selectHead (h ht) (plain_projectionText (h ht) hp)
        have htail := Statement.relocated_ofFragments (k := k) fun ht => plain_selectTail (h ht)
        exact .ok ((withCriteria_relocated hcriteria hhead).append htail)
    | update =>
      simp only [buildUpdate]
      split
      · exact .error _
      · exact .ok (withCriteria_relocated hcriteria (updateHead_relocated h j k))
    | delete =>
      simp only [buildDelete]
      split
      · exact .error _
      · have hhead := Statement.relocated_ofFragments (k := k) fun ht => plain_deleteHead (h ht)
        exact .ok (withCriteria_relocated hcriteria hhead)

end Builder

end CriteriaSql
