import CriteriaSql.Statement

/-!
# Placeholders are found again

Scanning a text for markers reads the printed placeholders back, wherever they stand between texts
without a dollar sign.

* `Plain`: a text without a dollar sign.
* `markers_append`: a text that does not open with a digit is scanned on its own.
* `markers_placeholder`: a printed placeholder reads back as its number.
* `markers_intercalate`: joined texts have the markers of the texts.
-/

namespace CriteriaSql

/-- A text without a dollar sign: the condition on trusted text. -/
def Plain (text : String) : Prop := '$' ∉ text.toList

instance (text : String) : Decidable (Plain text) := inferInstanceAs (Decidable ('$' ∉ text.toList))

/-- A text that does not continue a number before it. -/
def EndsNumber (text : String) : Prop := ∀ c ∈ text.toList.head?, c.isDigit = false

instance (text : String) : Decidable (EndsNumber text) :=
  decidable_of_iff (text.toList.head?.all (!·.isDigit) = true) <| by
    simp only [Option.all_eq_true, Bool.not_eq_true', EndsNumber, Option.mem_def]

theorem plain_append {a b : String} : Plain (a ++ b) ↔ Plain a ∧ Plain b := by
  unfold Plain
  rw [String.toList_append, List.mem_append, not_or]

theorem endsNumber_append {a b : String} (h : EndsNumber a) (hne : a.toList ≠ []) :
    EndsNumber (a ++ b) := by
  unfold EndsNumber at h ⊢
  obtain ⟨c, cs, hcs⟩ := List.exists_cons_of_ne_nil hne
  rw [String.toList_append, hcs, List.cons_append]
  rw [hcs] at h
  exact h

namespace Statement

/-! ## Lists of characters -/

/-- A marker ends at the latest where a character follows that is no digit. -/
theorem digitRuns_append {rest : List Char} (h : ∀ c ∈ rest.head?, c.isDigit = false) :
    ∀ (cs : List Char) (pending : Option (List Char)),
      digitRuns pending (cs ++ rest) = digitRuns pending cs ++ digitRuns none rest := by
  intro cs
  induction cs with
  | nil =>
    intro pending
    cases pending with
    | none => rfl
    | some ds =>
      -- the open marker ends here, since the rest does not open with a digit
      cases rest with
      | nil => rfl
      | cons c rest =>
        have hc : c.isDigit = false := h c rfl
        by_cases hd : c = '$' <;> simp [digitRuns, hc, hd]
  | cons c cs ih =>
    intro pending
    -- a digit goes on with the open marker, a dollar sign opens the next, all else ends it
    by_cases hc : c.isDigit = true
    · have hd : c ≠ '$' := by rintro rfl; revert hc; decide
      cases pending <;> simp [digitRuns, hc, hd, ih]
    · by_cases hd : c = '$'
      · subst hd
        cases pending <;> simp [digitRuns, ih]
      · cases pending <;> simp [digitRuns, hc, hd, ih]

/-- Characters without a dollar sign open no marker. -/
theorem digitRuns_plain_append {cs : List Char} (h : '$' ∉ cs) (rest : List Char) :
    digitRuns none (cs ++ rest) = digitRuns none rest := by
  induction cs with
  | nil => rfl
  | cons c cs ih =>
    rw [List.mem_cons, not_or] at h
    have hc : c ≠ '$' := fun he => h.1 he.symm
    rw [List.cons_append, digitRuns, if_neg hc, ih h.2]

/-- An open marker takes every digit. -/
theorem digitRuns_digits {ds : List Char} (h : ∀ c ∈ ds, c.isDigit = true) :
    ∀ read : List Char, digitRuns (some read) ds = [read.reverse ++ ds] := by
  induction ds with
  | nil => intro read; rw [digitRuns, List.append_nil]
  | cons d ds ih =>
    intro read
    have hd : d.isDigit = true := h d List.mem_cons_self
    rw [digitRuns, if_pos hd, ih (fun c hc => h c (List.mem_cons_of_mem d hc)), List.reverse_cons,
      List.append_assoc, List.singleton_append]

/-! ## Texts -/

theorem markers_append {a b : String} (h : EndsNumber b) : markers (a ++ b) = markers a ++ markers b := by
  unfold markers
  rw [String.toList_append, digitRuns_append h, List.filterMap_append]

theorem markers_plain_append {a : String} (h : Plain a) (b : String) : markers (a ++ b) = markers b := by
  unfold markers
  rw [String.toList_append, digitRuns_plain_append h]

theorem markers_plain {a : String} (h : Plain a) : markers a = [] := by
  have := markers_plain_append h ""
  rw [String.append_empty] at this
  exact this

/-- **A printed placeholder reads back.** -/
theorem markers_placeholder {n : Nat} (h : n < numberLimit) : markers (placeholder n) = [n] := by
  have hd : ∀ c ∈ Text.natural n, c.isDigit = true := fun c hc => Text.isDigit_of_mem_natural hc
  have hl : (placeholder n).toList = '$' :: Text.natural n := by
    rw [placeholder, String.toList_append, Nat.toString_eq_repr, Nat.toList_repr]
    rfl
  have hu : Text.unsigned? (Text.natural n) = some n := by
    -- the first character is a digit, hence no sign
    obtain ⟨c, cs, hcs⟩ := List.exists_cons_of_ne_nil (Text.natural_ne_nil n)
    have hc : c ≠ '+' := by
      rintro rfl
      exact absurd (hd '+' (hcs ▸ List.mem_cons_self)) (by decide)
    have hn := Text.natural?_natural n
    rw [hcs] at hn ⊢
    unfold Text.unsigned?
    split
    · next heq => exact absurd (List.cons.inj heq).1 hc
    · exact hn
  have hb : Text.below? numberLimit (Text.natural n) = some n := by
    rw [Text.below?, hu, Option.filter_some, if_pos (decide_eq_true h)]
  unfold markers
  rw [hl, digitRuns, if_pos rfl, digitRuns_digits hd, List.reverse_nil, List.nil_append,
    List.filterMap_cons_some hb, List.filterMap_nil]

/-- What joins texts: no dollar sign in it, and a first character that is no digit. -/
structure Separator (sep : String) : Prop where
  plain : Plain sep
  ends : EndsNumber sep
  ne_nil : sep.toList ≠ []

/-- **Joined texts have the markers of the texts.** -/
theorem markers_intercalate {sep : String} (h : Separator sep) :
    ∀ texts : List String, markers (sep.intercalate texts) = texts.flatMap markers := by
  intro texts
  induction texts with
  | nil => rw [String.intercalate_nil]; rfl
  | cons a rest ih =>
    cases rest with
    | nil => rw [String.intercalate_singleton, List.flatMap_cons, List.flatMap_nil, List.append_nil]
    | cons b rest =>
      -- the separator ends the markers of the first text and opens none
      rw [String.intercalate_cons_cons, String.append_assoc,
        markers_append (endsNumber_append h.ends h.ne_nil), markers_plain_append h.plain, ih,
        ← List.flatMap_cons]

/-- Placeholders of consecutive numbers, joined. -/
theorem markers_placeholders {sep : String} (h : Separator sep) {first n : Nat}
    (hn : first + n ≤ numberLimit) :
    markers (sep.intercalate ((List.range' first n).map placeholder)) = List.range' first n := by
  rw [markers_intercalate h, List.flatMap_map]
  clear h
  induction n generalizing first with
  | zero => rfl
  | succ n ih =>
    rw [List.range'_succ, List.flatMap_cons, markers_placeholder (by omega), ih (by omega),
      List.singleton_append]

end Statement

end CriteriaSql
