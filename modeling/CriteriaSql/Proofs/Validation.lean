import CriteriaSql.Proofs.ByteScan
import CriteriaSql.Proofs.Numbering
import Mathlib.Data.List.Infix

/-!
# The check of hand-written statements

A marker can be read without scanning: at every place of a text where a dollar sign stands and a digit behind it, the
longest run of digits there is its number. These are the numbers that a scan finds, fragment by fragment or in the
whole text, in characters or in bytes, but for those beyond the bound, which a scan leaves out. The check then passes
just where the numbers found are those from one on, as many as there are values, and else names the first that is not.

So it is right about all statements whose numbers are below the bound. A number beyond it is not seen: a statement can
hold such a marker for which there is no value, and pass.

* `Statement.numbers`: the numbers of the markers of a text, of any size.
* `Statement.markers_eq`: a scan finds those below the bound.
* `Statement.Mismatch`, `Statement.validate_cases`: what the check says.
* `handwritten_checked`: the check of a hand-written statement.
* `overlong_number_passes`: a marker that is not seen.
-/

namespace CriteriaSql

namespace Statement

/-! ## Reading -/

/-- The number of the marker that a text opens with: a dollar sign, and the longest run of digits behind it, which has
one at least. -/
def opening? : List Char → Option Nat
  | [] => none
  | c :: rest => if c = '$' then Text.natural? (rest.takeWhile Char.isDigit) else none

/-- The numbers of the markers of a text from left to right, of any size. -/
def numbers (text : String) : List Nat := text.toList.tails.filterMap opening?

/-- Digits are read without a sign. -/
theorem below?_digits {ds : List Char} (h : ∀ c ∈ ds, c.isDigit = true) (bound : Nat) :
    Text.below? bound ds = (Text.natural? ds).filter fun n => decide (n < bound) := by
  have hsign : Text.unsigned? ds = Text.natural? ds := by
    cases ds with
    | nil => rfl
    | cons c ds =>
      have hc : c ≠ '+' := by
        rintro rfl
        exact absurd (h '+' List.mem_cons_self) (by decide)
      unfold Text.unsigned?
      split
      · next heq => exact absurd (List.cons.inj heq).1 hc
      · rfl
  rw [Text.below?, hsign]

theorem isDigit_of_mem_digitRuns {cs ds : List Char} (h : ds ∈ digitRuns none cs) {d : Char} (hd : d ∈ ds) :
    d.isDigit = true := by
  induction cs with
  | nil => exact absurd h List.not_mem_nil
  | cons c cs ih =>
    by_cases hc : c = '$'
    · subst hc
      rw [digitRuns_dollar, List.mem_cons] at h
      rcases h with rfl | h
      · exact List.mem_takeWhile_imp hd
      · exact ih h
    · rw [digitRuns_cons_of_ne hc] at h
      exact ih h

/-- **The markers of a text are the runs that a scan finds**, read as numbers. -/
theorem numbers_eq (text : String) : numbers text = (digitRuns none text.toList).filterMap Text.natural? := by
  unfold numbers
  induction text.toList with
  | nil => rfl
  | cons c cs ih =>
    rw [List.tails_cons, List.filterMap_cons, opening?, ih]
    by_cases hc : c = '$'
    · subst hc
      rw [if_pos rfl, digitRuns_dollar, List.filterMap_cons]
    · rw [if_neg hc, digitRuns_cons_of_ne hc]

/-- **A scan finds the numbers below the bound**, in their order. -/
theorem markers_eq (text : String) : markers text = (numbers text).filter fun n => decide (n < numberLimit) := by
  rw [numbers_eq, List.filter_filterMap]
  refine List.filterMap_congr fun ds hds => ?_
  exact below?_digits (fun d hd => isDigit_of_mem_digitRuns hds hd) numberLimit

/-- A list of numbers below the bound is all there is to see, and the numbers from one on are such a list. -/
theorem filter_eq_range'_iff {ns : List Nat} {count : Nat} :
    ((ns.filter fun n => decide (n < numberLimit)) = List.range' 1 count ∧ ∀ n ∈ ns, n < numberLimit) ↔
      ns = List.range' 1 count ∧ count < numberLimit := by
  have hall : (∀ n ∈ ns, n < numberLimit) ↔ (ns.filter fun n => decide (n < numberLimit)) = ns := by
    rw [List.filter_eq_self]
    simp
  constructor
  · rintro ⟨hseen, hbelow⟩
    have hns : ns = List.range' 1 count := (hall.1 hbelow).symm.trans hseen
    refine ⟨hns, ?_⟩
    -- the count is the last of the numbers, if there are any
    rcases Nat.eq_zero_or_pos count with hzero | hpos
    · rw [hzero]
      decide
    · have hlast : count ∈ ns := by
        rw [hns, List.mem_range'_1]
        omega
      exact hbelow count hlast
  · rintro ⟨hns, hcount⟩
    have hbelow : ∀ n ∈ ns, n < numberLimit := by
      intro n hn
      rw [hns] at hn
      have hle := List.mem_range'_1.1 hn
      omega
    exact ⟨(hall.1 hbelow).trans hns, hbelow⟩

/-! ## The check -/

/-- What is wrong with the numbers of a statement that has a number of values: they are not as many, or else this is
the first that is not in its place. -/
inductive Mismatch : List Nat → Nat → Misnumbered → Prop
  | count {numbers : List Nat} {n : Nat} (h : numbers.length ≠ n) : Mismatch numbers n (.count numbers.length n)
  | number {before after : List Nat} {m : Nat} (hbefore : before = List.range' 1 before.length)
    (hm : m ≠ before.length + 1) :
    Mismatch (before ++ m :: after) (before ++ m :: after).length (.number (before.length + 1) m)

/-- **Numbers are checked from left to right**, up to the first that is not in its place. -/
theorem checkFrom_cases (ns : List Nat) : ∀ position,
    (checkFrom position ns = .ok () ∧ ns = List.range' position ns.length) ∨
      ∃ before m after, ns = before ++ m :: after ∧ before = List.range' position before.length ∧
        m ≠ position + before.length ∧ checkFrom position ns = .error (.number (position + before.length) m) := by
  induction ns with
  | nil =>
    intro position
    exact .inl ⟨rfl, rfl⟩
  | cons n ns ih =>
    intro position
    by_cases hn : n = position
    · subst hn
      have hstep : checkFrom n (n :: ns) = checkFrom (n + 1) ns := if_pos rfl
      rcases ih (n + 1) with ⟨hok, hns⟩ | ⟨before, m, after, hns, hbefore, hm, herror⟩
      · refine .inl ⟨hstep.trans hok, ?_⟩
        rw [List.length_cons, List.range'_succ, ← hns]
      -- the number in its place is one more before the first that is not
      · have hplace : n + 1 + before.length = n + (n :: before).length := by
          rw [List.length_cons]
          omega
        refine .inr ⟨n :: before, m, after, ?_, ?_, ?_, ?_⟩
        · rw [hns, List.cons_append]
        · rw [List.length_cons, List.range'_succ, ← hbefore]
        · rw [← hplace]
          exact hm
        · rw [hstep, herror, hplace]
    · refine .inr ⟨[], n, ns, rfl, rfl, hn, ?_⟩
      exact if_neg hn

/-- **The check passes just where the numbers are those from one on**, one for each value, and else says what is
wrong. -/
theorem validate_cases (s : Statement) :
    (s.validate = .ok () ∧ s.placeholders = List.range' 1 s.values.length) ∨
      ∃ cause, s.validate = .error cause ∧ Mismatch s.placeholders s.values.length cause := by
  by_cases hcount : s.placeholders.length = s.values.length
  · rw [validate, if_pos hcount, ← hcount]
    rcases checkFrom_cases s.placeholders 1 with hok | ⟨before, m, after, hns, hbefore, hm, herror⟩
    · exact .inl hok
    · rw [Nat.add_comm] at hm herror
      refine .inr ⟨_, herror, ?_⟩
      rw [hns]
      exact .number hbefore hm
  · refine .inr ⟨.count s.placeholders.length s.values.length, if_neg hcount, .count hcount⟩

theorem validate_eq_ok {s : Statement} : s.validate = .ok () ↔ s.placeholders = List.range' 1 s.values.length := by
  constructor
  · intro h
    rcases s.validate_cases with ⟨-, hnumbers⟩ | ⟨cause, herror, -⟩
    · exact hnumbers
    · rw [h] at herror
      cases herror
  · intro h
    have hnumbered : s.NumberedAfter 0 := h
    exact validate_eq hnumbered

end Statement

open Statement

/-- **The check of a hand-written statement**: it passes just where the numbers of the markers of its text that are
below the bound are those from one on, one for each value, and else fails with what is wrong about them. Where no
number is beyond the bound it is the check of all numbers. A scan of the bytes of each fragment finds the same numbers
as a scan of the whole text. -/
theorem handwritten_checked (fragments : List String) (values : List Value) :
    let s := ofParts fragments values
    let seen := (numbers s.sql).filter fun n => decide (n < numberLimit)
    (s.placeholders = (fragments.flatMap fun f => Bytes.markers (Bytes.ofText f)) ∧
        s.placeholders = Bytes.markers (Bytes.ofText s.sql) ∧ s.placeholders = seen) ∧
      (s.validate = .ok () ↔ seen = List.range' 1 values.length) ∧
      (seen ≠ List.range' 1 values.length → ∃ cause, Mismatch seen values.length cause ∧
        s.validate.mapError Error.queryBuild = .error (.queryBuild cause)) ∧
      ((s.validate = .ok () ∧ ∀ n ∈ numbers s.sql, n < numberLimit) ↔
        numbers s.sql = List.range' 1 values.length ∧ values.length < numberLimit) := by
  intro s seen
  have hwhole : s.placeholders = markers s.sql := flatMap_markers s
  have hseen : s.placeholders = seen := hwhole.trans (markers_eq s.sql)
  have hok : s.validate = .ok () ↔ seen = List.range' 1 values.length := by
    rw [validate_eq_ok, hseen]
    rfl
  refine ⟨⟨?_, ?_, hseen⟩, hok, ?_, ?_⟩
  · simp only [Bytes.markers_ofText]
    rfl
  · rw [Bytes.markers_ofText, hwhole]
  · intro hne
    rcases s.validate_cases with ⟨hpass, -⟩ | ⟨cause, herror, hmismatch⟩
    · exact absurd (hok.1 hpass) hne
    · rw [hseen] at hmismatch
      refine ⟨cause, hmismatch, ?_⟩
      rw [herror]
      rfl
  · rw [hok]
    exact filter_eq_range'_iff

/-- A statement with a number out of its place. -/
theorem handwritten_checked_gap :
    let s := ofParts ["a IN ($1,$2)", "b = $4"] [.int 1, .int 2, .int 3]
    let seen := (numbers s.sql).filter fun n => decide (n < numberLimit)
    seen ≠ List.range' 1 3 ∧ ∃ cause, Mismatch seen 3 cause ∧
      s.validate.mapError Error.queryBuild = .error (.queryBuild cause) := by
  intro s seen
  have hgap : seen ≠ List.range' 1 3 := by decide +kernel
  obtain ⟨-, -, hfails, -⟩ := handwritten_checked ["a IN ($1,$2)", "b = $4"] [.int 1, .int 2, .int 3]
  exact ⟨hgap, hfails hgap⟩

/-- A statement with two markers and one value: the number of the second is beyond the bound, and the check passes. -/
theorem overlong_number_passes :
    let s := ofParts ["a = $1 AND b = $18446744073709551616"] [.int 1]
    s.validate = .ok () ∧ numbers s.sql = [1, 18446744073709551616] ∧
      ¬ (s.validate = .ok () ↔ numbers s.sql = List.range' 1 s.values.length) := by
  intro s
  have hpasses : s.validate = .ok () := by decide +kernel
  have hnumbers : numbers s.sql = [1, 18446744073709551616] := by decide +kernel
  refine ⟨hpasses, hnumbers, ?_⟩
  intro h
  have hlength := congrArg List.length (hnumbers.symm.trans (h.1 hpasses))
  exact absurd hlength (by decide)

end CriteriaSql
