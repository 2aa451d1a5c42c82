import CriteriaSql.Decimal.Reader
import CriteriaSql.Proofs.CalendarText
import CriteriaSql.Value

/-!
# Integers read as they are written

The decimal form of an integer is one or more digits, with a minus sign before those of a negative one. Both
readers of numbers that stand for whole values take it back to the integer, and blanks around it are cut off
first.

* `Text.int64?_integer`: the reader of 64-bit integers.
* `Decimal.read?_integer`: the reader of decimals, which finds no places.
* `Text.trim_integer`: blanks around the form.
* `Value.int?_integer`: the integer view of a text.
-/

namespace CriteriaSql

namespace Text

/-! ## The decimal form -/

/-- A form starts with a digit, or with the sign of a negative integer. -/
theorem integer_cases (n : Int) :
    (0 ≤ n ∧ integer n = natural n.natAbs) ∨ (n < 0 ∧ integer n = '-' :: natural n.natAbs) := by
  unfold integer
  by_cases hneg : n < 0
  · exact .inr ⟨hneg, if_pos hneg⟩
  · exact .inl ⟨Int.not_lt.1 hneg, if_neg hneg⟩

/-- A number without a sign starts with a digit. -/
theorem natural_eq_cons (n : Nat) : ∃ c cs, natural n = c :: cs ∧ c.isDigit = true := by
  obtain ⟨c, cs, hcs⟩ := List.exists_cons_of_ne_nil (natural_ne_nil n)
  have hmem : c ∈ natural n := by
    rw [hcs]
    exact List.mem_cons_self
  exact ⟨c, cs, hcs, isDigit_of_mem_natural hmem⟩

/-- **The decimal form of an integer is read back.** -/
theorem integer?_integer (n : Int) : integer? (integer n) = some n := by
  obtain ⟨hn, hform⟩ | ⟨hn, hform⟩ := integer_cases n
  · obtain ⟨c, cs, hcs, hdigit⟩ := natural_eq_cons n.natAbs
    have hread : natural? (c :: cs) = some n.natAbs := by
      rw [← hcs]
      exact natural?_natural n.natAbs
    have hback : ((n.natAbs : Nat) : Int) = n := by omega
    rw [hform, hcs]
    unfold integer?
    -- a digit is no sign
    split
    · next heq =>
      cases heq
      cases hdigit
    · unfold unsigned?
      split
      · next heq =>
        cases heq
        cases hdigit
      · rw [hread, Option.map_some, Int.ofNat_eq_natCast, hback]
  · have hback : -((n.natAbs : Nat) : Int) = n := by omega
    rw [hform, integer?, natural?_natural]
    show some (-((n.natAbs : Nat) : Int)) = some n
    rw [hback]

/-- **A 64-bit integer is read back.** -/
theorem int64?_integer (n : Int64) : int64? (integer n.toInt) = some n.toInt := by
  have hlow : int64Low ≤ n.toInt := n.le_toInt
  have hhigh : n.toInt ≤ int64High := Int.le_of_lt_add_one n.toInt_lt
  rw [int64?, integerWithin?, integer?_integer, Option.filter_some, if_pos (decide_eq_true ⟨hlow, hhigh⟩)]

/-! ## Blanks around it -/

theorem isBlank_of_mem_integer {n : Int} {c : Char} (h : c ∈ integer n) : isBlank c = false := by
  obtain ⟨-, hform⟩ | ⟨-, hform⟩ := integer_cases n
  · rw [hform] at h
    exact isBlank_of_isDigit (isDigit_of_mem_natural h)
  · rw [hform, List.mem_cons] at h
    rcases h with rfl | h
    · decide
    · exact isBlank_of_isDigit (isDigit_of_mem_natural h)

theorem integer_ne_nil (n : Int) : integer n ≠ [] := by
  obtain ⟨-, hform⟩ | ⟨-, hform⟩ := integer_cases n
  · rw [hform]
    exact natural_ne_nil n.natAbs
  · rw [hform]
    exact List.cons_ne_nil _ _

/-- Blanks are dropped up to the first character that is none. -/
theorem dropWhile_blanks {blanks cs rest : List Char} (hblanks : ∀ c ∈ blanks, isBlank c = true)
    (hcs : ∀ c ∈ cs, isBlank c = false) (hne : cs ≠ []) :
    (blanks ++ (cs ++ rest)).dropWhile isBlank = cs ++ rest := by
  obtain ⟨c, cs, rfl⟩ := List.exists_cons_of_ne_nil hne
  have hc : isBlank c = false := hcs c List.mem_cons_self
  rw [List.dropWhile_append_of_pos hblanks, List.cons_append, List.dropWhile_cons, hc]
  rfl

/-- **Blanks around a form are cut off.** -/
theorem trim_integer {before after : List Char} (n : Int) (hbefore : ∀ c ∈ before, isBlank c = true)
    (hafter : ∀ c ∈ after, isBlank c = true) : trim (before ++ integer n ++ after) = integer n := by
  have hplain : ∀ c ∈ integer n, isBlank c = false := fun c => isBlank_of_mem_integer
  have hne := integer_ne_nil n
  have hstart : trimStart (before ++ integer n ++ after) = integer n ++ after := by
    rw [trimStart, List.append_assoc]
    exact dropWhile_blanks hbefore hplain hne
  have hend : (after.reverse ++ ((integer n).reverse ++ [])).dropWhile isBlank = (integer n).reverse ++ [] :=
    dropWhile_blanks (fun c hc => hafter c (List.mem_reverse.1 hc))
      (fun c hc => hplain c (List.mem_reverse.1 hc)) (List.reverse_ne_nil_iff.2 hne)
  rw [List.append_nil] at hend
  rw [trim, hstart, trimEnd, List.reverse_append, hend, List.reverse_reverse]

end Text

/-! ## As a decimal -/

namespace Decimal

/-- Reading on never makes a number smaller. -/
theorem le_ofDigitChars (ds : List Char) (m : Nat) : m ≤ Nat.ofDigitChars 10 ds m := by
  induction ds generalizing m with
  | nil => exact Nat.le_refl m
  | cons c ds ih =>
    have hrest := ih (10 * m + (c.toNat - '0'.toNat))
    rw [Nat.ofDigitChars_cons]
    omega

/-- **Digits that fit are read to their number**, without places. -/
theorem scan?_digits {ds : List Char} (hds : ∀ c ∈ ds, c.isDigit = true) {m : Nat}
    (hfit : Nat.ofDigitChars 10 ds m < limit) {started : Bool} (hstarted : started = true ∨ ds ≠ []) :
    scan? m 0 false started ds = some (Nat.ofDigitChars 10 ds m, 0) := by
  induction ds generalizing m started with
  | nil =>
    have hs : started = true := hstarted.resolve_right fun h => h rfl
    rw [scan?, if_pos hs]
    rfl
  | cons c ds ih =>
    have hdigit : c.isDigit = true := hds c List.mem_cons_self
    rw [Nat.ofDigitChars_cons, Nat.mul_comm] at hfit ⊢
    -- the digits read so far fit, since all of them do
    have hnow : m * 10 + (c.toNat - '0'.toNat) < limit :=
      Nat.lt_of_le_of_lt (le_ofDigitChars ds _) hfit
    rw [scan?, if_pos hdigit]
    dsimp only
    rw [if_pos ⟨hnow, by decide⟩, if_neg Bool.false_ne_true]
    exact ih (fun c hc => hds c (List.mem_cons_of_mem _ hc)) hfit (.inl rfl)

theorem scan?_natural {n : Nat} (h : n < limit) : scan? 0 0 false false (Text.natural n) = some (n, 0) := by
  have hvalue : Nat.ofDigitChars 10 (Text.natural n) 0 = n := Nat.ofDigitChars_ten_toDigits
  have hfit : Nat.ofDigitChars 10 (Text.natural n) 0 < limit := by rwa [hvalue]
  have hread := @scan?_digits _ (fun c => Text.isDigit_of_mem_natural) 0 hfit false
    (.inr (Text.natural_ne_nil n))
  rw [hread, hvalue]

/-- **The decimal form of an integer is read as a decimal without places.** -/
theorem read?_integer {n : Int} (h : n.natAbs < limit) : read? (Text.integer n) = some (ofInt n) := by
  have hscan := scan?_natural h
  have hplain : plain? (Text.integer n) = some (ofInt n) := by
    obtain ⟨hn, hform⟩ | ⟨hn, hform⟩ := Text.integer_cases n
    · obtain ⟨c, cs, hcs, hdigit⟩ := Text.natural_eq_cons n.natAbs
      have hsign : decide (n < 0) = false := decide_eq_false (Int.not_lt.2 hn)
      rw [hcs] at hscan
      rw [hform, hcs, ofInt, hsign]
      unfold plain?
      -- a digit is no sign
      split
      · next heq =>
        cases heq
        cases hdigit
      · next heq =>
        cases heq
        cases hdigit
      · rw [hscan]
        rfl
    · rw [hform, plain?, hscan, ofInt, decide_eq_true hn]
      rfl
  rw [read?, hplain, Option.some_or]

end Decimal

/-! ## As a value -/

/-- **The integer view of a decimal form.** -/
theorem Value.int?_integer (n : Int64) :
    (Value.text (String.ofList (Text.integer n.toInt))).int? = some n := by
  have htrim : Text.trim (Text.integer n.toInt) = Text.integer n.toInt := by
    have htrim := @Text.trim_integer [] [] n.toInt (by simp) (by simp)
    rwa [List.nil_append, List.append_nil] at htrim
  rw [Value.int?, String.toList_ofList, htrim, Text.int64?_integer, Option.map_some, Int64.ofInt_toInt]

end CriteriaSql
