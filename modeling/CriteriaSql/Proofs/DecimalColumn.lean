import CriteriaSql.Column.Numeric
import CriteriaSql.Proofs.ByteString
import CriteriaSql.Proofs.Result

/-!
# Whole numbers in decimal columns

A whole number is written as its groups of four digits, all of them before the point. Its header says how many
they are, so the reader takes the same groups back, and they add up to the number again.

* `Numeric.foldlM_groups`: the groups of a number add up to it.
* `Numeric.decode_frame`: a header is read as it is written.
* `Numeric.decode_encode_ofInt`: a whole number is read as it is written.
* `Decimal.text_ofInt`: its text is its decimal form.
-/

namespace CriteriaSql

namespace Numeric

open Decimal (limit maxScale)

/-! ## Groups -/

theorem groups_zero : groups 0 = [] := by
  rw [groups, if_pos rfl]

theorem groups_of_ne_zero {n : Nat} (h : n ≠ 0) : groups n = groups (n / base) ++ [n % base] := by
  rw [groups, if_neg h]

/-- Each group has four digits. -/
theorem lt_of_mem_groups {n g : Nat} (h : g ∈ groups n) : g < base := by
  induction n using groups.induct with
  | case1 => simp [groups_zero] at h
  | case2 n hn ih =>
    rw [groups_of_ne_zero hn, List.mem_append, List.mem_singleton] at h
    rcases h with h | rfl
    · exact ih h
    · exact Nat.mod_lt n (by decide)

/-- A number below a power of the base has at most so many groups. -/
theorem length_groups_le {k n : Nat} (h : n < base.pow k) : (groups n).length ≤ k := by
  induction k generalizing n with
  | zero =>
    have h0 : n = 0 := Nat.lt_one_iff.1 h
    rw [h0, groups_zero]
    exact Nat.le_refl 0
  | succ k ih =>
    by_cases hn : n = 0
    · rw [hn, groups_zero]
      exact Nat.zero_le _
    · have hpow : base.pow (k + 1) = base * base.pow k := Nat.mul_comm (base.pow k) base
      have hhigh : n / base < base.pow k := Nat.div_lt_of_lt_mul (hpow ▸ h)
      have hrest := ih hhigh
      rw [groups_of_ne_zero hn, List.length_append, List.length_singleton]
      omega

/-- **The groups of a number add up to it.** -/
theorem foldlM_groups {n : Nat} (h : n < limit) : (groups n).foldlM appendGroup? 0 = some n := by
  induction n using groups.induct with
  | case1 => rw [groups_zero, List.foldlM_nil, Option.pure_def]
  | case2 n hn ih =>
    have hsplit : n / base * base + n % base = n := Nat.div_add_mod' n base
    have hhigh : n / base < limit := Nat.lt_of_le_of_lt (Nat.div_le_self n base) h
    have happend : appendGroup? (n / base) (n % base) = some n := by
      rw [appendGroup?, hsplit, if_pos ⟨by omega, h⟩]
    rw [groups_of_ne_zero hn, List.foldlM_append, ih hhigh, Option.bind_eq_bind, Option.bind_some,
      List.foldlM_cons, happend, Option.bind_eq_bind, Option.bind_some, List.foldlM_nil, Option.pure_def]

/-- Groups that all stand before the point. -/
theorem ofGroups?_whole (gs : List Nat) :
    ofGroups? ((gs.length : Int) - 1) gs =
      (gs.foldlM appendGroup? 0).bind fun m => (appendZeros? m 0).map fun m => ⟨false, m, 0⟩ := by
  have hbefore : ((gs.length : Int) - 1 + 1).toNat = gs.length := by omega
  rw [ofGroups?, hbefore, List.take_length, List.drop_length, Nat.sub_self]
  cases gs.foldlM appendGroup? 0 with
  | none => rfl
  | some m => cases hz : appendZeros? m 0 <;> simp [hz]

theorem appendZeros?_zero {m : Nat} (h : m < limit) : appendZeros? m 0 = some m := by
  rw [appendZeros?, show pow10 (4 * 0) = 1 from rfl, Nat.mul_one, if_pos ⟨by decide, h⟩]

/-! ## Bytes -/

theorem word?_append {bytes rest : Bytes} (h : bytes.length = 2) :
    word? (bytes ++ rest) = .ok (bytes, rest) := by
  have hlen : ¬ (bytes ++ rest).length < 2 := by
    rw [List.length_append]
    omega
  rw [word?, if_neg hlen, ← h, List.take_left, List.drop_left]

/-- Groups are read as they are written. -/
theorem words?_flatMap {gs : List Nat} (h : ∀ g ∈ gs, g < 65536) :
    words? gs.length (gs.flatMap (Bytes.bigEndian 2)) = .ok gs := by
  induction gs with
  | nil => rfl
  | cons g gs ih =>
    have hg : Bytes.toNat (Bytes.bigEndian 2 g) = g := Bytes.toNat_bigEndian (h g List.mem_cons_self)
    have hrest := ih fun g hm => h g (List.mem_cons_of_mem _ hm)
    rw [List.flatMap_cons, List.length_cons, words?, word?_append (Bytes.length_bigEndian 2 g)]
    show (words? gs.length (gs.flatMap (Bytes.bigEndian 2))).bind
      (fun ws => .ok (Bytes.toNat (Bytes.bigEndian 2 g) :: ws)) = .ok (g :: gs)
    rw [hrest, hg, Result.bind_ok]

/-- **A header and groups are read as they are written**, as far as the header's fields have room. -/
theorem decode_frame {weight : Int} {sign scale : Nat} {gs : List Nat}
    (hweight : -32768 ≤ weight ∧ weight < 32768) (hsign : sign < 65536) (hscale : scale < 65536)
    (hcount : gs.length < 65536) (hgs : ∀ g ∈ gs, g < 65536) :
    decode (frame weight sign scale gs) =
      if isNoNumber sign then .error .decimal
      else
        match ofGroups? weight gs with
        | none => .error .decimal
        | some d =>
          .ok ((⟨sign = negativeSign, d.mantissa, d.scale⟩ : Decimal).rescale (min scale maxScale)) := by
  have hread {n : Nat} (hn : n < 65536) : Bytes.toNat (Bytes.bigEndian 2 n) = n :=
    Bytes.toNat_bigEndian hn
  have hbound : pow2 (8 * 2) = 65536 := rfl
  have hsigned : Bytes.toInt (Bytes.ofInt 2 weight) = weight :=
    Bytes.toInt_ofInt (by omega) (by omega)
  have hfields : frame weight sign scale gs =
      Bytes.bigEndian 2 gs.length ++ (Bytes.ofInt 2 weight ++ (Bytes.bigEndian 2 sign ++
        (Bytes.bigEndian 2 scale ++ gs.flatMap (Bytes.bigEndian 2)))) := by
    simp only [frame, List.append_assoc]
  rw [hfields, decode, word?_append (Bytes.length_bigEndian 2 gs.length)]
  cases hgroups : ofGroups? weight gs <;>
    simp only [bind, Except.bind, word?_append (Bytes.length_ofInt 2 weight),
      word?_append (Bytes.length_bigEndian 2 sign), word?_append (Bytes.length_bigEndian 2 scale),
      hread hcount, hread hsign, hread hscale, hsigned, words?_flatMap hgs, hgroups]

end Numeric

/-! ## Whole numbers -/

namespace Decimal

/-- A number keeps its places. -/
theorem rescale_scale (d : Decimal) : d.rescale d.scale = d := by
  obtain ⟨negative, mantissa, scale⟩ := d
  unfold rescale
  by_cases hzero : (⟨negative, mantissa, scale⟩ : Decimal).isZero = true
  · have hm : mantissa = 0 := by simpa [isZero] using hzero
    rw [if_pos hzero, hm]
  · rw [if_neg hzero, if_neg (Nat.lt_irrefl scale), Nat.sub_self]
    rfl

/-- **The text of a whole number is its decimal form.** -/
theorem text_ofInt (n : Int) : (ofInt n).text = Text.integer n := by
  have hpos : 0 < (Text.natural n.natAbs).length := List.length_pos_iff.2 (Text.natural_ne_nil n.natAbs)
  have hpadded : Text.naturalPadded 1 n.natAbs = Text.natural n.natAbs := by
    have hnone : 1 - (Text.natural n.natAbs).length = 0 := by omega
    rw [Text.naturalPadded, hnone]
    rfl
  unfold text ofInt Text.integer
  simp only [Nat.zero_add, hpadded, Nat.sub_zero, List.take_length, if_true, decide_eq_true_eq]

end Decimal

namespace Numeric

open Decimal (limit maxScale)

/-- The weight of a whole number: how many groups follow its first one. -/
def weight (n : Nat) : Int := if n = 0 then 0 else ((groups n).length : Int) - 1

/-- A whole number is written as its groups. -/
theorem encode_ofInt (n : Int) :
    encode (Decimal.ofInt n) =
      frame (weight n.natAbs) (if n < 0 then negativeSign else 0) 0 (groups n.natAbs) := by
  by_cases hn : n = 0
  · subst hn
    rw [Int.natAbs_zero, weight, if_pos rfl, groups_zero]
    rfl
  · have hne : n.natAbs ≠ 0 := by omega
    have hzero : (Decimal.ofInt n).isZero = false := beq_false_of_ne hne
    have hgroups : 0 < (groups n.natAbs).length := by
      rw [groups_of_ne_zero hne, List.length_append, List.length_singleton]
      omega
    have hafter : (0 + 3) / 4 = 0 := rfl
    have hdigits : n.natAbs * pow10 (4 * 0 - 0) = n.natAbs := Nat.mul_one n.natAbs
    rw [encode, hzero, if_neg Bool.false_ne_true, weight, if_neg hne]
    -- there are no places, so that no group is cut off
    simp only [Decimal.ofInt, hafter, hdigits, if_pos hgroups, Nat.sub_zero, List.take_length,
      List.drop_length, dropZeros, List.reverse_nil, List.dropWhile_nil, List.append_nil, decide_eq_true_eq,
      Int.natCast_zero, Int.sub_zero]

/-- The groups of a whole number are read back. -/
theorem ofGroups?_groups {n : Nat} (h : n < limit) : ofGroups? (weight n) (groups n) = some ⟨false, n, 0⟩ := by
  by_cases hn : n = 0
  · rw [hn, weight, if_pos rfl, groups_zero]
    rfl
  · rw [weight, if_neg hn, ofGroups?_whole, foldlM_groups h, Option.bind_some, appendZeros?_zero h,
      Option.map_some]

/-- **A whole number is read as it is written.** -/
theorem decode_encode_ofInt {n : Int} (h : n.natAbs < limit) :
    decode (encode (Decimal.ofInt n)) = .ok (Decimal.ofInt n) := by
  have hcount : (groups n.natAbs).length ≤ 8 :=
    length_groups_le (Nat.lt_of_lt_of_le h (by decide))
  have hweight : -32768 ≤ weight n.natAbs ∧ weight n.natAbs < 32768 := by
    unfold weight
    split <;> omega
  have hgs : ∀ g ∈ groups n.natAbs, g < 65536 := fun g hg =>
    Nat.lt_trans (lt_of_mem_groups hg) (by decide)
  have hsign : (if n < 0 then negativeSign else 0) < 65536 := by
    split <;> decide
  have hnumber : isNoNumber (if n < 0 then negativeSign else 0) = false := by
    split <;> decide
  have hnegative : decide ((if n < 0 then negativeSign else 0) = negativeSign) = decide (n < 0) := by
    by_cases hn : n < 0
    · simp [hn]
    · simp [hn, negativeSign]
  rw [encode_ofInt, decode_frame hweight hsign (by decide) (by omega) hgs, hnumber,
    if_neg Bool.false_ne_true, ofGroups?_groups h]
  dsimp only
  rw [hnegative, Nat.zero_min]
  exact congrArg Except.ok (Decimal.rescale_scale (Decimal.ofInt n))

end Numeric

end CriteriaSql
