import CriteriaSql.Proofs.IntegerBinding
import Mathlib.Algebra.Order.Field.Rat
import Mathlib.Tactic.IntervalCases

/-!
# Binary numbers in columns of whole numbers

A binary number is written to a column of whole numbers as its own eight bytes. Columns of two and four bytes
cannot be decoded from them. A column of eight bytes can, and gives the word of the number as an integer. A word
grows with the exponent of its number where the number grows with the power of two, so the two agree nowhere but
at zero: near `2 ^ 62`, where they cross, no fraction closes the gap.

* `Binary64.toRat`: the exact value of a number.
* `Format.units_cases`: the magnitude words below two, up to `2 ^ 53` and above.
* `Binary64.toRat_eq_word`: the numbers whose word is their value.
* `float_bound_as_word`: what becomes of a binary number in each column of whole numbers.
-/

namespace CriteriaSql

namespace Floating

/-! ## Words and values -/

/-- The sign of a number with its units, of which `Format.binary64.one` make one. -/
def Binary64.signedUnits (x : Binary64) : Int := if x.isNegative then -(x.units : Int) else x.units

/-- The exact value of a finite number. -/
def Binary64.toRat (x : Binary64) : ℚ := x.signedUnits / Format.binary64.one

namespace Format

theorem unitShift_eq : binary64.unitShift = 1074 := rfl

theorem one_eq (f : Format) : f.one = 2 ^ f.unitShift := rfl

theorem one_pos (f : Format) : 0 < f.one := by
  rw [one_eq]
  exact Nat.two_pow_pos _

/-- The fields of a magnitude word. -/
theorem word_fields (w : Nat) : w = w / 2 ^ 52 * 2 ^ 52 + w % 2 ^ 52 ∧ w % 2 ^ 52 < 2 ^ 52 :=
  ⟨(Nat.div_add_mod' w _).symm, Nat.mod_lt w (by decide)⟩

theorem units_of_large {w : Nat} (h : 2 ^ 53 ≤ w) :
    binary64.units w = (2 ^ 52 + w % 2 ^ 52) * 2 ^ (w / 2 ^ 52 - 1) := if_neg (Nat.not_lt.2 h)

/-- **Magnitude words and their units**: the smallest numbers, which are counted in units; those up to `2 ^ 53`;
and those above, which are a significand times a power of two. -/
theorem units_cases (w : Nat) :
    (w < 2 ^ 53 ∧ binary64.units w = w) ∨
      (2 ^ 53 ≤ w ∧ w < 1076 * 2 ^ 52 ∧ binary64.units w < 2 ^ 53 * binary64.one) ∨
      ∃ d f, f < 2 ^ 52 ∧ w = (1076 + d) * 2 ^ 52 + f ∧
        binary64.units w = (2 ^ 52 + f) * 2 ^ (d + 1) * binary64.one := by
  obtain ⟨hsplit, hf⟩ := word_fields w
  by_cases hsmall : w < 2 ^ 53
  · exact .inl ⟨hsmall, if_pos hsmall⟩
  · have hlarge : 2 ^ 53 ≤ w := Nat.not_lt.1 hsmall
    have hunits := units_of_large hlarge
    generalize w / 2 ^ 52 = e at hsplit hunits
    generalize w % 2 ^ 52 = f at hsplit hf hunits
    right
    by_cases he : e ≤ 1075
    · left
      refine ⟨hlarge, by omega, ?_⟩
      have hexponent : e - 1 ≤ binary64.unitShift := by
        rw [unitShift_eq]
        omega
      have hpow : 2 ^ (e - 1) ≤ binary64.one := by
        rw [one_eq]
        exact Nat.pow_le_pow_right (by decide) hexponent
      calc binary64.units w = (2 ^ 52 + f) * 2 ^ (e - 1) := hunits
        _ ≤ (2 ^ 52 + f) * binary64.one := Nat.mul_le_mul_left _ hpow
        _ < 2 ^ 53 * binary64.one := Nat.mul_lt_mul_of_pos_right (by omega) (one_pos _)
    · right
      obtain ⟨d, rfl⟩ : ∃ d, e = 1076 + d := ⟨e - 1076, by omega⟩
      have hpow : 2 ^ (1076 + d - 1) = 2 ^ (d + 1) * binary64.one := by
        have hexponent : 1076 + d - 1 = (d + 1) + binary64.unitShift := by
          rw [unitShift_eq]
          omega
        rw [hexponent, Nat.pow_add, ← one_eq]
      exact ⟨d, f, hf, hsplit, by rw [hunits, hpow, Nat.mul_assoc]⟩

/-- A significand times a power of two outgrows the exponent field, unless the power is small. -/
theorem product_outgrows {d f v : Nat} (hv : (2 ^ 52 + f) * 2 ^ (d + 1) = v) :
    d < 10 ∨ 2 ^ 52 * (1078 + d) ≤ v := by
  by_cases hd : d < 10
  · exact .inl hd
  · obtain ⟨j, rfl⟩ : ∃ j, d = 10 + j := ⟨d - 10, by omega⟩
    have hj : j < 2 ^ j := Nat.lt_two_pow_self
    have hpow : 2 ^ (10 + j + 1) = 2048 * 2 ^ j := by
      have hexponent : 10 + j + 1 = 11 + j := by omega
      rw [hexponent, Nat.pow_add]
    have hlarge : 1078 + (10 + j) ≤ 2 ^ (10 + j + 1) := by omega
    exact .inr (hv ▸ Nat.mul_le_mul (Nat.le_add_right _ f) hlarge)

/-- **A positive word is not the value of its number.** -/
theorem units_ne_word {w : Nat} (h : w ≠ 0) : binary64.units w ≠ w * binary64.one := by
  intro heq
  have hone := one_pos binary64
  rcases units_cases w with ⟨hw, hunits⟩ | ⟨hlow, hhigh, hunits⟩ | ⟨d, f, hf, hw, hunits⟩
  · have hshift : binary64.unitShift ≠ 0 := by
      rw [unitShift_eq]
      decide
    have htwo : 2 ≤ binary64.one := by
      rw [one_eq]
      exact Nat.le_self_pow hshift 2
    have hmul : w * 2 ≤ w * binary64.one := Nat.mul_le_mul_left w htwo
    omega
  · have hlt : w < 2 ^ 53 := Nat.lt_of_mul_lt_mul_right (heq ▸ hunits)
    omega
  · have hvalue : (2 ^ 52 + f) * 2 ^ (d + 1) = (1076 + d) * 2 ^ 52 + f :=
      Nat.eq_of_mul_eq_mul_right hone (by rw [← hunits, ← hw, heq])
    -- few powers are left to be tried
    rcases product_outgrows hvalue with hd | hlarge
    · interval_cases d <;> omega
    · omega

/-- **The complement of a word is not the value of its number.** -/
theorem units_ne_complement {w c : Nat} (h : w + c = 2 ^ 63) (hw : w < binary64.infinity) :
    binary64.units w ≠ c * binary64.one := by
  intro heq
  have hone := one_pos binary64
  have hinfinity : binary64.infinity = 2047 * 2 ^ 52 := rfl
  rcases units_cases w with ⟨hw, hunits⟩ | ⟨hlow, hhigh, hunits⟩ | ⟨d, f, hf, hw, hunits⟩
  · have hmul : c * 1 ≤ c * binary64.one := Nat.mul_le_mul_left c hone
    omega
  · have hlt : c < 2 ^ 53 := Nat.lt_of_mul_lt_mul_right (heq ▸ hunits)
    omega
  · have hvalue : (2 ^ 52 + f) * 2 ^ (d + 1) = c :=
      Nat.eq_of_mul_eq_mul_right hone (by rw [← hunits, heq])
    -- few powers are left to be tried
    rcases product_outgrows hvalue with hd | hlarge
    · interval_cases d <;> omega
    · omega

end Format

namespace Binary64

/-! ## Numbers that are their own word -/

/-- A word as a signed integer. -/
theorem toInt_word (bits : UInt64) :
    bits.toInt64.toInt = if 2 * bits.toNat < 2 ^ 64 then (bits.toNat : Int) else bits.toNat - 2 ^ 64 :=
  BitVec.toInt_eq_toNat_cond bits.toBitVec

/-- A word is its magnitude, with the sign bit above it for a negative number. -/
theorem sign_cases (x : Binary64) :
    (x.isNegative = false ∧ x.bits.toNat = x.magnitude) ∨
      (x.isNegative = true ∧ x.bits.toNat = x.magnitude + 2 ^ 63) := by
  have hbit : Format.binary64.signBit = 2 ^ 63 := rfl
  have hlt : x.bits.toNat < 2 ^ 64 := x.bits.toNat_lt
  unfold isNegative magnitude
  rw [hbit]
  by_cases hsign : 2 ^ 63 ≤ x.bits.toNat
  · exact .inr ⟨decide_eq_true hsign, by omega⟩
  · exact .inl ⟨decide_eq_false hsign, by omega⟩

/-- The value of a number is an integer if its units are that many times those of one. -/
theorem toRat_eq_intCast {x : Binary64} {m : Int} :
    x.toRat = m ↔ x.signedUnits = m * Format.binary64.one := by
  have hone : (Format.binary64.one : ℚ) ≠ 0 := Nat.cast_ne_zero.2 (Format.one_pos _).ne'
  rw [toRat, div_eq_iff hone]
  exact_mod_cast Iff.rfl

/-- **Zero is the only number whose value is its word.** -/
theorem toRat_eq_word {x : Binary64} :
    (x.isFinite = true ∧ x.toRat = x.bits.toInt64.toInt) ↔ x.bits = 0 := by
  constructor
  · rintro ⟨hfinite, hvalue⟩
    have hmagnitude : x.magnitude < Format.binary64.infinity := of_decide_eq_true hfinite
    have hinfinity : Format.binary64.infinity = 2047 * 2 ^ 52 := rfl
    have hone := Format.one_pos Format.binary64
    have hword := toInt_word x.bits
    rw [toRat_eq_intCast, signedUnits, units] at hvalue
    obtain ⟨hsign, hbits⟩ | ⟨hsign, hbits⟩ := sign_cases x
    · rw [if_pos (by omega)] at hword
      rw [hsign, if_neg Bool.false_ne_true, hword, hbits] at hvalue
      by_contra hne
      have hpos : x.magnitude ≠ 0 := by
        intro h0
        rw [h0] at hbits
        exact hne (UInt64.toNat_inj.1 hbits)
      exact Format.units_ne_word hpos (by exact_mod_cast hvalue)
    -- the word of a negative number is the complement of its magnitude
    · obtain ⟨c, hc⟩ : ∃ c : Nat, x.magnitude + c = 2 ^ 63 := ⟨2 ^ 63 - x.magnitude, by omega⟩
      have hneg : x.bits.toInt64.toInt = -(c : Int) := by
        rw [hword, if_neg (by omega)]
        omega
      rw [hsign, if_pos rfl, hneg, Int.neg_mul, neg_inj] at hvalue
      exact absurd (by exact_mod_cast hvalue) (Format.units_ne_complement hc hmagnitude)
  · intro hbits
    obtain ⟨bits⟩ := x
    obtain rfl : bits = 0 := hbits
    refine ⟨by decide, toRat_eq_intCast.2 ?_⟩
    rw [show (0 : UInt64).toInt64.toInt = 0 by decide, Int.zero_mul]
    decide

end Binary64

end Floating

namespace Value

open Floating

/-! ## Columns of whole numbers -/

variable (x : Binary64)

/-- A binary number is written as its word. -/
theorem encode_float_whole {t : ColumnType} (ht : t ∈ ColumnType.wholeNumbers) :
    encode t (.float x) = .ok (some (encodeBinary64 x)) := by
  rcases ColumnType.mem_wholeNumbers.1 ht with rfl | rfl | rfl | rfl
  all_goals rfl

theorem length_encodeBinary64 : (encodeBinary64 x).length = 8 := Bytes.length_bigEndian 8 _

/-- **A shorter column is not decoded from a word.** -/
theorem decode_float_short {t : ColumnType} (ht : t ∈ ColumnType.wholeNumbers) (hshort : t ≠ .int8) :
    decode t (some (encodeBinary64 x)) = .error .wrongSize := by
  have hlong {size : Nat} (hsize : size < 8) :
      exactly size .wrongSize (encodeBinary64 x) = .error .wrongSize := by
    rw [exactly, length_encodeBinary64, if_neg (by omega), if_pos hsize]
  rcases ColumnType.mem_wholeNumbers.1 ht with rfl | rfl | rfl | rfl
  · rw [decode, decodeBytes, decodeInt, hlong (by decide), Result.map_error]
  · rw [decode, decodeBytes, decodeInt, hlong (by decide), Result.map_error]
  · exact absurd rfl hshort
  · rw [decode, decodeBytes, hlong (by decide), Result.map_error]

/-- **A column of eight bytes is decoded to the word as an integer.** -/
theorem decode_float_int8 : decode .int8 (some (encodeBinary64 x)) = .ok (.int x.bits.toInt64) := by
  have hsize : exactly 8 .wrongSize (encodeBinary64 x) = .ok (encodeBinary64 x) :=
    exactly_eq_ok.2 ⟨length_encodeBinary64 x, rfl⟩
  have hbound : pow2 (8 * 8) = 2 ^ 64 := rfl
  have hlt : x.bits.toNat < pow2 (8 * 8) := x.bits.toNat_lt
  have hword : Bytes.toInt (encodeBinary64 x) = x.bits.toInt64.toInt := by
    rw [Bytes.toInt, length_encodeBinary64, encodeBinary64, Bytes.toNat_bigEndian hlt, hbound,
      Binary64.toInt_word]
    rfl
  rw [decode, decodeBytes, decodeInt, hsize, Result.map_ok, hword, Int64.ofInt_toInt]

end Value

/-! ## The main result -/

/-- **A binary number is bound to a column of whole numbers as its word.** In the columns of two and four bytes
nothing is decoded from it. The column of eight bytes gives the word as an integer, and that is the exact value of
the number for zero without a sign, and for no other number. -/
theorem float_bound_as_word (x : Floating.Binary64) {t : ColumnType} (ht : t ∈ ColumnType.wholeNumbers) :
    ∃ raw, Value.encode t (.float x) = .ok (some raw) ∧
      (t ≠ .int8 → Value.decode t (some raw) = .error .wrongSize) ∧
      (t = .int8 → ∃ m : Int64, Value.decode t (some raw) = .ok (.int m) ∧
        ((x.isFinite = true ∧ x.toRat = m.toInt) ↔ x.bits = 0)) := by
  refine ⟨_, Value.encode_float_whole x ht, Value.decode_float_short x ht, ?_⟩
  rintro rfl
  exact ⟨_, Value.decode_float_int8 x, Floating.Binary64.toRat_eq_word⟩

/-- One in columns of four and of eight bytes. -/
theorem float_bound_as_word_one :
    let one : Floating.Binary64 := ⟨0x3FF0000000000000⟩
    (∃ raw, Value.encode .oid (.float one) = .ok (some raw) ∧ Value.decode .oid (some raw) = .error .wrongSize) ∧
      ∃ raw m, Value.encode .int8 (.float one) = .ok (some raw) ∧ Value.decode .int8 (some raw) = .ok (.int m) ∧
        ¬ (one.isFinite = true ∧ one.toRat = m.toInt) := by
  intro one
  constructor
  · obtain ⟨raw, hraw, hshort, -⟩ := @float_bound_as_word one .oid (by decide)
    exact ⟨raw, hraw, hshort (by decide)⟩
  · obtain ⟨raw, hraw, -, hlong⟩ := @float_bound_as_word one .int8 (by decide)
    obtain ⟨m, hm, hexact⟩ := hlong rfl
    exact ⟨raw, m, hraw, hm, fun h => absurd (hexact.1 h) (by decide)⟩

/-- One is bound to a column of eight bytes, and decoded to another integer. -/
theorem floats_not_all_exact :
    ¬ ∀ (x : Floating.Binary64) (t : ColumnType) (raw : Bytes) (m : Int64), t ∈ ColumnType.wholeNumbers →
      Value.encode t (.float x) = .ok (some raw) → Value.decode t (some raw) = .ok (.int m) →
      x.isFinite = true ∧ x.toRat = m.toInt := by
  intro hall
  have hone := hall ⟨0x3FF0000000000000⟩ .int8 _ _ (by decide) (Value.encode_float_whole _ (by decide))
    (Value.decode_float_int8 _)
  exact absurd (Floating.Binary64.toRat_eq_word.1 hone) (by decide)

end CriteriaSql
