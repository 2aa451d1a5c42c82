import CriteriaSql.Bytes
import Mathlib.Data.List.Induction
import Mathlib.Data.Nat.Basic

/-!
# Byte strings and what they stand for

A byte string is the number that it stands for, written in as many bytes as it has, with or without a sign;
and the bytes of a text are those that it was read from.

* `Bytes.bigEndian_toNat`, `Bytes.ofInt_toInt`: numbers.
* `Bytes.toNat_lt`, `Bytes.toInt_mem`: how large they are.
* `Bytes.toNat_bigEndian`, `Bytes.toInt_ofInt`: numbers that are written and read.
* `Bytes.ofText_toText?`, `Bytes.toText?_ofText`: texts.
-/

namespace CriteriaSql.Bytes

/-! ## Numbers -/

theorem toNat_append_singleton (bytes : Bytes) (b : UInt8) :
    toNat (bytes ++ [b]) = toNat bytes * 256 + b.toNat := by
  rw [toNat, List.foldl_append]
  rfl

theorem pow2_bytes (size : Nat) : pow2 (8 * (size + 1)) = 256 * pow2 (8 * size) := by
  change 2 ^ (8 * (size + 1)) = 256 * 2 ^ (8 * size)
  rw [Nat.mul_succ, Nat.pow_add, Nat.mul_comm]

theorem toNat_lt (bytes : Bytes) : toNat bytes < pow2 (8 * bytes.length) := by
  induction bytes using List.reverseRecOn with
  | nil => decide
  | append_singleton bytes b ih =>
    have hb := b.toNat_lt
    rw [toNat_append_singleton, List.length_append, List.length_singleton, pow2_bytes]
    omega

/-- **An unsigned number has one form in each size.** -/
theorem bigEndian_toNat {size : Nat} {bytes : Bytes} (h : bytes.length = size) :
    bigEndian size (toNat bytes) = bytes := by
  subst h
  induction bytes using List.reverseRecOn with
  | nil => rfl
  | append_singleton bytes b ih =>
    have hb := b.toNat_lt
    have hhigh : (toNat bytes * 256 + b.toNat) / 256 = toNat bytes := by omega
    have hlow : UInt8.ofNat (toNat bytes * 256 + b.toNat) = b := by
      apply UInt8.toNat_inj.1
      rw [UInt8.toNat_ofNat']
      omega
    rw [toNat_append_singleton, List.length_append, List.length_singleton, bigEndian, hhigh, hlow, ih]

/-- A signed number lies in the range of its size. -/
theorem toInt_mem (bytes : Bytes) :
    -(pow2 (8 * bytes.length) : Int) ≤ 2 * toInt bytes ∧ 2 * toInt bytes < pow2 (8 * bytes.length) := by
  have hlt := toNat_lt bytes
  unfold toInt
  dsimp only
  split <;> omega

/-- **A signed number has one form in each size.** -/
theorem ofInt_toInt {size : Nat} {bytes : Bytes} (h : bytes.length = size) :
    ofInt size (toInt bytes) = bytes := by
  subst h
  have hlt := toNat_lt bytes
  have hmod : (toInt bytes % pow2 (8 * bytes.length)).toNat = toNat bytes := by
    unfold toInt
    dsimp only
    split
    · rw [Int.emod_eq_of_lt (by omega) (by omega)]
      omega
    -- a negative number is its word less the bound
    · rw [Int.sub_emod_right, Int.emod_eq_of_lt (by omega) (by omega)]
      omega
  rw [ofInt, hmod, bigEndian_toNat rfl]

/-- A number without a sign is also the signed one, if that is not negative. -/
theorem toInt_of_nonneg {bytes : Bytes} (h : 0 ≤ toInt bytes) : toInt bytes = toNat bytes := by
  have hlt := toNat_lt bytes
  unfold toInt at h ⊢
  dsimp only at h ⊢
  split at h
  · exact if_pos ‹_›
  · omega

/-- An unsigned number is written by the same bytes as a signed one. -/
theorem ofInt_toNat {size : Nat} {bytes : Bytes} (h : bytes.length = size) :
    ofInt size (toNat bytes) = bytes := by
  subst h
  have hmod : ((toNat bytes : Int) % pow2 (8 * bytes.length)).toNat = toNat bytes := by
    rw [← Int.natCast_emod, Nat.mod_eq_of_lt (toNat_lt bytes), Int.toNat_natCast]
  rw [ofInt, hmod, bigEndian_toNat rfl]

/-! ## Numbers read as they are written -/

theorem length_bigEndian (size n : Nat) : (bigEndian size n).length = size := by
  induction size generalizing n with
  | zero => rfl
  | succ size ih => rw [bigEndian, List.length_append, ih, List.length_singleton]

theorem length_ofInt (size : Nat) (n : Int) : (ofInt size n).length = size :=
  length_bigEndian size _

/-- **A number that fits a size is read as it is written.** -/
theorem toNat_bigEndian {size n : Nat} (h : n < pow2 (8 * size)) : toNat (bigEndian size n) = n := by
  induction size generalizing n with
  | zero =>
    have h0 : n = 0 := Nat.lt_one_iff.1 h
    rw [h0]
    rfl
  | succ size ih =>
    have hhigh : n / 256 < pow2 (8 * size) := by
      rw [pow2_bytes] at h
      omega
    rw [bigEndian, toNat_append_singleton, ih hhigh, UInt8.toNat_ofNat']
    omega

/-- **A signed number that fits a size is read as it is written.** -/
theorem toInt_ofInt {size : Nat} {n : Int} (hlow : -(pow2 (8 * size) : Int) ≤ 2 * n)
    (hhigh : 2 * n < pow2 (8 * size)) : toInt (ofInt size n) = n := by
  have hpos : 0 < pow2 (8 * size) := Nat.two_pow_pos _
  have hword : (n % pow2 (8 * size)).toNat < pow2 (8 * size) := by
    have hmod := Int.emod_lt_of_pos n (Int.natCast_pos.2 hpos)
    omega
  have hread : toNat (ofInt size n) = (n % pow2 (8 * size)).toNat := toNat_bigEndian hword
  rw [toInt, hread, length_ofInt]
  by_cases hneg : n < 0
  -- a negative number is written as its word, which is the bound more
  · have hmod : n % pow2 (8 * size) = n + pow2 (8 * size) := by
      rw [← Int.add_emod_right, Int.emod_eq_of_lt (by omega) (by omega)]
    rw [hmod, if_neg (by omega)]
    omega
  · have hmod : n % pow2 (8 * size) = n := Int.emod_eq_of_lt (by omega) (by omega)
    rw [hmod, if_pos (by omega)]
    omega

/-! ## Texts -/

/-- The bytes of an array are read off from the front. -/
theorem toList_loop (bytes : ByteArray) (i : Nat) (read : List UInt8) :
    ByteArray.toList.loop bytes i read = read.reverse ++ bytes.data.toList.drop i := by
  induction i, read using ByteArray.toList.loop.induct bytes with
  | case1 i read hi ih =>
    have hlen : i < bytes.data.toList.length := hi
    have hget : bytes.get! i = bytes.data.toList[i] := getElem!_pos bytes.data i hi
    rw [ByteArray.toList.loop, if_pos hi, ih, List.drop_eq_getElem_cons hlen, hget, List.reverse_cons,
      List.append_assoc, List.singleton_append]
  | case2 i read hi =>
    have hlen : bytes.data.toList.length ≤ i := Nat.le_of_not_lt hi
    rw [ByteArray.toList.loop, if_neg hi, List.drop_eq_nil_of_le hlen, List.append_nil]

/-- **A text has the bytes that it was read from.** -/
theorem ofText_toText? {bytes : Bytes} {s : String} (h : toText? bytes = some s) : ofText s = bytes := by
  have hbytes : s.toUTF8 = ⟨bytes.toArray⟩ := by
    unfold toText? String.fromUTF8? at h
    split at h
    · rw [← Option.some.inj h]
      rfl
    · cases h
  rw [ofText, hbytes, ByteArray.toList, toList_loop]
  rfl

/-- **A text is read from its bytes.** -/
theorem toText?_ofText (s : String) : toText? (ofText s) = some s := by
  have hbytes : (⟨(ofText s).toArray⟩ : ByteArray) = s.toUTF8 := by
    rw [ofText, ByteArray.toList, toList_loop]
    rfl
  have hvalid : s.toUTF8.IsValidUTF8 := s.isValidUTF8
  unfold toText? String.fromUTF8?
  rw [hbytes, dif_pos hvalid]
  rfl

end CriteriaSql.Bytes
