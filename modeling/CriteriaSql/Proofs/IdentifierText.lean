import CriteriaSql.Identifier.Uuid
import Mathlib.Algebra.GroupWithZero.Nat

/-!
# Identifiers read as they are written

The written form of an identifier is read back to its bytes. It is none of the other accepted forms: it is
longer than the form without hyphens, and it begins with a digit, as no scheme and no brace does.

* `Text.hexBytes?_hexBytes`: digits and bytes.
* `Identifier.dehyphenate?_hyphenate`: hyphens go out where they were put in.
* `Identifier.read?_text`: the written form.
-/

namespace CriteriaSql

/-! ## Digits -/

namespace Text

theorem hexValue?_hexDigit : ∀ n < 16, hexValue? (hexDigit n) = some n := by decide

/-- **Bytes written as digits are read back.** -/
theorem hexBytes?_hexBytes (bytes : Bytes) : hexBytes? (hexBytes bytes) = some bytes := by
  induction bytes with
  | nil => rfl
  | cons b bytes ih =>
    have hb := b.toNat_lt
    have hback : UInt8.ofNat (b.toNat / 16 * 16 + b.toNat % 16) = b := by
      rw [Nat.div_add_mod']
      exact UInt8.ofNat_toNat
    rw [hexBytes, List.flatMap_cons, hexByte, List.cons_append, List.cons_append, List.nil_append, hexBytes?,
      hexValue?_hexDigit _ (by omega), hexValue?_hexDigit _ (by omega), ← hexBytes, ih]
    exact congrArg (fun b => some (b :: bytes)) hback

theorem length_hexBytes (bytes : Bytes) : (hexBytes bytes).length = 2 * bytes.length := by
  induction bytes with
  | nil => rfl
  | cons b bytes ih =>
    rw [hexBytes, List.flatMap_cons, List.length_append, ← hexBytes, ih, List.length_cons, hexByte]
    simp only [List.length_cons, List.length_nil]
    omega

/-- The first digit of bytes. -/
theorem exists_hexBytes {bytes : Bytes} (h : bytes ≠ []) :
    ∃ n < 16, ∃ rest, hexBytes bytes = hexDigit n :: rest := by
  obtain ⟨b, bytes, rfl⟩ := List.exists_cons_of_ne_nil h
  have hb := b.toNat_lt
  exact ⟨b.toNat / 16, by omega, _, rfl⟩

end Text

namespace Identifier

/-! ## Hyphens -/

/-- **Hyphens are taken out where they were put in.** -/
theorem dehyphenate?_hyphenate {sizes : List Nat} {cs : List Char} (h : cs.length = sizes.sum) :
    dehyphenate? sizes (hyphenate sizes cs) = some cs := by
  induction sizes generalizing cs with
  | nil =>
    have hcs : cs = [] := List.eq_nil_of_length_eq_zero h
    simp [hyphenate, dehyphenate?, hcs]
  | cons n sizes ih =>
    rw [List.sum_cons] at h
    cases sizes with
    | nil =>
      have hl : cs.length = n := by simpa using h
      simp [hyphenate, dehyphenate?, hl]
    | cons m sizes =>
      have hl : (cs.take n).length = n := by
        rw [List.length_take]
        omega
      have hrest : (cs.drop n).length = (m :: sizes).sum := by
        rw [List.length_drop]
        omega
      have htake : (cs.take n ++ '-' :: hyphenate (m :: sizes) (cs.drop n)).take n = cs.take n :=
        List.take_left' hl
      have hdrop : (cs.take n ++ '-' :: hyphenate (m :: sizes) (cs.drop n)).drop n =
          '-' :: hyphenate (m :: sizes) (cs.drop n) := List.drop_left' hl
      rw [hyphenate, dehyphenate?, hdrop, htake]
      · simp only [ih hrest, Option.map_some, List.take_append_drop]
      · simp
      · simp

theorem length_hyphenate {sizes : List Nat} {cs : List Char} (h : cs.length = sizes.sum) :
    (hyphenate sizes cs).length = cs.length + (sizes.length - 1) := by
  induction sizes generalizing cs with
  | nil => rfl
  | cons n sizes ih =>
    rw [List.sum_cons] at h
    cases sizes with
    | nil => rfl
    | cons m sizes =>
      have hrest : (cs.drop n).length = (m :: sizes).sum := by
        rw [List.length_drop]
        omega
      rw [hyphenate, List.length_append, List.length_cons, ih hrest, List.length_take, List.length_drop]
      · simp only [List.length_cons]
        omega
      · simp

/-! ## The written form -/

/-- **An identifier is read back.** -/
theorem read?_text {bytes : Bytes} (h : bytes.length = byteCount) : read? (text bytes) = some bytes := by
  have hne : bytes ≠ [] := List.ne_nil_of_length_pos (by rw [h]; decide)
  have hsum : (Text.hexBytes bytes).length = groups.sum := by
    rw [Text.length_hexBytes, h]
    rfl
  obtain ⟨n, hn, rest, hhead⟩ := Text.exists_hexBytes hne
  have htext : ∃ more, text bytes = Text.hexDigit n :: more := by
    rw [text, hhead]
    exact ⟨_, rfl⟩
  obtain ⟨more, hmore⟩ := htext
  have hlength : (text bytes).length ≠ 2 * byteCount := by
    rw [text, length_hyphenate hsum, hsum]
    decide
  have hscheme : ((text bytes).take scheme.length).map Char.toLower ≠ scheme := by
    have hu : ∀ n < 16, (Text.hexDigit n).toLower ≠ 'u' := by decide
    rw [hmore]
    exact fun he => hu n hn (List.cons.inj he).1
  have hbrace : ¬ ((text bytes).head? = some '\x7b' ∧ (text bytes).getLast? = some '\x7d') := by
    have hb : ∀ n < 16, Text.hexDigit n ≠ '\x7b' := by decide
    rw [hmore]
    exact fun he => hb n hn (Option.some.inj he.1)
  rw [read?, digits?, if_neg hlength, if_neg hscheme, if_neg hbrace, text, dehyphenate?_hyphenate hsum,
    Option.bind_some, Text.hexBytes?_hexBytes]

end Identifier

end CriteriaSql
