import CriteriaSql.Proofs.DecimalColumn
import CriteriaSql.Proofs.IntegerText
import CriteriaSql.Proofs.Restoration

/-!
# Integers in columns

A column of whole numbers takes an integer if it has room for it, and refuses it otherwise; what it has taken is
decoded to the same integer. Decimals and texts have room for all integers, and the view of what they hold is
the integer again. A text that is the decimal form of an integer, with or without blanks around it, is bound as
the integer itself.

* `ColumnType.Holds`: the integers that a column of whole numbers has room for.
* `encode_int_held`, `encode_int_refused`: those that are taken, and all others.
* `encode_int_numeric`, `encode_int_text`: the columns that take every integer.
* `encode_integer_text`: decimal forms.
* `integers_survive_binding`: all of it.
-/

namespace CriteriaSql

namespace ColumnType

/-- The columns of whole numbers. -/
def wholeNumbers : List ColumnType := [.int2, .int4, .int8, .oid]

theorem mem_wholeNumbers {t : ColumnType} :
    t ∈ wholeNumbers ↔ t = .int2 ∨ t = .int4 ∨ t = .int8 ∨ t = .oid := by
  simp only [wholeNumbers, List.mem_cons, List.not_mem_nil, or_false]

/-- The integers that a column of whole numbers has room for. -/
def Holds (t : ColumnType) (n : Int) : Prop :=
  match t with
  | .int2 => -2 ^ 15 ≤ n ∧ n < 2 ^ 15
  | .int4 => -2 ^ 31 ≤ n ∧ n < 2 ^ 31
  | .int8 => -2 ^ 63 ≤ n ∧ n < 2 ^ 63
  | .oid => 0 ≤ n ∧ n < 2 ^ 32
  | _ => False

end ColumnType

namespace Value

variable {t : ColumnType} (n : Int64)

/-! ## Columns of whole numbers -/

/-- An integer that fits a signed column is decoded from its bytes. -/
theorem decodeInt_ofInt (size : Nat) (hlow : -(pow2 (8 * size) : Int) ≤ 2 * n.toInt)
    (hhigh : 2 * n.toInt < pow2 (8 * size)) :
    decodeInt size (Bytes.ofInt size n.toInt) = .ok (.int n) := by
  have hsize : exactly size .wrongSize (Bytes.ofInt size n.toInt) = .ok (Bytes.ofInt size n.toInt) :=
    exactly_eq_ok.2 ⟨Bytes.length_ofInt size n.toInt, rfl⟩
  rw [decodeInt, hsize, Result.map_ok, Bytes.toInt_ofInt hlow hhigh, Int64.ofInt_toInt]

/-- An integer that fits an unsigned column is decoded from its bytes. -/
theorem decode_oid_ofInt (hlow : 0 ≤ n.toInt) (hhigh : n.toInt < pow2 (8 * 4)) :
    decode .oid (some (Bytes.ofInt 4 n.toInt)) = .ok (.int n) := by
  have hsize : exactly 4 .wrongSize (Bytes.ofInt 4 n.toInt) = .ok (Bytes.ofInt 4 n.toInt) :=
    exactly_eq_ok.2 ⟨Bytes.length_ofInt 4 n.toInt, rfl⟩
  have hword : n.toInt % pow2 (8 * 4) = n.toInt := Int.emod_eq_of_lt hlow hhigh
  have hvalue : (Bytes.toNat (Bytes.ofInt 4 n.toInt) : Int) = n.toInt := by
    rw [Bytes.ofInt, hword, Bytes.toNat_bigEndian (by omega), Int.toNat_of_nonneg hlow]
  rw [decode, decodeBytes, hsize, Result.map_ok, hvalue, Int64.ofInt_toInt]

theorem encodeWithin_held {size : Nat} {low high k : Int} (h : low ≤ k ∧ k ≤ high) :
    encodeWithin size low high k = .ok (Bytes.ofInt size k) := if_pos h

theorem encodeWithin_refused {size : Nat} {low high k : Int} (h : ¬ (low ≤ k ∧ k ≤ high)) :
    encodeWithin size low high k = .error .integerRange := if_neg h

/-- **An integer that a column has room for is taken, and decoded again.** -/
theorem encode_int_held (h : t.Holds n.toInt) :
    ∃ raw, encode t (.int n) = .ok (some raw) ∧ decode t (some raw) = .ok (.int n) := by
  have hbound2 : pow2 (8 * 2) = 65536 := rfl
  have hbound4 : pow2 (8 * 4) = 4294967296 := rfl
  have hbound8 : pow2 (8 * 8) = 18446744073709551616 := rfl
  cases t with
  | int2 =>
    obtain ⟨hlow, hhigh⟩ : -32768 ≤ n.toInt ∧ n.toInt < 32768 := h
    have hback := decodeInt_ofInt n 2 (by omega) (by omega)
    refine ⟨Bytes.ofInt 2 n.toInt, ?_, hback⟩
    rw [encode, encodeInt, encodeWithin_held (by omega), Result.map_ok]
  | int4 =>
    obtain ⟨hlow, hhigh⟩ : -2147483648 ≤ n.toInt ∧ n.toInt < 2147483648 := h
    have hback := decodeInt_ofInt n 4 (by omega) (by omega)
    refine ⟨Bytes.ofInt 4 n.toInt, ?_, hback⟩
    rw [encode, encodeInt, encodeWithin_held (by omega), Result.map_ok]
  | int8 =>
    obtain ⟨hlow, hhigh⟩ : -9223372036854775808 ≤ n.toInt ∧ n.toInt < 9223372036854775808 := h
    have hback := decodeInt_ofInt n 8 (by omega) (by omega)
    exact ⟨Bytes.ofInt 8 n.toInt, rfl, hback⟩
  | oid =>
    obtain ⟨hlow, hhigh⟩ : 0 ≤ n.toInt ∧ n.toInt < 4294967296 := h
    refine ⟨Bytes.ofInt 4 n.toInt, ?_, decode_oid_ofInt n hlow (by omega)⟩
    rw [encode, encodeInt, encodeWithin_held (by omega), Result.map_ok]
  | _ => exact h.elim

/-- Every 64-bit integer has room in a column of 64 bits. -/
theorem holds_int8 : ColumnType.int8.Holds n.toInt := ⟨n.le_toInt, n.toInt_lt⟩

/-- **An integer that a column has no room for is refused.** -/
theorem encode_int_refused (ht : t ∈ ColumnType.wholeNumbers) (h : ¬ t.Holds n.toInt) :
    encode t (.int n) = .error .integerRange := by
  rcases ColumnType.mem_wholeNumbers.1 ht with rfl | rfl | rfl | rfl
  · have hrange : ¬ (-32768 ≤ n.toInt ∧ n.toInt < 32768) := h
    rw [encode, encodeInt, encodeWithin_refused (by omega), Result.map_error]
  · have hrange : ¬ (-2147483648 ≤ n.toInt ∧ n.toInt < 2147483648) := h
    rw [encode, encodeInt, encodeWithin_refused (by omega), Result.map_error]
  · exact absurd (holds_int8 n) h
  · have hrange : ¬ (0 ≤ n.toInt ∧ n.toInt < 4294967296) := h
    rw [encode, encodeInt, encodeWithin_refused (by omega), Result.map_error]

/-! ## Columns with room for every integer -/

theorem natAbs_lt_limit : n.toInt.natAbs < Decimal.limit := by
  have hlow : -9223372036854775808 ≤ n.toInt := n.le_toInt
  have hhigh : n.toInt < 9223372036854775808 := n.toInt_lt
  have hlimit : Decimal.limit = 79228162514264337593543950336 := rfl
  omega

/-- **A decimal column takes every integer**, and gives back its decimal form. -/
theorem encode_int_numeric : ∃ raw, encode .numeric (.int n) = .ok (some raw) ∧
    decode .numeric (some raw) = .ok (.text (String.ofList (Text.integer n.toInt))) := by
  refine ⟨Numeric.encode (Decimal.ofInt n.toInt), rfl, ?_⟩
  rw [decode, decodeBytes, Numeric.decode_encode_ofInt (natAbs_lt_limit n), Result.map_ok, Decimal.text_ofInt]

/-- **A text column takes every integer** in its decimal form. -/
theorem encode_int_text (ht : t = .text ∨ t = .varchar) : ∃ raw, encode t (.int n) = .ok (some raw) ∧
    decode t (some raw) = .ok (.text (String.ofList (Text.integer n.toInt))) := by
  have hread (s : String) : decodeText (Bytes.ofText s) = .ok s := by
    rw [decodeText, Bytes.toText?_ofText]
  refine ⟨Bytes.ofText (String.ofList (Text.integer n.toInt)), ?_, ?_⟩
  · rcases ht with rfl | rfl
    · rfl
    · rfl
  · rcases ht with rfl | rfl
    · rw [decode, decodeBytes, hread, Result.map_ok]
    · rw [decode, decodeBytes, hread, Result.map_ok]

/-! ## Decimal forms -/

variable {before after : List Char}

theorem encode_text (t : ColumnType) (s : String) : encode t (.text s) = (encodeTextAs t s).map some := rfl

theorem encode_int (t : ColumnType) : encode t (.int n) = (encodeInt t n.toInt).map some := rfl

/-- **The decimal form of an integer is bound as the integer**, whatever blanks stand around it. -/
theorem encode_integer_text (hbefore : ∀ c ∈ before, Text.isBlank c = true)
    (hafter : ∀ c ∈ after, Text.isBlank c = true) (ht : t ∈ .numeric :: ColumnType.wholeNumbers) :
    encode t (.text (String.ofList (before ++ Text.integer n.toInt ++ after))) = encode t (.int n) := by
  have htrim := Text.trim_integer n.toInt hbefore hafter
  have hwhole : orError .integerText (Text.int64? (Text.integer n.toInt)) = .ok n.toInt := by
    rw [Text.int64?_integer, orError]
  have hdecimal : orError .decimal (Decimal.read? (Text.integer n.toInt)) = .ok (Decimal.ofInt n.toInt) := by
    rw [Decimal.read?_integer (natAbs_lt_limit n), orError]
  rw [List.mem_cons, ColumnType.mem_wholeNumbers] at ht
  rw [encode_text, encode_int]
  rcases ht with rfl | rfl | rfl | rfl | rfl
  · rw [encodeTextAs, String.toList_ofList, htrim, hdecimal, Result.map_ok, encodeInt]
  all_goals rw [encodeTextAs, String.toList_ofList, htrim, hwhole, Result.bind_ok]

end Value

/-! ## The main result -/

/-- **Integers survive binding exactly or are refused.** A column of whole numbers takes the integers that it
has room for and decodes them again; it refuses all others as out of range. Decimals and texts take every
integer, and its view comes back. The decimal form of an integer, with any blanks around it, is bound to a column
of numbers as the integer is: with the same bytes, or with the same refusal. -/
theorem integers_survive_binding (n : Int64) :
    ColumnType.int8.Holds n.toInt ∧
    (∀ t ∈ ColumnType.wholeNumbers,
      (t.Holds n.toInt → ∃ raw, Value.encode t (.int n) = .ok (some raw) ∧
        Value.decode t (some raw) = .ok (.int n)) ∧
      (¬ t.Holds n.toInt → Value.encode t (.int n) = .error .integerRange)) ∧
    (∀ t ∈ [ColumnType.numeric, .text, .varchar], ∃ raw v, Value.encode t (.int n) = .ok (some raw) ∧
      Value.decode t (some raw) = .ok v ∧ v.int? = some n) ∧
    ∀ before after : List Char, (∀ c ∈ before, Text.isBlank c = true) →
      (∀ c ∈ after, Text.isBlank c = true) → ∀ t ∈ ColumnType.numeric :: ColumnType.wholeNumbers,
        Value.encode t (.text (String.ofList (before ++ Text.integer n.toInt ++ after))) =
          Value.encode t (.int n) := by
  refine ⟨Value.holds_int8 n, fun t ht => ?_, fun t ht => ?_, fun before after hbefore hafter t ht => ?_⟩
  · exact ⟨Value.encode_int_held n, Value.encode_int_refused n ht⟩
  · have hview := Value.int?_integer n
    simp only [List.mem_cons, List.not_mem_nil, or_false] at ht
    rcases ht with rfl | ht
    · obtain ⟨raw, hraw, hback⟩ := Value.encode_int_numeric n
      exact ⟨raw, _, hraw, hback, hview⟩
    · obtain ⟨raw, hraw, hback⟩ := Value.encode_int_text n ht
      exact ⟨raw, _, hraw, hback, hview⟩
  · exact Value.encode_integer_text n hbefore hafter ht

/-- The least integer of 64 bits, the first one above 16 bits, the last one below zero, and a decimal form between
an ideographic space and a line feed. -/
theorem integers_survive_binding_extremes :
    (∃ raw v, Value.encode .numeric (.int Int64.minValue) = .ok (some raw) ∧
      Value.decode .numeric (some raw) = .ok v ∧ v.int? = some Int64.minValue) ∧
    Value.encode .int2 (.int 32768) = .error .integerRange ∧
    Value.encode .oid (.int (-1)) = .error .integerRange ∧
    (∃ raw, Value.encode .oid (.int 4294967295) = .ok (some raw) ∧
      Value.decode .oid (some raw) = .ok (.int 4294967295)) ∧
    Value.encode .int2 (.text "\u3000-32768\n") = Value.encode .int2 (.int (-32768)) := by
  refine ⟨?_, ?_, ?_, ?_, ?_⟩
  · exact (integers_survive_binding Int64.minValue).2.2.1 .numeric (by decide)
  · exact ((integers_survive_binding 32768).2.1 .int2 (by decide)).2 fun h => absurd h.2 (by decide)
  · exact ((integers_survive_binding (-1)).2.1 .oid (by decide)).2 fun h => absurd h.1 (by decide)
  · exact ((integers_survive_binding 4294967295).2.1 .oid (by decide)).1 ⟨by decide, by decide⟩
  · have hspace : ∀ c ∈ ['\u3000'], Text.isBlank c = true := List.forall_mem_singleton.2 rfl
    have hfeed : ∀ c ∈ ['\n'], Text.isBlank c = true := List.forall_mem_singleton.2 rfl
    exact (integers_survive_binding (-32768)).2.2.2 ['\u3000'] ['\n'] hspace hfeed .int2 (by decide)

end CriteriaSql
