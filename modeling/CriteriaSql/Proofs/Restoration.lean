import CriteriaSql.Column.Decode
import CriteriaSql.Column.Encode
import CriteriaSql.Proofs.ByteString
import CriteriaSql.Proofs.CalendarText
import CriteriaSql.Proofs.IdentifierText
import CriteriaSql.Proofs.Result

/-!
# Decoded columns written back

What a column is decoded to is written back, to a parameter of the column's type, as the bytes that were
decoded. Numbers keep their value and size, texts their bytes, and identifiers, dates and times have written
forms that are read back. Moments with an offset are the exception: their reader takes years of four digits
only, and refuses what the decoder writes for all others.

* `exactly_eq_ok`: the columns of a fixed size.
* `encode_decoded_int`, `encode_decoded_text`, `encode_decoded_date` and others: type by type.
* `decoded_columns_restored`: the types whose columns are all written back.
* `zoned_moments_restored`: the moments with an offset that are.
-/

namespace CriteriaSql

namespace Value

open Calendar

variable {raw : Bytes} {v : Value}

/-! ## Numbers -/

/-- A column of a fixed size is all its bytes. -/
theorem exactly_eq_ok {size : Nat} {excess : CodecError} {bytes : Bytes} :
    exactly size excess raw = .ok bytes ↔ raw.length = size ∧ bytes = raw := by
  unfold exactly
  by_cases hshort : raw.length < size
  · simp only [if_pos hshort, reduceCtorEq, false_iff]
    omega
  · rw [if_neg hshort]
    by_cases hlong : size < raw.length
    · simp only [if_pos hlong, reduceCtorEq, false_iff]
      omega
    · have hsize : raw.length = size := by omega
      simp [hsize, eq_comm]

theorem decodeInt_eq_ok {size : Nat} (h : decodeInt size raw = .ok v) :
    raw.length = size ∧ v = .int (Int64.ofInt (Bytes.toInt raw)) := by
  obtain ⟨bytes, hbytes, rfl⟩ := Result.map_eq_ok.1 h
  obtain ⟨hsize, rfl⟩ := exactly_eq_ok.1 hbytes
  exact ⟨hsize, rfl⟩

/-- A decoded integer has the value of its bytes. -/
theorem toInt_decoded (h : raw.length ≤ 8) :
    (Int64.ofInt (Bytes.toInt raw)).toInt = Bytes.toInt raw := by
  obtain ⟨hlow, hhigh⟩ := Bytes.toInt_mem raw
  have hbound : pow2 (8 * raw.length) ≤ 2 ^ 64 := Nat.pow_le_pow_right (by decide) (by omega)
  exact Int64.toInt_ofInt_of_le (by omega) (by omega)

/-- **An integer column is written back.** -/
theorem encode_decoded_int {t : ColumnType} (ht : t = .int2 ∨ t = .int4 ∨ t = .int8)
    (h : decode t (some raw) = .ok v) : encode t v = .ok (some raw) := by
  have hbounds := Bytes.toInt_mem raw
  rcases ht with rfl | rfl | rfl
  all_goals
    obtain ⟨hsize, rfl⟩ := decodeInt_eq_ok h
    have hback := Bytes.ofInt_toInt hsize
    rw [hsize] at hbounds
    rw [encode, toInt_decoded (by omega)]
  -- a short integer lies in the range of its size
  · have hbound : pow2 (8 * 2) = 65536 := rfl
    rw [encodeInt, encodeWithin, if_pos (by omega), hback, Result.map_ok]
  · have hbound : pow2 (8 * 4) = 4294967296 := rfl
    rw [encodeInt, encodeWithin, if_pos (by omega), hback, Result.map_ok]
  · change Except.ok (some (Bytes.ofInt 8 (Bytes.toInt raw))) = _
    rw [hback]

/-- **An object identifier is written back.** -/
theorem encode_decoded_oid (h : decode .oid (some raw) = .ok v) : encode .oid v = .ok (some raw) := by
  obtain ⟨bytes, hbytes, rfl⟩ := Result.map_eq_ok.1 h
  obtain ⟨hsize, rfl⟩ := exactly_eq_ok.1 hbytes
  have hlt := Bytes.toNat_lt bytes
  have hbound : pow2 (8 * 4) = 4294967296 := rfl
  rw [hsize] at hlt
  have hvalue : (Int64.ofInt (Bytes.toNat bytes)).toInt = Bytes.toNat bytes :=
    Int64.toInt_ofInt_of_le (by omega) (by omega)
  rw [encode, hvalue, encodeInt, encodeWithin, if_pos (by omega), Bytes.ofInt_toNat hsize, Result.map_ok]

/-! ## Texts and identifiers -/

theorem decodeText_eq_ok {s : String} (h : decodeText raw = .ok s) : Bytes.ofText s = raw := by
  unfold decodeText at h
  split at h
  · next hs =>
    cases h
    exact Bytes.ofText_toText? hs
  · cases h

/-- **A text column is written back.** -/
theorem encode_decoded_text {t : ColumnType} (ht : t = .text ∨ t = .varchar ∨ t = .bpchar ∨ t = .name)
    (h : decode t (some raw) = .ok v) : encode t v = .ok (some raw) := by
  rcases ht with rfl | rfl | rfl | rfl
  all_goals
    obtain ⟨s, hs, rfl⟩ := Result.map_eq_ok.1 h
    rw [← decodeText_eq_ok hs]
    rfl

/-- **An identifier is written back.** -/
theorem encode_decoded_uuid (h : decode .uuid (some raw) = .ok v) : encode .uuid v = .ok (some raw) := by
  rw [decode, decodeBytes] at h
  split at h
  · next hsize =>
    cases h
    rw [encode, encodeTextAs, String.toList_ofList, Identifier.read?_text hsize]
    rfl
  · cases h

/-! ## Dates and times -/

/-- **A date is written back.** -/
theorem encode_decoded_date (h : decode .date (some raw) = .ok v) : encode .date v = .ok (some raw) := by
  obtain ⟨bytes, hbytes, hdate⟩ := Result.bind_eq_ok.1 h
  obtain ⟨hsize, rfl⟩ := exactly_eq_ok.1 hbytes
  dsimp only at hdate
  split at hdate
  · next hrange =>
    cases hdate
    rw [encode, encodeTextAs, String.toList_ofList, date?_dateText hrange]
    exact congrArg (fun bytes => Except.ok (some bytes)) (Bytes.ofInt_toInt hsize)
  · cases hdate

/-- **A time of day is written back** within one day: the decoder goes round at midnight. -/
theorem encode_decoded_time (h : decode .time (some raw) = .ok v) :
    encode .time v = .ok (some (Bytes.bigEndian 8 (Bytes.toInt raw % microsPerDay).toNat)) := by
  obtain ⟨bytes, hbytes, rfl⟩ := Result.map_eq_ok.1 h
  obtain ⟨-, rfl⟩ := exactly_eq_ok.1 hbytes
  have ht := timeOfDay_lt (Bytes.toInt bytes)
  rw [encode, encodeTextAs, String.toList_ofList, clock?_clockText ht, orError, Result.map_ok, Result.map_ok,
    Nat.mul_div_cancel _ (by decide)]

theorem encode_decoded_time_of_day (h : decode .time (some raw) = .ok v) (h0 : 0 ≤ Bytes.toInt raw)
    (hday : Bytes.toInt raw < microsPerDay) : encode .time v = .ok (some raw) := by
  obtain ⟨bytes, hbytes, -⟩ := Result.map_eq_ok.1 h
  obtain ⟨hsize, -⟩ := exactly_eq_ok.1 hbytes
  rw [encode_decoded_time h, Int.emod_eq_of_lt h0 hday, Bytes.toInt_of_nonneg h0, Int.toNat_natCast,
    Bytes.bigEndian_toNat hsize]

/-- What a moment is decoded to. -/
theorem decodeMoment_eq_ok {separator : Char} {suffix : String}
    (h : decodeMoment separator suffix raw = .ok v) :
    raw.length = 8 ∧ Date.inRange (Bytes.toInt raw / microsPerDay) = true ∧
      v = .text (String.ofList (momentText separator (Bytes.toInt raw)) ++ suffix) := by
  obtain ⟨bytes, hbytes, hmoment⟩ := Result.bind_eq_ok.1 h
  obtain ⟨hsize, rfl⟩ := exactly_eq_ok.1 hbytes
  dsimp only at hmoment
  split at hmoment
  · next hrange =>
    cases hmoment
    exact ⟨hsize, hrange, rfl⟩
  · cases hmoment

/-- **A moment is written back.** -/
theorem encode_decoded_timestamp (h : decode .timestamp (some raw) = .ok v) :
    encode .timestamp v = .ok (some raw) := by
  obtain ⟨hsize, hrange, rfl⟩ := decodeMoment_eq_ok h
  rw [encode, encodeTextAs, String.append_empty, String.toList_ofList, timestamp?_momentText hrange]
  exact congrArg (fun bytes => Except.ok (some bytes)) (Bytes.ofInt_toInt hsize)

/-- A moment with an offset is read back where its year has four digits. -/
theorem encode_decoded_timestamptz (h : decode .timestamptz (some raw) = .ok v)
    (hplain : HasPlainYear (Bytes.toInt raw)) : encode .timestamptz v = .ok (some raw) := by
  obtain ⟨hsize, -, rfl⟩ := decodeMoment_eq_ok h
  rw [encode, encodeTextAs, String.toList_append, String.toList_ofList, internet?_momentText hplain]
  exact congrArg (fun bytes => Except.ok (some bytes)) (Bytes.ofInt_toInt hsize)

/-- A moment with an offset is refused where its year has a sign. -/
theorem encode_decoded_timestamptz_signed (h : decode .timestamptz (some raw) = .ok v)
    (hsigned : ¬ HasPlainYear (Bytes.toInt raw)) : encode .timestamptz v = .error .calendar := by
  obtain ⟨-, -, rfl⟩ := decodeMoment_eq_ok h
  rw [encode, encodeTextAs, String.toList_append, String.toList_ofList, internet?_signed hsigned]
  rfl

end Value

/-! ## The main results -/

/-- **Decoded columns are written back.** For integers, object identifiers, unique identifiers, texts, dates
and moments, and for times within a day, the value that a column is decoded to is written to a parameter of
the column's type, and as the bytes of the column. -/
theorem decoded_columns_restored {t : ColumnType} {raw : Bytes} {v : Value}
    (ht : t ∈ [.int2, .int4, .int8, .oid, .uuid, .text, .varchar, .bpchar, .name, .date, .timestamp] ∨
      t = .time ∧ 0 ≤ Bytes.toInt raw ∧ Bytes.toInt raw < 86400000000)
    (h : Value.decode t (some raw) = .ok v) : Value.encode t v = .ok (some raw) := by
  rcases ht with ht | ⟨rfl, h0, hday⟩
  · simp only [List.mem_cons, List.not_mem_nil, or_false] at ht
    rcases ht with rfl | rfl | rfl | rfl | rfl | rfl | rfl | rfl | rfl | rfl | rfl
    · exact Value.encode_decoded_int (.inl rfl) h
    · exact Value.encode_decoded_int (.inr (.inl rfl)) h
    · exact Value.encode_decoded_int (.inr (.inr rfl)) h
    · exact Value.encode_decoded_oid h
    · exact Value.encode_decoded_uuid h
    · exact Value.encode_decoded_text (.inl rfl) h
    · exact Value.encode_decoded_text (.inr (.inl rfl)) h
    · exact Value.encode_decoded_text (.inr (.inr (.inl rfl))) h
    · exact Value.encode_decoded_text (.inr (.inr (.inr rfl))) h
    · exact Value.encode_decoded_date h
    · exact Value.encode_decoded_timestamp h
  · exact Value.encode_decoded_time_of_day h h0 hday

theorem decoded_columns_restored_extremes :
    -- -262143-01-01, the last microsecond before 2000-01-01, and the last one of a day
    Value.encode .date (.text "-262143-01-01") = .ok (some [250, 63, 227, 167]) ∧
      Value.encode .timestamp (.text "1999-12-31 23:59:59.999999") = .ok (some (List.replicate 8 255)) ∧
      Value.encode .time (.text "23:59:59.999999") = .ok (some [0, 0, 0, 20, 29, 215, 95, 255]) ∧
      Value.encode .uuid (.text "00010203-0405-0607-0809-0a0b0c0d0eff") =
        .ok (some [0, 1, 2, 3, 4, 5, 6, 7, 8, 9, 10, 11, 12, 13, 14, 255]) :=
  ⟨decoded_columns_restored (.inl (by decide)) rfl, decoded_columns_restored (.inl (by decide)) rfl,
    decoded_columns_restored (.inr ⟨rfl, by decide, by decide⟩) rfl,
    decoded_columns_restored (.inl (by decide)) rfl⟩

/-- **Decoded moments with an offset are written back exactly in the years 0 to 9999.** The years before and
after them are decoded to a text with a sign, which the strict reader refuses. -/
theorem zoned_moments_restored {raw : Bytes} {v : Value} (h : Value.decode .timestamptz (some raw) = .ok v) :
    (Calendar.HasPlainYear (Bytes.toInt raw) → Value.encode .timestamptz v = .ok (some raw)) ∧
      (¬ Calendar.HasPlainYear (Bytes.toInt raw) → Value.encode .timestamptz v = .error .calendar) :=
  ⟨Value.encode_decoded_timestamptz h, Value.encode_decoded_timestamptz_signed h⟩

theorem zoned_moments_restored_year_end :
    Value.encode .timestamptz (.text "9999-12-31T23:59:59.999999+00:00") =
        .ok (some [3, 128, 231, 11, 145, 59, 127, 255]) ∧
      Value.encode .timestamptz (.text "+10000-01-01T00:00:00+00:00") = .error .calendar :=
  ⟨(@zoned_moments_restored [3, 128, 231, 11, 145, 59, 127, 255] _ rfl).1 (by decide),
    (@zoned_moments_restored [3, 128, 231, 11, 145, 59, 128, 0] _ rfl).2 (by decide)⟩

/-- The first moment of the year 10000 is decoded, and not written back. -/
theorem zoned_moments_not_all_restored :
    ¬ ∀ (raw : Bytes) (v : Value), raw.length = 8 → Value.decode .timestamptz (some raw) = .ok v →
      Value.encode .timestamptz v = .ok (some raw) := by
  intro hall
  have hback := hall [3, 128, 231, 11, 145, 59, 128, 0] (.text "+10000-01-01T00:00:00+00:00") rfl rfl
  exact absurd hback (by decide)

end CriteriaSql
