import CriteriaSql.Model.Basic
import Mathlib.Order.Bounds.Basic
import Mathlib.Tactic.Set

/-!
# SQL text cut for events

The SQL of a statement is shown in an event whole, or cut where it is longer than the limit. The cut is searched for
backwards, one byte at a time from the limit. The start of the text is a place between characters, so the search ends,
and what it finds is a position of the text, so no character is cut in two. It finds the last place within the limit;
hence the part that is kept is the longest one that fits.

* `placeWithin_isGreatest`: the search finds the last place within the limit.
* `placesWithin_iff`: such places are the sizes of the parts of the text from its start.
* `longestWithin_textWithin`, `lt_size_textWithin`: the part before that place is the longest that fits, and misses the
  limit by three bytes at most.
* `truncation_keeps_longest`: what is shown of a text.
-/

namespace CriteriaSql

open String.Pos.Raw (IsValid)

/-! ## The search -/

/-- The places between two characters of a text within a number of bytes from its start. -/
def placesWithin (s : String) (bytes : Nat) : Set Nat := {n | n ≤ bytes ∧ IsValid s ⟨n⟩}

/-- **The search finds the last place** within the limit. -/
theorem placeWithin_isGreatest (s : String) (bytes : Nat) :
    IsGreatest (placesWithin s bytes) (placeWithin s bytes).offset.byteIdx := by
  induction bytes with
  | zero =>
    constructor
    · exact ⟨le_rfl, String.Pos.Raw.isValid_zero⟩
    · intro n hn
      exact hn.1
  | succ bytes ih =>
    by_cases h : IsValid s ⟨bytes + 1⟩
    · rw [placeWithin, dif_pos h]
      exact ⟨⟨le_rfl, h⟩, fun n hn => hn.1⟩
    · rw [placeWithin, dif_neg h]
      refine ⟨⟨ih.1.1.trans (Nat.le_succ bytes), ih.1.2⟩, ?_⟩
      intro n hn
      -- the place just left behind is inside a character
      have hne : n ≠ bytes + 1 := by
        rintro rfl
        exact h hn.2
      have hle := hn.1
      exact ih.2 ⟨by omega, hn.2⟩

/-! ## Parts of a text from its start -/

/-- **A place between characters is the size of a part** of the text from its start. -/
theorem placesWithin_iff {s : String} {bytes n : Nat} :
    n ∈ placesWithin s bytes ↔ n ≤ bytes ∧ ∃ t : String, t.toList <+: s.toList ∧ t.utf8ByteSize = n := by
  refine and_congr_right fun _ => ?_
  rw [String.Pos.Raw.isValid_iff_exists_append]
  constructor
  · rintro ⟨t, rest, rfl, hn⟩
    refine ⟨t, ?_, ?_⟩
    · rw [String.toList_append]
      exact List.prefix_append _ _
    · rw [← String.byteIdx_rawEndPos, ← hn]
  · rintro ⟨t, ⟨rest, hrest⟩, rfl⟩
    refine ⟨t, String.ofList rest, ?_, rfl⟩
    rw [← String.toList_inj, String.toList_append, String.toList_ofList, hrest]

/-- The longest part of a text from its start within a number of bytes: it is made of whole characters, and every
other part from the start that fits is a part of it. -/
structure LongestWithin (s : String) (bytes : Nat) (kept : String) : Prop where
  part : kept.toList <+: s.toList
  fits : kept.utf8ByteSize ≤ bytes
  longest : ∀ t : String, t.toList <+: s.toList → t.utf8ByteSize ≤ bytes → t.toList <+: kept.toList

/-- Of two parts from the start, the one with no more bytes is a part of the other. -/
theorem prefix_of_size_le {s t u : String} (ht : t.toList <+: s.toList) (hu : u.toList <+: s.toList)
    (h : t.utf8ByteSize ≤ u.utf8ByteSize) : t.toList <+: u.toList := by
  rcases List.prefix_or_prefix_of_prefix ht hu with htu | ⟨rest, hrest⟩
  · exact htu
  -- the second part is all of the first, since nothing is left for the rest
  · have hsplit : t = u ++ String.ofList rest := by
      rw [← String.toList_inj, String.toList_append, String.toList_ofList, hrest]
    have hsize : t.utf8ByteSize = u.utf8ByteSize + (String.ofList rest).utf8ByteSize := by
      rw [hsplit, String.utf8ByteSize_append]
    have hrest' : String.ofList rest = "" := String.utf8ByteSize_eq_zero_iff.1 (by omega)
    have heq : t = u := by rw [hsplit, hrest', String.append_empty]
    exact heq ▸ List.prefix_refl _

/-- The part of a text before the place that the search finds. -/
def textWithin (s : String) (bytes : Nat) : String := (s.sliceTo (placeWithin s bytes)).copy

theorem size_textWithin (s : String) (bytes : Nat) :
    (textWithin s bytes).utf8ByteSize = (placeWithin s bytes).offset.byteIdx := by
  have hsplits := (placeWithin s bytes).splits
  rw [hsplits.offset_eq_rawEndPos, String.byteIdx_rawEndPos]
  rfl

/-- **What is kept is the longest part that fits.** -/
theorem longestWithin_textWithin (s : String) (bytes : Nat) : LongestWithin s bytes (textWithin s bytes) := by
  have hgreatest := placeWithin_isGreatest s bytes
  have hsplits := (placeWithin s bytes).splits
  have hpart : (textWithin s bytes).toList <+: s.toList := by
    rw [hsplits.eq_append, String.toList_append, ← hsplits.eq_append]
    exact List.prefix_append _ _
  rw [← size_textWithin] at hgreatest
  refine ⟨hpart, hgreatest.1.1, ?_⟩
  intro t ht hfits
  have hplace : t.utf8ByteSize ∈ placesWithin s bytes := placesWithin_iff.2 ⟨hfits, t, ht, rfl⟩
  exact prefix_of_size_le ht hpart (hgreatest.2 hplace)

/-- **A cut is close to the limit**: the next character does not fit, and it has four bytes at most. -/
theorem lt_size_textWithin {s : String} {bytes : Nat} (h : bytes < s.utf8ByteSize) :
    bytes < (textWithin s bytes).utf8ByteSize + 4 := by
  have hgreatest := placeWithin_isGreatest s bytes
  rw [size_textWithin]
  set place := placeWithin s bytes
  have hwithin : place.offset.byteIdx ≤ bytes := hgreatest.1.1
  have hend : place ≠ s.endPos := by
    intro heq
    rw [heq, String.offset_endPos, String.byteIdx_rawEndPos] at hwithin
    omega
  -- the place after the next character is beyond the limit
  have hnext : bytes < (place.next hend).offset.byteIdx := by
    by_contra hle
    have hplace : (place.next hend).offset.byteIdx ∈ placesWithin s bytes :=
      ⟨by omega, (place.next hend).isValid⟩
    have hback := hgreatest.2 hplace
    have hsize := (place.get hend).utf8Size_pos
    rw [String.Pos.byteIdx_offset_next] at hback
    omega
  have hsize := (place.get hend).utf8Size_le_four
  rw [String.Pos.byteIdx_offset_next] at hnext
  omega

/-! ## What is shown -/

/-- **A text is shown whole if it fits**, and else as the longest part from its start that fits, with a mark behind
it. The search for the cut ends at the last place between two characters within the limit. -/
theorem truncation_keeps_longest (sql : String) :
    truncateSql none sql = sql ∧
      (∀ bytes, sql.utf8ByteSize ≤ bytes → truncateSql (some bytes) sql = sql) ∧
      (∀ bytes, bytes < sql.utf8ByteSize → ∃ kept, truncateSql (some bytes) sql = kept ++ "..." ∧
        LongestWithin sql bytes kept ∧ bytes < kept.utf8ByteSize + 4) ∧
      ∀ bytes, IsGreatest (placesWithin sql bytes) (placeWithin sql bytes).offset.byteIdx := by
  refine ⟨rfl, ?_, ?_, placeWithin_isGreatest sql⟩
  · intro bytes h
    rw [truncateSql, if_neg (Nat.not_lt.2 h)]
  · intro bytes h
    refine ⟨textWithin sql bytes, ?_, longestWithin_textWithin sql bytes, lt_size_textWithin h⟩
    rw [truncateSql, if_pos h]
    rfl

/-- A limit inside a character of three bytes, and the size of the text as the limit. -/
theorem truncation_keeps_longest_euro :
    let sql := "a€b"
    (3 < sql.utf8ByteSize ∧ ∃ kept, truncateSql (some 3) sql = kept ++ "..." ∧ LongestWithin sql 3 kept ∧
      3 < kept.utf8ByteSize + 4) ∧
    sql.utf8ByteSize ≤ 5 ∧ truncateSql (some 5) sql = sql := by
  intro sql
  have hlong : 3 < sql.utf8ByteSize := by decide
  have hfits : sql.utf8ByteSize ≤ 5 := by decide
  obtain ⟨-, hwhole, hcut, -⟩ := truncation_keeps_longest sql
  exact ⟨⟨hlong, hcut 3 hlong⟩, hfits, hwhole 5 hfits⟩

end CriteriaSql
