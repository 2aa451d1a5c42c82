import CriteriaSql.Proofs.ByteString
import CriteriaSql.Proofs.Marker
import Mathlib.Data.List.Basic
import Mathlib.Data.List.TakeWhile

/-!
# Markers, scanned in bytes

A scanner of markers can work on the UTF-8 bytes of a text: it looks for the byte of a dollar sign, goes on as long as
there are bytes of digits, and starts again behind them. Each round leaves fewer bytes, so the scan ends. It finds what
a scan of the characters finds, since all bytes of a character beyond ASCII are 128 or more and neither a dollar sign
nor a digit can be inside it; so the bytes of a run are a text of their own.

* `Statement.digitRuns_some`, `Statement.digitRuns_dollar`: what a scan of characters finds behind a dollar sign.
* `Bytes.digitRuns`, `Bytes.markers`: the scan of bytes.
* `Bytes.digitRuns_encode`, `Bytes.markers_ofText`: it finds the same.
-/

namespace CriteriaSql

/-! ## Characters -/

namespace Statement

/-- **An open marker takes the digits** that come first, and the scan goes on behind them. -/
theorem digitRuns_some (cs : List Char) :
    ∀ read, digitRuns (some read) cs = (read.reverse ++ cs.takeWhile Char.isDigit) :: digitRuns none cs := by
  induction cs with
  | nil =>
    intro read
    rw [digitRuns, List.takeWhile_nil, List.append_nil, digitRuns]
  | cons c cs ih =>
    intro read
    by_cases hc : c.isDigit = true
    · have hd : c ≠ '$' := by
        rintro rfl
        revert hc
        decide
      have hnone : digitRuns none (c :: cs) = digitRuns none cs := if_neg hd
      have hstep : digitRuns (some read) (c :: cs) = digitRuns (some (c :: read)) cs := if_pos hc
      rw [hstep, ih, hnone, List.takeWhile_cons_of_pos hc, List.reverse_cons, List.append_assoc,
        List.singleton_append]
    -- the marker ends here, and what follows is scanned as if there had been none
    · have hstep : digitRuns (some read) (c :: cs) = read.reverse :: digitRuns none (c :: cs) := if_neg hc
      rw [hstep, List.takeWhile_cons_of_neg hc, List.append_nil]

/-- **Behind a dollar sign** is the longest run of digits, and the scan goes on. -/
theorem digitRuns_dollar (cs : List Char) :
    digitRuns none ('$' :: cs) = cs.takeWhile Char.isDigit :: digitRuns none cs := by
  rw [digitRuns, if_pos rfl, digitRuns_some, List.reverse_nil, List.nil_append]

theorem digitRuns_cons_of_ne {c : Char} (h : c ≠ '$') (cs : List Char) :
    digitRuns none (c :: cs) = digitRuns none cs := if_neg h

end Statement

namespace Bytes

/-! ## Bytes -/

/-- The byte of a dollar sign. -/
def dollar : UInt8 := '$'.toUInt8

/-- The bytes of the digits. -/
def isDigit (b : UInt8) : Bool := '0'.toUInt8 ≤ b && b ≤ '9'.toUInt8

/-- The runs of digits behind each dollar sign. The scan goes on behind the run. -/
def digitRuns : Bytes → List Bytes
  | [] => []
  | b :: rest =>
    if b = dollar then rest.takeWhile isDigit :: digitRuns (rest.dropWhile isDigit) else digitRuns rest
termination_by bytes => bytes.length
decreasing_by
  · have hle := (List.dropWhile_suffix (l := rest) isDigit).length_le
    rw [List.length_cons]
    omega
  · rw [List.length_cons]
    omega

/-- The numbers of the markers in a byte string; a run that is no text, no number or beyond the bound counts for
none. -/
def markers (bytes : Bytes) : List Nat :=
  (digitRuns bytes).filterMap fun run =>
    (toText? run).bind fun text => Text.below? Statement.numberLimit text.toList

/-- The UTF-8 bytes of characters. -/
def encode (cs : List Char) : Bytes := cs.flatMap String.utf8EncodeChar

theorem encode_cons (c : Char) (cs : List Char) : encode (c :: cs) = String.utf8EncodeChar c ++ encode cs :=
  List.flatMap_cons

theorem ofText_eq (s : String) : ofText s = encode s.toList := by
  rw [ofText, ByteArray.toList, toList_loop, List.reverse_nil, List.nil_append, List.drop_zero]
  have hbytes : s.toUTF8 = (encode s.toList).toByteArray := by
    have hs : s = String.ofList s.toList := String.ofList_toList.symm
    rw [String.toUTF8_eq_toByteArray]
    conv => lhs; rw [hs]
    exact String.toByteArray_ofList
  rw [hbytes, List.toList_data_toByteArray]

/-- **The bytes of a character**: one that is its code, below 128, or some that are all 128 or more. -/
theorem utf8_cases (c : Char) :
    (c.toNat < 128 ∧ ∃ b, String.utf8EncodeChar c = [b] ∧ b.toNat = c.toNat) ∨
      (128 ≤ c.toNat ∧ String.utf8EncodeChar c ≠ [] ∧ ∀ b ∈ String.utf8EncodeChar c, 128 ≤ b.toNat) := by
  have hval : c.toNat = c.val.toNat := rfl
  unfold String.utf8EncodeChar
  dsimp only
  by_cases hascii : c.val.toNat ≤ 127
  · left
    rw [if_pos hascii, hval]
    refine ⟨by omega, _, rfl, ?_⟩
    rw [UInt8.toNat_ofNat']
    omega
  -- the first byte and those that follow it have their highest bit set
  · right
    rw [if_neg hascii, hval]
    refine ⟨by omega, ?_⟩
    split_ifs
    all_goals
      simp only [ne_eq, reduceCtorEq, not_false_eq_true, List.mem_cons, List.not_mem_nil, or_false, true_and,
        forall_eq_or_imp, forall_eq, UInt8.toNat_ofNat']
      omega

theorem isDigit_iff {b : UInt8} : isDigit b = true ↔ 48 ≤ b.toNat ∧ b.toNat ≤ 57 := by
  have hzero : '0'.toUInt8.toNat = 48 := rfl
  have hnine : '9'.toUInt8.toNat = 57 := rfl
  simp [isDigit, UInt8.le_iff_toNat_le, hzero, hnine]

theorem char_isDigit_iff {c : Char} : c.isDigit = true ↔ 48 ≤ c.toNat ∧ c.toNat ≤ 57 := by
  simp [Char.isDigit, UInt32.le_iff_toNat_le]

/-- A digit is written with the byte of a digit. -/
theorem utf8_digit {c : Char} (h : c.isDigit = true) :
    ∃ b, String.utf8EncodeChar c = [b] ∧ isDigit b = true := by
  have hcode := char_isDigit_iff.1 h
  rcases utf8_cases c with ⟨-, b, hb, hcode'⟩ | ⟨hlarge, -⟩
  · exact ⟨b, hb, isDigit_iff.2 (by omega)⟩
  · omega

/-- What is no digit is written with a first byte of no digit. -/
theorem utf8_no_digit {c : Char} (h : ¬ c.isDigit = true) :
    ∃ b bytes, String.utf8EncodeChar c = b :: bytes ∧ ¬ isDigit b = true := by
  rw [char_isDigit_iff] at h
  rcases utf8_cases c with ⟨-, b, hb, hcode⟩ | ⟨-, hne, hbytes⟩
  · refine ⟨b, [], hb, ?_⟩
    rw [isDigit_iff]
    omega
  · obtain ⟨b, bytes, hb⟩ := List.exists_cons_of_ne_nil hne
    have hlarge : 128 ≤ b.toNat := hbytes b (hb ▸ List.mem_cons_self)
    refine ⟨b, bytes, hb, ?_⟩
    rw [isDigit_iff]
    omega

/-- What is no dollar sign is written without the byte of one. -/
theorem dollar_notMem {c : Char} (h : c ≠ '$') : dollar ∉ String.utf8EncodeChar c := by
  have hdollar : dollar.toNat = 36 := rfl
  intro hmem
  rcases utf8_cases c with ⟨-, b, hb, hcode⟩ | ⟨-, -, hbytes⟩
  · rw [hb, List.mem_singleton] at hmem
    refine h (Char.toNat_inj.1 ?_)
    rw [← hcode, ← hmem, hdollar]
    rfl
  · have hlarge := hbytes dollar hmem
    omega

/-! ## The two scans -/

/-- **The digits at the start of a text** are those at the start of its bytes. -/
theorem takeWhile_encode (cs : List Char) :
    (encode cs).takeWhile isDigit = encode (cs.takeWhile Char.isDigit) := by
  induction cs with
  | nil => rfl
  | cons c cs ih =>
    by_cases hc : c.isDigit = true
    · obtain ⟨b, hbyte, hb⟩ := utf8_digit hc
      rw [List.takeWhile_cons_of_pos hc, encode_cons, encode_cons, hbyte, List.singleton_append,
        List.singleton_append, List.takeWhile_cons_of_pos hb, ih]
    · obtain ⟨b, bytes, hbytes, hb⟩ := utf8_no_digit hc
      rw [List.takeWhile_cons_of_neg hc, encode_cons, hbytes, List.cons_append, List.takeWhile_cons_of_neg hb]
      rfl

/-- Bytes without a dollar sign hold no marker. -/
theorem digitRuns_plain_append {bytes : Bytes} (h : dollar ∉ bytes) (rest : Bytes) :
    digitRuns (bytes ++ rest) = digitRuns rest := by
  induction bytes with
  | nil => rfl
  | cons b bytes ih =>
    rw [List.mem_cons, not_or] at h
    have hb : b ≠ dollar := fun he => h.1 he.symm
    rw [List.cons_append, digitRuns, if_neg hb, ih h.2]

/-- The digits behind a dollar sign need not be scanned again. -/
theorem digitRuns_dropWhile (bytes : Bytes) : digitRuns (bytes.dropWhile isDigit) = digitRuns bytes := by
  have hplain : dollar ∉ bytes.takeWhile isDigit := by
    intro hmem
    have hdigit : isDigit dollar = true := List.mem_takeWhile_imp hmem
    revert hdigit
    decide
  conv => rhs; rw [← List.takeWhile_append_dropWhile (p := isDigit) (l := bytes)]
  rw [digitRuns_plain_append hplain]

/-- **The scan of the bytes finds the runs of the characters.** -/
theorem digitRuns_encode (cs : List Char) :
    digitRuns (encode cs) = (Statement.digitRuns none cs).map encode := by
  induction cs with
  | nil =>
    rw [encode, List.flatMap_nil, digitRuns, Statement.digitRuns, List.map_nil]
  | cons c cs ih =>
    by_cases hc : c = '$'
    · subst hc
      have hdollar : encode ('$' :: cs) = dollar :: encode cs := encode_cons _ _
      rw [hdollar, digitRuns, if_pos rfl, digitRuns_dropWhile, takeWhile_encode, ih, Statement.digitRuns_dollar,
        List.map_cons]
    · rw [encode_cons, digitRuns_plain_append (dollar_notMem hc), ih, Statement.digitRuns_cons_of_ne hc]

/-- The bytes of a run are a text of their own. -/
theorem toText?_encode (cs : List Char) : toText? (encode cs) = some (String.ofList cs) := by
  have htext := toText?_ofText (String.ofList cs)
  rw [ofText_eq, String.toList_ofList] at htext
  exact htext

/-- **Scanning the bytes of a text finds its markers.** -/
theorem markers_ofText (text : String) : markers (ofText text) = Statement.markers text := by
  rw [markers, ofText_eq, digitRuns_encode, List.filterMap_map, Statement.markers]
  refine List.filterMap_congr fun ds _ => ?_
  rw [Function.comp_apply, toText?_encode, Option.bind_some, String.toList_ofList]

end Bytes

end CriteriaSql
