import FlowSelect.Text.Numeral
import Mathlib.Data.List.TakeWhile
/-! Integers written as decimal numerals read back as themselves.

Writing gives the decimal text of an integer, a minus sign before the digits when it is
negative, for every integer of at most `digitLimit` digits. Reading normalizes each character:
an ASCII digit and the minus sign stay as they are, so the written text reaches the reader
unchanged; it has no blank, no underscore and at most `digitLimit` digits, and the value of its
digits is the integer's absolute value. So what is written reads back (`read_write`). -/
namespace FlowSelect.Text.Numeral

/-- An integer writing accepts: one of at most `digitLimit` digits. -/
def Writable (n : Int) : Prop := n.natAbs < Nat.pow 10 digitLimit

instance : DecidablePred Writable := fun n => inferInstanceAs (Decidable (n.natAbs < _))

theorem write_eq_ok {n : Int} (h : Writable n) : write n = .ok (toString n) := if_pos h

/-! ### The characters of a written integer -/

theorem toList_toString (n : Int) :
    (toString n).toList = (if n < 0 then ['-'] else []) ++ Nat.toDigits 10 n.natAbs := by
  cases n with
  | ofNat m => simp [Int.repr]
  | negSucc m =>
    simp only [Int.toString_eq_repr, Int.repr, String.toList_append, Nat.toList_repr,
      Int.natAbs_negSucc, Int.negSucc_lt_zero, if_true]
    rfl

/-- A number below `10 ^ k` has at most `k` decimal digits. -/
theorem length_toDigits_le {m k : Nat} (hk : 0 < k) (h : m < Nat.pow 10 k) :
    (Nat.toDigits 10 m).length ≤ k :=
  (Nat.length_toDigits_le_iff (by decide) hk).mpr h

theorem isDigit_iff {c : Char} : c.isDigit = true ↔ 48 ≤ c.toNat ∧ c.toNat ≤ 57 := by
  simp only [Char.isDigit, Bool.and_eq_true, decide_eq_true_eq, ge_iff_le, UInt32.le_iff_toNat_le]
  exact Iff.rfl

theorem isAsciiDigit_of_isDigit {c : Char} (h : c.isDigit = true) : isAsciiDigit c = true := by
  rw [isDigit_iff] at h
  simp only [isAsciiDigit, Bool.and_eq_true, decide_eq_true_eq, Char.le_def]
  exact ⟨h.1, h.2⟩

/-- An ASCII digit is no white space the reader skips. -/
theorem isAsciiSpace_of_isDigit {c : Char} (h : c.isDigit = true) : isAsciiSpace c = false := by
  have hc := isDigit_iff.mp h
  have hsp : c ≠ ' ' := by rintro rfl; simp at hc
  -- the ASCII controls skipped end at the carriage return, below the digits
  have hcr : ¬ c ≤ '\r' := by
    rw [Char.le_def, UInt32.le_iff_toNat_le]
    show ¬ c.toNat ≤ 13
    omega
  simp [isAsciiSpace, hsp, hcr]

/-- The reader keeps every character below U+007F, digits and the minus sign among them. -/
theorem normalize_of_lt {c : Char} (h : c.toNat < 0x7F) : normalize c = c := if_pos h

theorem normalize_of_isDigit {c : Char} (h : c.isDigit = true) : normalize c = c :=
  normalize_of_lt (by have := isDigit_iff.mp h; omega)

/-! ### Reading digits -/

theorem wellSeparated_of_not_mem {cs : List Char} (h : '_' ∉ cs) : wellSeparated cs = true := by
  fun_induction wellSeparated cs <;> simp_all

theorem digitRun_of_isDigit {cs : List Char} (h : ∀ c ∈ cs, c.isDigit = true) :
    digitRun cs = (cs, []) := by
  have hrun : ∀ c ∈ cs, (isAsciiDigit c || c == '_') = true :=
    fun c hc => by simp [isAsciiDigit_of_isDigit (h c hc)]
  rw [digitRun, List.takeWhile_eq_self_iff.mpr hrun, List.dropWhile_eq_nil_iff.mpr hrun]

/-- Digits after an optional minus sign, with no underscore and at most `digitLimit` of them,
read as their value with that sign. -/
theorem readNormalized_digits {ds : List Char} (hd : ∀ c ∈ ds, c.isDigit = true) (hne : ds ≠ [])
    (hu : '_' ∉ ds) (hlen : ds.length ≤ digitLimit) (negative : Bool) :
    readNormalized ((if negative then ['-'] else []) ++ ds) =
      .ok (if negative then -(digitsValue ds : Int) else digitsValue ds) := by
  have hfilter : ds.filter isAsciiDigit = ds :=
    List.filter_eq_self.mpr fun c hc => isAsciiDigit_of_isDigit (hd c hc)
  have hgt : ¬ ds.length > digitLimit := Nat.not_lt.mpr hlen
  obtain ⟨c, rest, rfl⟩ := List.exists_cons_of_ne_nil hne
  have hc := isDigit_iff.mp (hd c List.mem_cons_self)
  have hsp := isAsciiSpace_of_isDigit (hd c List.mem_cons_self)
  cases negative
  · simp only [Bool.false_eq_true, if_false, List.nil_append]
    rw [readNormalized]
    simp only [List.dropWhile_cons, hsp, Bool.false_eq_true, if_false]
    -- a digit comes first, so there is no sign to read
    split
    · next heq => cases heq; simp at hc
    · next heq => cases heq; simp at hc
    · rw [digitRun_of_isDigit hd, wellSeparated_of_not_mem hu, hfilter]
      simp only [Bool.not_true, Bool.false_eq_true, if_false, hgt, List.isEmpty_cons, List.all_nil,
        Bool.or_self]
  · simp only [if_true, List.singleton_append]
    rw [readNormalized]
    simp only [List.dropWhile_cons, show isAsciiSpace '-' = false by decide, Bool.false_eq_true,
      if_false]
    rw [digitRun_of_isDigit hd, wellSeparated_of_not_mem hu, hfilter]
    simp only [Bool.not_true, Bool.false_eq_true, if_false, hgt, List.isEmpty_cons, List.all_nil,
      Bool.or_self, if_true]

/-- An integer of at most `digitLimit` digits reads back from its decimal text. -/
theorem read_toString {n : Int} (h : Writable n) : read? (toString n) = .ok n := by
  have hdig : ∀ c ∈ Nat.toDigits 10 n.natAbs, c.isDigit = true :=
    fun c hc => Nat.isDigit_of_mem_toDigits (by decide) (by decide) hc
  have hnorm : (toString n).toList.map normalize = (toString n).toList := by
    rw [toList_toString, List.map_append, List.map_congr_left fun c hc => normalize_of_isDigit
      (hdig c hc), List.map_id']
    split <;> simp [normalize_of_lt]
  have hlen : (Nat.toDigits 10 n.natAbs).length ≤ digitLimit := length_toDigits_le (by decide) h
  have hread := readNormalized_digits hdig Nat.toDigits_ne_nil Nat.underscore_not_in_toDigits hlen
    (decide (n < 0))
  simp only [decide_eq_true_eq, digitsValue, ← Nat.ofDigitChars_eq_foldl,
    Nat.ofDigitChars_ten_toDigits] at hread
  rw [read?, hnorm, toList_toString, hread]
  congr 1
  split <;> omega

/-- **What is written reads back.** -/
theorem read_write {n : Int} {t : String} (h : write n = .ok t) : read? t = .ok n := by
  unfold write at h
  split at h
  · next hw =>
    cases h
    exact read_toString hw
  · exact nomatch h

end FlowSelect.Text.Numeral
