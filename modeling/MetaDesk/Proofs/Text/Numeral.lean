import MetaDesk.Text.Blank
import MetaDesk.Text.Digit
import Mathlib.Data.Nat.Digits.Defs

/-! # Written numbers

Reading the decimal digits of a number gives the number back (`readNumeral_ofNat`), as long as they
are not too many.  Digits are neither blanks nor any of the signs between them, so a run of them
ends exactly where it was written to end (`takeWhile_append_cons`,
`dropWhile_append_cons`).  Whatever its script, a digit has a value below ten, and a numeral has the
number that these values write (`HasValues.numeralValue_eq`). -/

namespace MetaDesk.Text

theorem digitValue?_of_ascii {c : Char} (h : c.isDigit = true) :
    digitValue? c = some (c.toNat - 0x30) := by
  have hle : c.toNat ≤ 0x39 := (Char.isDigit_iff_toNat.mp h).2
  have hlt : c.toNat < 0x80 := by omega
  simp [digitValue?, hlt, h]

theorem isDigit_of_ascii {c : Char} (h : c.isDigit = true) : isDigit c = true := by
  rw [isDigit, digitValue?_of_ascii h]
  rfl

/-- A decimal digit comes at most nine places after the zero of its script. -/
theorem exists_zero_of_isDigit {c : Char} (h : isDigit c = true) :
    ∃ first ∈ decimalZeros, ∃ d < 10, c = Char.ofNat (first + d) := by
  have hzero : ∃ first ∈ decimalZeros, first ≤ c.toNat ∧ c.toNat ≤ first + 9 := by
    unfold isDigit digitValue? at h
    split at h
    · split at h
      · next hdigit =>
          have hascii : 0x30 ≤ c.toNat ∧ c.toNat ≤ 0x30 + 9 := Char.isDigit_iff_toNat.mp hdigit
          exact ⟨0x30, by decide, hascii.1, hascii.2⟩
      · cases h
    · rw [Option.isSome_map] at h
      obtain ⟨first, hfind⟩ := Option.isSome_iff_exists.mp h
      have hholds := List.find?_some hfind
      simp only [Bool.and_eq_true, decide_eq_true_eq] at hholds
      exact ⟨first, List.mem_of_find?_eq_some hfind, hholds.1, hholds.2⟩
  obtain ⟨first, hmem, hle, hge⟩ := hzero
  refine ⟨first, hmem, c.toNat - first, by omega, ?_⟩
  rw [show first + (c.toNat - first) = c.toNat by omega, Char.ofNat_toNat]

/-- Every character that is taken for a digit has a value below ten. -/
theorem exists_value_of_isDigit {c : Char} (h : isDigit c = true) :
    ∃ v < 10, digitValue? c = some v := by
  obtain ⟨v, hv⟩ := Option.isSome_iff_exists.mp h
  refine ⟨v, ?_, hv⟩
  unfold digitValue? at hv
  split_ifs at hv with hascii hdigit
  · have hbounds : 0x30 ≤ c.toNat ∧ c.toNat ≤ 0x30 + 9 := Char.isDigit_iff_toNat.mp hdigit
    obtain rfl := Option.some.inj hv
    omega
  · obtain ⟨first, hfind, rfl⟩ := Option.map_eq_some_iff.mp hv
    have hholds := List.find?_some hfind
    simp only [Bool.and_eq_true, decide_eq_true_eq] at hholds
    omega

theorem isDigit_of_isBlank {c : Char} (h : isBlank c = true) : isDigit c = false := by
  have hzeros : ∀ first ∈ decimalZeros, ∀ d < 10, isBlank (Char.ofNat (first + d)) = false := by
    decide +kernel
  rw [Bool.eq_false_iff]
  intro hdigit
  obtain ⟨first, hmem, d, hd, rfl⟩ := exists_zero_of_isDigit hdigit
  rw [hzeros first hmem d hd] at h
  cases h

/-! ### Runs of digits -/

theorem takeWhile_append_cons {p : Char → Bool} {t rest : Text} {c : Char}
    (ht : ∀ d ∈ t, p d = true) (hc : p c = false) : (t ++ c :: rest).takeWhile p = t := by
  rw [List.takeWhile_append_of_pos ht, List.takeWhile_cons, hc]
  simp

theorem dropWhile_append_cons {p : Char → Bool} {t rest : Text} {c : Char}
    (ht : ∀ d ∈ t, p d = true) (hc : p c = false) :
    (t ++ c :: rest).dropWhile p = c :: rest := by
  rw [List.dropWhile_append_of_pos ht, List.dropWhile_cons, hc]
  simp

/-! ### Numerals of any script -/

/-- The characters of a numeral have these values. -/
def HasValues (digits : Text) (values : List ℕ) : Prop :=
  List.Forall₂ (fun c v => digitValue? c = some v) digits values

theorem exists_values {digits : Text} (h : ∀ c ∈ digits, isDigit c = true) :
    ∃ values, HasValues digits values ∧ ∀ v ∈ values, v < 10 := by
  induction digits with
  | nil => exact ⟨[], .nil, by simp⟩
  | cons c digits ih =>
      obtain ⟨v, hlt, hv⟩ := exists_value_of_isDigit (h c List.mem_cons_self)
      obtain ⟨values, hvalues, hall⟩ := ih fun d hd => h d (List.mem_cons_of_mem c hd)
      exact ⟨v :: values, .cons hv hvalues, List.forall_mem_cons.mpr ⟨hlt, hall⟩⟩

/-- Reading on from a number puts it in front of the digits. -/
theorem HasValues.foldl_eq {digits : Text} {values : List ℕ} (h : HasValues digits values) (n : ℕ) :
    digits.foldl (fun n c => 10 * n + (digitValue? c).getD 0) n =
      Nat.ofDigits 10 (values.reverse ++ [n]) := by
  induction h generalizing n with
  | nil => exact Nat.ofDigits_singleton.symm
  | cons hv _ ih =>
      rw [List.foldl_cons, hv, Option.getD_some, ih, List.reverse_cons, List.append_assoc,
        Nat.ofDigits_append, Nat.ofDigits_append, Nat.ofDigits_singleton, List.singleton_append,
        Nat.ofDigits_cons, Nat.ofDigits_singleton, Nat.add_comm (10 * n)]

/-- The number of a numeral is the one that the values of its characters write, the first of them
being the highest digit. -/
theorem HasValues.numeralValue_eq {digits : Text} {values : List ℕ} (h : HasValues digits values) :
    numeralValue digits = Nat.ofDigits 10 values.reverse := by
  unfold numeralValue
  rw [h.foldl_eq, Nat.ofDigits_append, Nat.ofDigits_singleton, Nat.mul_zero, Nat.add_zero]

/-! ### Decimal digits of a number -/

theorem isDigit_of_mem_ofNat {n : ℕ} {c : Char} (h : c ∈ ofNat n) : c.isDigit = true :=
  Nat.isDigit_of_mem_toDigits (by omega) (by omega) h

theorem ofNat_ne_nil (n : ℕ) : ofNat n ≠ [] := Nat.toDigits_ne_nil

theorem foldl_digitValue? (t : Text) (n : ℕ) (h : ∀ c ∈ t, c.isDigit = true) :
    t.foldl (fun n c => 10 * n + (digitValue? c).getD 0) n = Nat.ofDigitChars 10 t n := by
  induction t generalizing n with
  | nil => rfl
  | cons c t ih =>
      rw [List.foldl_cons, digitValue?_of_ascii (h c List.mem_cons_self), Nat.ofDigitChars_cons]
      exact ih _ fun d hd => h d (List.mem_cons_of_mem c hd)

theorem numeralValue_ofNat (n : ℕ) : numeralValue (ofNat n) = n := by
  unfold numeralValue
  rw [foldl_digitValue? _ _ fun c hc => isDigit_of_mem_ofNat hc]
  exact Nat.ofDigitChars_ten_toDigits

/-- A written number is read as itself. -/
theorem readNumeral_ofNat {n : ℕ} (h : (ofNat n).length ≤ maxDigits) :
    readNumeral (ofNat n) = .ok n := by
  unfold readNumeral
  rw [if_pos h, numeralValue_ofNat]

end MetaDesk.Text
