import MetaDesk.Bytes.Decoder
import Mathlib.Data.Nat.Notation

/-! # UTF-16 undone

A text that is written in UTF-16 is read back as it was (`decode_encode`): each character gives its
bytes, one unit or the two of a pair, and no byte stays held between characters.

Between two units the bytes of a text can be cut between two characters or within a pair
(`cut_encode`).  What is read from there on is the rest of the text, in the second case after a
replacement character for the half of the pair (`read_of_cut`). -/

namespace MetaDesk.Utf16

theorem unit_encodeUnit {u : ℕ} (hu : u < 0x10000) :
    unit (UInt8.ofNat (u % 256)) (UInt8.ofNat (u / 256)) = u := by
  unfold unit
  rw [UInt8.toNat_ofNat', UInt8.toNat_ofNat']
  omega

theorem toNat_of_char (c : Char) :
    c.toNat < 0xD800 ∨ 0xDFFF < c.toNat ∧ c.toNat < 0x110000 := by
  have hvalid := c.valid
  simp only [UInt32.isValidChar, Nat.isValidChar] at hvalid
  exact hvalid

theorem not_surrogate {u : ℕ} (hu : u < 0xD800 ∨ 0xDFFF < u) :
    isLeading u = false ∧ isTrailing u = false := by
  simp [isLeading, isTrailing]
  omega

/-- The first half of the pair of a character. -/
def leadUnit (c : Char) : ℕ := 0xD800 + (c.toNat - 0x10000) / 0x400

/-- The second half of the pair of a character. -/
def trailUnit (c : Char) : ℕ := 0xDC00 + (c.toNat - 0x10000) % 0x400

theorem isLeading_leadUnit (c : Char) : isLeading (leadUnit c) = true := by
  have hvalid := toNat_of_char c
  unfold isLeading leadUnit
  rw [Bool.and_eq_true, decide_eq_true_iff, decide_eq_true_iff]
  omega

theorem isTrailing_trailUnit (c : Char) : isTrailing (trailUnit c) = true := by
  unfold isTrailing trailUnit
  rw [Bool.and_eq_true, decide_eq_true_iff, decide_eq_true_iff]
  omega

theorem isLeading_trailUnit (c : Char) : isLeading (trailUnit c) = false := by
  unfold isLeading trailUnit
  rw [Bool.and_eq_false_iff, decide_eq_false_iff_not, decide_eq_false_iff_not]
  omega

theorem unit_leadUnit (c : Char) :
    unit (UInt8.ofNat (leadUnit c % 256)) (UInt8.ofNat (leadUnit c / 256)) = leadUnit c := by
  have hvalid := toNat_of_char c
  exact unit_encodeUnit (by unfold leadUnit; omega)

theorem unit_trailUnit (c : Char) :
    unit (UInt8.ofNat (trailUnit c % 256)) (UInt8.ofNat (trailUnit c / 256)) = trailUnit c :=
  unit_encodeUnit (by unfold trailUnit; omega)

/-- The two halves of a pair give its character. -/
theorem pair_units {c : Char} (hc : 0x10000 ≤ c.toNat) : pair (leadUnit c) (trailUnit c) = c := by
  unfold pair leadUnit trailUnit
  rw [Nat.add_sub_cancel_left, Nat.add_sub_cancel_left, Nat.add_assoc, Nat.div_add_mod',
    Nat.add_sub_cancel' hc, Char.ofNat_toNat]

theorem encodeChar_of_small {c : Char} (hc : c.toNat < 0x10000) :
    encodeChar c = encodeUnit c.toNat := if_pos hc

theorem encodeChar_of_large {c : Char} (hc : 0x10000 ≤ c.toNat) :
    encodeChar c = encodeUnit (leadUnit c) ++ encodeUnit (trailUnit c) :=
  if_neg (Nat.not_lt.mpr hc)

/-- A unit that is no half of a pair is read as its character. -/
theorem read_unit {low high : UInt8} (hleading : isLeading (unit low high) = false)
    (htrailing : isTrailing (unit low high) = false) (bytes : Bytes) :
    Encoding.utf16.read [] (low :: high :: bytes) =
      (Char.ofNat (unit low high) :: (Encoding.utf16.read [] bytes).1,
        (Encoding.utf16.read [] bytes).2) := by
  simp [Encoding.read, Encoding.step, step, first, hleading, htrailing]

theorem read_pair {a b c d : UInt8} (hleading : isLeading (unit a b) = true)
    (htrailing : isTrailing (unit c d) = true) (bytes : Bytes) :
    Encoding.utf16.read [] (a :: b :: c :: d :: bytes) =
      (pair (unit a b) (unit c d) :: (Encoding.utf16.read [] bytes).1,
        (Encoding.utf16.read [] bytes).2) := by
  simp [Encoding.read, Encoding.step, step, first, hleading, htrailing]

/-- The second half of a pair without the first one. -/
theorem read_trailUnit (c : Char) (bytes : Bytes) :
    Encoding.utf16.read [] (encodeUnit (trailUnit c) ++ bytes) =
      (Utf8.replacement :: (Encoding.utf16.read [] bytes).1,
        (Encoding.utf16.read [] bytes).2) := by
  simp [encodeUnit, Encoding.read, Encoding.step, step, first, unit_trailUnit,
    isLeading_trailUnit, isTrailing_trailUnit]

theorem read_encodeChar (c : Char) (bytes : Bytes) :
    Encoding.utf16.read [] (encodeChar c ++ bytes) =
      (c :: (Encoding.utf16.read [] bytes).1, (Encoding.utf16.read [] bytes).2) := by
  rcases Nat.lt_or_ge c.toNat 0x10000 with hsmall | hlarge
  · have hvalid := toNat_of_char c
    have hunit := unit_encodeUnit hsmall
    obtain ⟨hleading, htrailing⟩ := not_surrogate (u := c.toNat) (by omega)
    have hread := read_unit (hunit.symm ▸ hleading) (hunit.symm ▸ htrailing) bytes
    rw [hunit, Char.ofNat_toNat] at hread
    rw [encodeChar_of_small hsmall]
    exact hread
  · have hread := read_pair ((unit_leadUnit c).symm ▸ isLeading_leadUnit c)
      ((unit_trailUnit c).symm ▸ isTrailing_trailUnit c) bytes
    rw [unit_leadUnit, unit_trailUnit, pair_units hlarge] at hread
    rw [encodeChar_of_large hlarge]
    exact hread

theorem encode_cons (c : Char) (t : Text) : encode (c :: t) = encodeChar c ++ encode t := rfl

theorem read_encode (t : Text) : Encoding.utf16.read [] (encode t) = (t, []) := by
  induction t with
  | nil => rfl
  | cons c t ih =>
      rw [encode_cons, read_encodeChar, ih]

/-- Reading undoes writing. -/
theorem decode_encode (t : Text) : Encoding.decode .utf16 (encode t) = t := by
  unfold Encoding.decode
  rw [read_encode]
  exact List.append_nil t

/-! ### Texts that are cut -/

theorem length_encodeUnit (u : ℕ) : (encodeUnit u).length = 2 := rfl

theorem length_encodeChar (c : Char) : (encodeChar c).length % 2 = 0 := by
  rcases Nat.lt_or_ge c.toNat 0x10000 with hsmall | hlarge
  · rw [encodeChar_of_small hsmall, length_encodeUnit]
  · rw [encodeChar_of_large hlarge, List.length_append, length_encodeUnit, length_encodeUnit]

/-- What follows the bytes of the first characters of a text is read as the rest of the text. -/
theorem read_after_encode {t₁ t : Text} {after : Bytes} (htext : encode t₁ ++ after = encode t) :
    ∃ rest, t = t₁ ++ rest ∧ Encoding.utf16.read [] after = (rest, []) := by
  have hread := read_encode t
  rw [← htext, Encoding.read_append, read_encode] at hread
  obtain ⟨htake, hheld⟩ := Prod.mk.inj hread
  exact ⟨_, htake.symm, Prod.ext rfl hheld⟩

/-- Where the bytes of a text are cut: between two of its characters, or between the halves of the
pair of one. -/
inductive IsCut : Text → Bytes → Bytes → Prop
  | between (t₁ t₂ : Text) : IsCut (t₁ ++ t₂) (encode t₁) (encode t₂)
  | within (t₁ : Text) (c : Char) (t₂ : Text) : 0x10000 ≤ c.toNat →
      IsCut (t₁ ++ c :: t₂) (encode t₁ ++ encodeUnit (leadUnit c))
        (encodeUnit (trailUnit c) ++ encode t₂)

theorem IsCut.cons {t : Text} {before after : Bytes} (hcut : IsCut t before after) (c : Char) :
    IsCut (c :: t) (encodeChar c ++ before) after := by
  cases hcut with
  | between t₁ t₂ => exact .between (c :: t₁) t₂
  | within t₁ d t₂ hd =>
      rw [← List.append_assoc]
      exact .within (c :: t₁) d t₂ hd

/-- The bytes of a character are cut at one of their ends, or between the halves of a pair. -/
theorem cut_encodeChar {c : Char} {before after : Bytes} (hchar : before ++ after = encodeChar c)
    (heven : before.length % 2 = 0) : before = [] ∨ after = [] ∨ 0x10000 ≤ c.toNat ∧
      before = encodeUnit (leadUnit c) ∧ after = encodeUnit (trailUnit c) := by
  have hlength := congrArg List.length hchar
  rw [List.length_append] at hlength
  rcases Nat.lt_or_ge c.toNat 0x10000 with hsmall | hlarge
  · rw [encodeChar_of_small hsmall, length_encodeUnit] at hlength
    have hends : before.length = 0 ∨ after.length = 0 := by omega
    rcases hends with hnone | hnone
    · exact Or.inl (List.eq_nil_of_length_eq_zero hnone)
    · exact Or.inr (Or.inl (List.eq_nil_of_length_eq_zero hnone))
  · rw [encodeChar_of_large hlarge] at hchar hlength
    rw [List.length_append, length_encodeUnit, length_encodeUnit] at hlength
    have hends : before.length = 0 ∨ after.length = 0 ∨ before.length = 2 := by omega
    rcases hends with hnone | hnone | hhalf
    · exact Or.inl (List.eq_nil_of_length_eq_zero hnone)
    · exact Or.inr (Or.inl (List.eq_nil_of_length_eq_zero hnone))
    · exact Or.inr (Or.inr ⟨hlarge, List.append_inj hchar hhalf⟩)

/-- Every cut between two units is one of these. -/
theorem cut_encode {t : Text} {before after : Bytes} (htext : before ++ after = encode t)
    (heven : before.length % 2 = 0) : IsCut t before after := by
  induction t generalizing before with
  | nil =>
      obtain ⟨rfl, rfl⟩ := List.append_eq_nil_iff.mp htext
      exact .between [] []
  | cons c t ih =>
      rw [encode_cons, List.append_eq_append_iff] at htext
      rcases htext with ⟨rest, hchar, rfl⟩ | ⟨more, rfl, htext⟩
      · rcases cut_encodeChar hchar.symm heven with rfl | rfl | ⟨hlarge, rfl, rfl⟩
        · rw [List.nil_append] at hchar
          rw [← hchar]
          exact .between [] (c :: t)
        · rw [List.append_nil] at hchar
          rw [← hchar, List.nil_append, ← List.append_nil (encodeChar c)]
          exact .between [c] t
        · exact .within [] c t hlarge
      · have hlength := length_encodeChar c
        rw [List.length_append] at heven
        exact (ih htext.symm (by omega)).cons c

/-- From a cut on the rest of the text is read, after a replacement character if the cut is within a
pair. -/
theorem read_of_cut {t : Text} {before after : Bytes} (hcut : IsCut t before after) :
    ∃ rest, rest <:+ t ∧ (Encoding.utf16.read [] after = (rest, []) ∨
      Encoding.utf16.read [] after = (Utf8.replacement :: rest, [])) := by
  cases hcut with
  | between t₁ t₂ => exact ⟨t₂, List.suffix_append t₁ t₂, Or.inl (read_encode t₂)⟩
  | within t₁ c t₂ hc =>
      refine ⟨t₂, (List.suffix_cons c t₂).trans (List.suffix_append t₁ (c :: t₂)), Or.inr ?_⟩
      rw [read_trailUnit, read_encode]

end MetaDesk.Utf16
