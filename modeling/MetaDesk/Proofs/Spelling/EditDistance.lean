import MetaDesk.Text.Basic
import Mathlib.Order.Bounds.Basic
import Mathlib.Order.Lattice.Nat

/-! # Edits and the edit distance

An edit puts a character into a text, takes one out, or puts another one in its place.
`editDistance` is the textbook recursion over the first characters of two texts, and it is the
least number of edits that lead from one text to the other (`editDistance_isLeast`).  Edits can be
read backwards and from the other end, so the distance does not change when the two texts change
places (`editDistance_comm`) or when both are reversed (`editDistance_reverse`). -/

namespace MetaDesk.Spelling

/-- The edit distance by recursion: the first characters are exchanged, or one of them is taken
out or put in. -/
def editDistance : Text → Text → ℕ
  | [], b => b.length
  | a, [] => a.length
  | c :: a, d :: b =>
      min (min (editDistance a (d :: b) + 1) (editDistance (c :: a) b + 1))
        (editDistance a b + if c = d then 0 else 1)

/-- One edit leads from a text to another. -/
inductive Edit : Text → Text → Prop
  | insert (s t : Text) (d : Char) : Edit (s ++ t) (s ++ d :: t)
  | remove (s t : Text) (c : Char) : Edit (s ++ c :: t) (s ++ t)
  | exchange (s t : Text) (c d : Char) : Edit (s ++ c :: t) (s ++ d :: t)

/-- `Edits n a b`: a sequence of `n` edits leads from `a` to `b`. -/
inductive Edits : ℕ → Text → Text → Prop
  | refl (a : Text) : Edits 0 a a
  | step {n : ℕ} {a b c : Text} : Edit a b → Edits n b c → Edits (n + 1) a c

/-! ### Sequences of edits -/

theorem Edit.cons {a b : Text} (c : Char) (h : Edit a b) : Edit (c :: a) (c :: b) := by
  cases h with
  | insert s t d => exact Edit.insert (c :: s) t d
  | remove s t d => exact Edit.remove (c :: s) t d
  | exchange s t d e => exact Edit.exchange (c :: s) t d e

theorem Edit.symm {a b : Text} (h : Edit a b) : Edit b a := by
  cases h with
  | insert s t d => exact Edit.remove s t d
  | remove s t c => exact Edit.insert s t c
  | exchange s t c d => exact Edit.exchange s t d c

theorem Edit.reverse {a b : Text} (h : Edit a b) : Edit a.reverse b.reverse := by
  cases h with
  | insert s t d => simpa using Edit.insert t.reverse s.reverse d
  | remove s t c => simpa using Edit.remove t.reverse s.reverse c
  | exchange s t c d => simpa using Edit.exchange t.reverse s.reverse c d

theorem Edits.cons {n : ℕ} {a b : Text} (c : Char) (h : Edits n a b) :
    Edits n (c :: a) (c :: b) := by
  induction h with
  | refl a => exact Edits.refl (c :: a)
  | step he _ ih => exact Edits.step (he.cons c) ih

theorem Edits.reverse {n : ℕ} {a b : Text} (h : Edits n a b) : Edits n a.reverse b.reverse := by
  induction h with
  | refl a => exact Edits.refl a.reverse
  | step he _ ih => exact Edits.step he.reverse ih

theorem Edits.snoc {n : ℕ} {a b c : Text} (h : Edits n a b) (he : Edit b c) :
    Edits (n + 1) a c := by
  induction h with
  | refl a => exact Edits.step he (Edits.refl c)
  | step h₁ _ ih => exact Edits.step h₁ (ih he)

theorem Edits.symm {n : ℕ} {a b : Text} (h : Edits n a b) : Edits n b a := by
  induction h with
  | refl a => exact Edits.refl a
  | step he _ ih => exact ih.snoc he.symm

theorem Edits.insertFirst {n : ℕ} {a b : Text} (d : Char) (h : Edits n a b) :
    Edits (n + 1) a (d :: b) :=
  Edits.step (Edit.insert [] a d) (h.cons d)

theorem Edits.removeFirst {n : ℕ} {a b : Text} (c : Char) (h : Edits n a b) :
    Edits (n + 1) (c :: a) b :=
  Edits.step (Edit.remove [] a c) h

theorem Edits.exchangeFirst {n : ℕ} {a b : Text} (c d : Char) (h : Edits n a b) :
    Edits (n + 1) (c :: a) (d :: b) :=
  Edits.step (Edit.exchange [] a c d) (h.cons d)

theorem Edits.ofNil : ∀ b : Text, Edits b.length [] b
  | [] => Edits.refl []
  | d :: b => (Edits.ofNil b).insertFirst d

/-! ### The recursion -/

theorem editDistance_nil_left (b : Text) : editDistance [] b = b.length := by
  cases b <;> simp [editDistance]

theorem editDistance_nil_right (a : Text) : editDistance a [] = a.length := by
  cases a <;> simp [editDistance]

theorem editDistance_cons_cons (c d : Char) (a b : Text) :
    editDistance (c :: a) (d :: b) =
      min (min (editDistance a (d :: b) + 1) (editDistance (c :: a) b + 1))
        (editDistance a b + if c = d then 0 else 1) := by
  rw [editDistance]

theorem editDistance_self (a : Text) : editDistance a a = 0 := by
  induction a with
  | nil => rw [editDistance_nil_left, List.length_nil]
  | cons c a ih =>
      rw [editDistance_cons_cons, if_pos rfl, ih]
      omega

/-- One more character on the left takes at most one more edit. -/
theorem editDistance_cons_left_le (c : Char) (a b : Text) :
    editDistance (c :: a) b ≤ editDistance a b + 1 := by
  cases b with
  | nil => simp [editDistance_nil_right]
  | cons d b => rw [editDistance_cons_cons]; omega

/-- One character less on the left takes at most one more edit. -/
theorem editDistance_le_cons_left (c : Char) (a b : Text) :
    editDistance a b ≤ editDistance (c :: a) b + 1 := by
  induction b generalizing a c with
  | nil => simp [editDistance_nil_right]; omega
  | cons d b ih =>
      have hshort : editDistance a (d :: b) ≤ editDistance a b + 1 := by
        cases a with
        | nil => simp [editDistance_nil_left]
        | cons e a => rw [editDistance_cons_cons]; omega
      have hlong := ih c a
      rw [editDistance_cons_cons c d a b]
      split_ifs <;> omega

/-- Exchanging the first character takes at most one more edit. -/
theorem editDistance_exchange_le (c e : Char) (a b : Text) :
    editDistance (c :: a) b ≤ editDistance (e :: a) b + 1 := by
  induction b with
  | nil => simp [editDistance_nil_right]
  | cons d b ih =>
      rw [editDistance_cons_cons c, editDistance_cons_cons e]
      split_ifs <;> omega

/-- What holds of one edit holds of it behind one more character. -/
theorem editDistance_cons_le_cons {a a' : Text} (h : ∀ b, editDistance a b ≤ editDistance a' b + 1)
    (c : Char) (b : Text) : editDistance (c :: a) b ≤ editDistance (c :: a') b + 1 := by
  induction b with
  | nil =>
      have := h []
      simp only [editDistance_nil_right, List.length_cons] at this ⊢
      omega
  | cons d b ih =>
      have hrest := h b
      have hwhole := h (d :: b)
      rw [editDistance_cons_cons, editDistance_cons_cons]
      omega

theorem editDistance_append_le {a a' : Text} (h : ∀ b, editDistance a b ≤ editDistance a' b + 1)
    (s b : Text) : editDistance (s ++ a) b ≤ editDistance (s ++ a') b + 1 := by
  induction s generalizing b with
  | nil => exact h b
  | cons c s ih => exact editDistance_cons_le_cons ih c b

/-- An edit changes the distance from any text by at most one. -/
theorem Edit.editDistance_le {a a' : Text} (h : Edit a a') (b : Text) :
    editDistance a b ≤ editDistance a' b + 1 := by
  cases h with
  | insert s t d => exact editDistance_append_le (editDistance_le_cons_left d t) s b
  | remove s t c => exact editDistance_append_le (editDistance_cons_left_le c t) s b
  | exchange s t c d => exact editDistance_append_le (editDistance_exchange_le c d t) s b

theorem Edits.editDistance_le {n : ℕ} {a b : Text} (h : Edits n a b) : editDistance a b ≤ n := by
  induction h with
  | refl a => rw [editDistance_self]
  | @step n a a' b he _ ih =>
      have := he.editDistance_le b
      omega

/-- The recursion follows a sequence of edits. -/
theorem edits_editDistance : ∀ a b : Text, Edits (editDistance a b) a b
  | [], b => by
      rw [editDistance_nil_left]
      exact Edits.ofNil b
  | c :: a, [] => by
      rw [editDistance_nil_right]
      exact (Edits.ofNil (c :: a)).symm
  | c :: a, d :: b => by
      rw [editDistance_cons_cons]
      rcases min_choice (min (editDistance a (d :: b) + 1) (editDistance (c :: a) b + 1))
        (editDistance a b + if c = d then 0 else 1) with h | h
      · rw [h]
        rcases min_choice (editDistance a (d :: b) + 1) (editDistance (c :: a) b + 1) with h | h
        · rw [h]
          exact (edits_editDistance a (d :: b)).removeFirst c
        · rw [h]
          exact (edits_editDistance (c :: a) b).insertFirst d
      · rw [h]
        have hrest := edits_editDistance a b
        split_ifs with hcd
        · subst hcd
          exact hrest.cons c
        · exact hrest.exchangeFirst c d
termination_by a b => a.length + b.length

/-- **The recursion gives the least number of edits** from one text to the other. -/
theorem editDistance_isLeast (a b : Text) : IsLeast {n | Edits n a b} (editDistance a b) :=
  ⟨edits_editDistance a b, fun _ h => h.editDistance_le⟩

/-- No edits lead from a text to itself alone. -/
theorem editDistance_eq_zero_iff {a b : Text} : editDistance a b = 0 ↔ a = b := by
  constructor
  · intro h
    have hedits := edits_editDistance a b
    rw [h] at hedits
    cases hedits
    rfl
  · rintro rfl
    exact editDistance_self a

/-! ### Other ways to read two texts -/

theorem editDistance_le_comm (a b : Text) : editDistance a b ≤ editDistance b a :=
  (edits_editDistance b a).symm.editDistance_le

theorem editDistance_comm (a b : Text) : editDistance a b = editDistance b a :=
  le_antisymm (editDistance_le_comm a b) (editDistance_le_comm b a)

theorem editDistance_reverse (a b : Text) :
    editDistance a.reverse b.reverse = editDistance a b := by
  apply le_antisymm
  · exact (edits_editDistance a b).reverse.editDistance_le
  · have := (edits_editDistance a.reverse b.reverse).reverse.editDistance_le
    rwa [List.reverse_reverse, List.reverse_reverse] at this

theorem Edits.length_le {n : ℕ} {a b : Text} (h : Edits n a b) : a.length ≤ b.length + n := by
  induction h with
  | refl a => simp
  | step he _ ih =>
      cases he <;> simp only [List.length_append, List.length_cons] at ih ⊢ <;> omega

/-- Texts are at least as far apart as their lengths. -/
theorem length_sub_le_editDistance (a b : Text) :
    ((a.length : ℤ) - b.length).natAbs ≤ editDistance a b := by
  have hab := (edits_editDistance a b).length_le
  have hba := (edits_editDistance a b).symm.length_le
  omega

end MetaDesk.Spelling
