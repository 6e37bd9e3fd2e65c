import MetaDesk.Text.Basic
import Mathlib.Data.Char
import Mathlib.Data.List.Lex

/-! # The order of texts

Texts are ordered by their code points, as lists are by their members, and `before` and `notAfter`
decide this order. -/

namespace MetaDesk.Text

theorem toNat_lt_toNat_iff {c d : Char} : c.toNat < d.toNat ↔ c < d := Iff.rfl

theorem before_iff {a b : Text} : before a b = true ↔ a < b := by
  induction a generalizing b with
  | nil => cases b <;> simp [before]
  | cons c a ih =>
      cases b with
      | nil => simp [before]
      | cons d b =>
          rw [before, Bool.or_eq_true, Bool.and_eq_true, decide_eq_true_eq, beq_iff_eq, ih,
            toNat_lt_toNat_iff, List.cons_lt_cons_iff]

theorem notAfter_iff {a b : Text} : notAfter a b = true ↔ a ≤ b := by
  rw [notAfter, Bool.not_eq_true', ← Bool.not_eq_true, before_iff, not_lt]

end MetaDesk.Text
