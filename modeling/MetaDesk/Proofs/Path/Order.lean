import MetaDesk.Path.Basic
import MetaDesk.Proofs.Sorting
import MetaDesk.Proofs.Text.Order

/-! # The order of paths

Paths are ordered by their names, the root being the first one, and `before` and `notAfter` decide
this order.  Paths with the same root are told apart by it (`rootNames_injective`), so sorting them
without repetitions gives a strict order (`pairwise_mergeSort_notAfter`). -/

namespace MetaDesk.Path

open before (rootNames go)

theorem go_iff {ps qs : List Text} : go ps qs = true ↔ ps < qs := by
  induction ps generalizing qs with
  | nil => cases qs <;> simp [go]
  | cons p ps ih =>
      cases qs with
      | nil => simp [go]
      | cons q qs =>
          rw [go, List.cons_lt_cons_iff]
          split_ifs with hsame
          · simp [hsame, ih]
          · simp [hsame, Text.before_iff]

theorem before_iff {p q : Path} : before p q = true ↔ rootNames p < rootNames q := go_iff

theorem notAfter_iff {p q : Path} : notAfter p q = true ↔ rootNames p ≤ rootNames q := by
  rw [notAfter, Bool.not_eq_true', ← Bool.not_eq_true, before_iff, not_lt]

/-- Paths with one root are told apart by their names. -/
theorem rootNames_injective {p q : Path} (hroot : p.root = q.root)
    (hnames : rootNames p = rootNames q) : p = q := by
  obtain ⟨root, names⟩ := p
  obtain ⟨root', names'⟩ := q
  obtain rfl : root = root' := hroot
  cases root <;> simp_all [rootNames]

theorem pairwise_mergeSort_notAfter {ps : List Path} (hnodup : ps.Nodup) (root : Root)
    (hroot : ∀ p ∈ ps, p.root = root) :
    (ps.mergeSort notAfter).Pairwise fun p q => before p q = true := by
  simp only [before_iff]
  refine pairwise_mergeSort_of_rank (fun p q => notAfter_iff (p := p) (q := q)) hnodup
    fun p hp q hq heq => ?_
  exact rootNames_injective ((hroot p hp).trans (hroot q hq).symm) heq

end MetaDesk.Path
