import Mathlib.Order.Lattice
import Mathlib.Data.List.Basic

/-! # Sorting by a rank

What is sorted here is compared by a rank in some linear order.  Where the rank tells the members of
a list apart, sorting the list without repetitions orders it strictly. -/

namespace MetaDesk

variable {α β : Type} [LinearOrder β] {le : α → α → Bool} {rank : α → β}

theorem pairwise_le_mergeSort_of_rank (hle : ∀ a b, le a b = true ↔ rank a ≤ rank b)
    (as : List α) : (as.mergeSort le).Pairwise fun a b => rank a ≤ rank b := by
  refine (List.pairwise_mergeSort (fun a b c hab hbc => ?_) (fun a b => ?_) as).imp (hle _ _).mp
  · rw [hle] at *
    exact hab.trans hbc
  · rw [Bool.or_eq_true, hle, hle]
    exact le_total (rank a) (rank b)

theorem pairwise_mergeSort_of_rank (hle : ∀ a b, le a b = true ↔ rank a ≤ rank b) {as : List α}
    (hnodup : as.Nodup) (hrank : ∀ a ∈ as, ∀ b ∈ as, rank a = rank b → a = b) :
    (as.mergeSort le).Pairwise fun a b => rank a < rank b := by
  have hsorted := pairwise_le_mergeSort_of_rank hle as
  have hdistinct : (as.mergeSort le).Nodup := (List.mergeSort_perm as le).nodup_iff.mpr hnodup
  refine (hsorted.and hdistinct).imp_of_mem fun {a b} ha hb hab => ?_
  refine lt_of_le_of_ne hab.1 fun heq => hab.2 ?_
  exact hrank a (List.mem_mergeSort.mp ha) b (List.mem_mergeSort.mp hb) heq

end MetaDesk
