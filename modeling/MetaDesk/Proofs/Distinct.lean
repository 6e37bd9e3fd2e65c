import Mathlib.Data.List.Basic
import Mathlib.Tactic.SplitIfs

/-! # Lists without repetitions

Of what stands in a list more than once, only the first is kept. -/

namespace MetaDesk

variable {α : Type} [BEq α] [LawfulBEq α]

theorem nodup_eraseDups : ∀ as : List α, as.eraseDups.Nodup
  | [] => List.nodup_nil
  | a :: as => by
      have hshorter : (as.filter fun b => !b == a).length < as.length + 1 :=
        Nat.lt_succ_of_le (List.length_filter_le _ _)
      rw [List.eraseDups_cons, List.nodup_cons, List.mem_eraseDups]
      exact ⟨by simp, nodup_eraseDups _⟩
termination_by as => as.length

theorem eraseDups_concat (as : List α) (a : α) :
    (as ++ [a]).eraseDups = if a ∈ as then as.eraseDups else as.eraseDups ++ [a] := by
  rw [List.eraseDups_append]
  split_ifs with ha
  · have hrest : [a].removeAll as = [] := by simp [List.removeAll, ha]
    rw [hrest, List.eraseDups_nil, List.append_nil]
  · have hrest : [a].removeAll as = [a] := by simp [List.removeAll, ha]
    rw [hrest]
    rfl

end MetaDesk
