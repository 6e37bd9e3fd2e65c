import MetaDesk.Spelling.Dictionary
import Mathlib.Data.List.Nodup

/-! # What is in the drawers

A dictionary that is made of names holds each name that is long enough once, in the drawer of its
first letter, and nothing else (`holds_ofNames`).  So a name is looked for in one drawer only, and
is found when it is among the names (`Holds.contains_iff`). -/

namespace MetaDesk.Spelling.Dictionary

variable {d : Dictionary} {names : List Text} {name other letter : Text}

/-! ### One more name -/

theorem contains_iff_mem : d.contains name = true ↔ name ∈ d.drawer (drawerOf name) := by
  rw [contains, List.contains_iff_mem]

theorem add_of_skipped (h : name.length < shortest ∨ d.contains name = true) : d.add name = d :=
  if_pos (by simpa using h)

theorem drawer_add_self (h : ¬ (name.length < shortest ∨ d.contains name = true)) :
    (d.add name).drawer (drawerOf name) = d.drawer (drawerOf name) ++ [name] := by
  have hput : d.add name = ⟨d.drawers.put (drawerOf name) (d.drawer (drawerOf name) ++ [name])⟩ :=
    if_neg (by simpa using h)
  rw [hput]
  simp [drawer, Keyed.get?_put]

/-- A name that is long enough comes into its drawer, where it may be already. -/
theorem mem_drawer_add : other ∈ (d.add name).drawer letter ↔
    other ∈ d.drawer letter ∨ other = name ∧ shortest ≤ name.length ∧ drawerOf name = letter := by
  by_cases hskip : name.length < shortest ∨ d.contains name = true
  · rw [add_of_skipped hskip, or_iff_left_of_imp]
    rintro ⟨rfl, hlength, rfl⟩
    rcases hskip with hshort | hcontains
    · omega
    · exact contains_iff_mem.mp hcontains
  · by_cases hletter : letter = drawerOf name
    · subst hletter
      have hlength : shortest ≤ name.length := by omega
      rw [drawer_add_self hskip, List.mem_append, List.mem_singleton]
      simp [hlength]
    · rw [drawer_add_of_ne hletter, or_iff_left]
      rintro ⟨-, -, h⟩
      exact hletter h.symm

theorem nodup_drawer_add (hnodup : (d.drawer letter).Nodup) :
    ((d.add name).drawer letter).Nodup := by
  by_cases hskip : name.length < shortest ∨ d.contains name = true
  · rwa [add_of_skipped hskip]
  · by_cases hletter : letter = drawerOf name
    · subst hletter
      have hnew : name ∉ d.drawer (drawerOf name) := fun h =>
        hskip (Or.inr (contains_iff_mem.mpr h))
      rw [drawer_add_self hskip, ← List.concat_eq_append]
      exact hnodup.concat hnew
    · rwa [drawer_add_of_ne hletter]

/-! ### All names -/

/-- The drawers hold these names: each that is long enough, once, and in its own drawer. -/
structure Holds (d : Dictionary) (names : List Text) : Prop where
  mem_drawer : ∀ letter name, name ∈ d.drawer letter ↔
    name ∈ names ∧ shortest ≤ name.length ∧ drawerOf name = letter
  nodup : ∀ letter, (d.drawer letter).Nodup

theorem Holds.contains_iff (hd : d.Holds names) :
    d.contains name = true ↔ name ∈ names ∧ shortest ≤ name.length := by
  rw [contains_iff_mem, hd.mem_drawer]
  simp

theorem Holds.add (hd : d.Holds names) (name : Text) : (d.add name).Holds (names ++ [name]) := by
  refine ⟨fun letter other => ?_, fun letter => nodup_drawer_add (hd.nodup letter)⟩
  rw [mem_drawer_add, hd.mem_drawer, List.mem_append, List.mem_singleton, or_and_right]
  refine or_congr_right (and_congr_right ?_)
  rintro rfl
  rfl

/-- The dictionary of some names holds them. -/
theorem holds_ofNames (names : List Text) : (ofNames names).Holds names := by
  have hfold : ∀ (rest done : List Text) (d : Dictionary), d.Holds done →
      (rest.foldl Dictionary.add d).Holds (done ++ rest) := by
    intro rest
    induction rest with
    | nil => exact fun done d hd => by rwa [List.append_nil]
    | cons name rest ih =>
        intro done d hd
        have hstep := ih (done ++ [name]) (d.add name) (hd.add name)
        rwa [List.append_assoc, List.singleton_append] at hstep
  have hempty : ({} : Dictionary).Holds [] :=
    ⟨fun _ _ => by simp [drawer], fun _ => by simp [drawer]⟩
  exact hfold names [] {} hempty

end MetaDesk.Spelling.Dictionary
