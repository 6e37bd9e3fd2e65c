import MetaDesk.Disk.Basic
import Mathlib.Data.List.Nodup

/-! # Disks that are trees

A disk that was made by a system is a tree: each place is there once, and what is in a folder is in
one that exists.  Then the children of a folder are what is found at the places in it
(`mem_children`), each under a name of its own, and on the way to a place there are only folders
(`folder_of_append`). -/

namespace MetaDesk.Disk

/-- The disk is a tree, and no name in it has a slash. -/
structure IsTree (d : Disk) : Prop where
  once : (d.entries.map (·.1)).Nodup
  inFolders : ∀ e ∈ d.entries, d.node? e.1.dropLast = some .folder
  noSlashes : ∀ e ∈ d.entries, ∀ name ∈ e.1, '/' ∉ name

variable {d : Disk} {place : Place} {name : Text} {n : Node}

theorem node?_concat : d.node? (place ++ [name]) = d.entries.lookup (place ++ [name]) := by
  simp [node?]

theorem mem_entries_of_node? (hn : d.node? (place ++ [name]) = some n) :
    (place ++ [name], n) ∈ d.entries := by
  rw [node?_concat] at hn
  obtain ⟨before, after, hentries, -⟩ := List.lookup_eq_some_iff.mp hn
  simp [hentries]

theorem node?_eq_some_iff (hd : d.IsTree) :
    d.node? (place ++ [name]) = some n ↔ (place ++ [name], n) ∈ d.entries := by
  constructor
  · exact mem_entries_of_node?
  · intro hmem
    rw [node?_concat]
    obtain ⟨before, after, hentries⟩ := List.append_of_mem hmem
    refine List.lookup_eq_some_iff.mpr ⟨before, after, hentries, fun e he => ?_⟩
    have honce := hd.once
    rw [hentries, List.map_append] at honce
    have hother : e.1 ≠ place ++ [name] := fun hsame =>
      List.disjoint_of_nodup_append honce (List.mem_map_of_mem he) (by simp [hsame])
    simpa using hother.symm

theorem IsTree.inFolder (hd : d.IsTree) (hn : d.node? (place ++ [name]) = some n) :
    d.node? place = some .folder := by
  simpa using hd.inFolders _ (mem_entries_of_node? hn)

theorem IsTree.noSlash (hd : d.IsTree) (hn : d.node? (place ++ [name]) = some n) : '/' ∉ name :=
  hd.noSlashes _ (mem_entries_of_node? hn) _ (by simp)

/-! ### Children -/

/-- The name and the node of an entry of the disk that is in a folder. -/
def childIn? (place : Place) (e : Place × Node) : Option (Text × Node) :=
  match e.1.reverse with
  | name :: back => if back.reverse = place then some (name, e.2) else none
  | [] => none

theorem children_eq (d : Disk) (place : Place) :
    d.children place = d.entries.filterMap (childIn? place) := rfl

theorem childIn?_eq_some_iff {e : Place × Node} {child : Text × Node} :
    childIn? place e = some child ↔ e = (place ++ [child.1], child.2) := by
  obtain ⟨way, n⟩ := e
  obtain ⟨name, n'⟩ := child
  rw [Prod.mk.injEq, ← List.reverse_inj, List.reverse_append]
  unfold childIn?
  split
  · next last back hway =>
      dsimp only at hway
      rw [hway]
      split
      · next hback => subst hback; simp
      · next hback =>
          simp only [reduceCtorEq, List.reverse_singleton, List.cons_append, List.nil_append,
            List.cons.injEq, false_iff]
          rintro ⟨⟨-, rfl⟩, -⟩
          exact hback (List.reverse_reverse _)
  · next hway =>
      dsimp only at hway
      simp [hway]

theorem mem_children (hd : d.IsTree) :
    (name, n) ∈ d.children place ↔ d.node? (place ++ [name]) = some n := by
  simp only [children_eq, List.mem_filterMap, childIn?_eq_some_iff, exists_eq_right,
    node?_eq_some_iff hd]

theorem nodup_children (hd : d.IsTree) (place : Place) :
    ((d.children place).map (·.1)).Nodup := by
  rw [children_eq, List.Nodup, List.pairwise_map, List.pairwise_filterMap]
  refine (List.pairwise_map.mp hd.once).imp fun {e e'} hplaces child hchild child' hchild' hname => ?_
  rw [childIn?_eq_some_iff] at hchild hchild'
  exact hplaces (by rw [hchild, hchild', hname])

theorem not_mem_children (hnone : d.node? (place ++ [name]) = none) :
    ∀ child ∈ d.children place, child.1 ≠ name := by
  rintro child hchild rfl
  rw [children_eq, List.mem_filterMap] at hchild
  obtain ⟨e, he, hplace⟩ := hchild
  rw [childIn?_eq_some_iff.mp hplace] at he
  rw [node?_concat, List.lookup_eq_none_iff] at hnone
  simpa using hnone _ he

/-- What is put in a folder for the first time is a further child. -/
theorem children_put (hnone : d.node? (place ++ [name]) = none) (n : Node) :
    (d.put (place ++ [name]) n).children place = d.children place ++ [(name, n)] := by
  have hput : ∀ entries : List (Place × Node), entries.lookup (place ++ [name]) = none →
      put.replace (place ++ [name]) n entries = entries ++ [(place ++ [name], n)] := by
    intro entries hentries
    induction entries with
    | nil => rfl
    | cons e entries ih =>
        rw [List.lookup_cons] at hentries
        split at hentries
        · cases hentries
        · next hother =>
            have hplace : e.1 ≠ place ++ [name] := fun hsame => by simp [hsame] at hother
            rw [put.replace, if_neg hplace, ih hentries, List.cons_append]
  have hlast : childIn? place (place ++ [name], n) = some (name, n) := childIn?_eq_some_iff.mpr rfl
  rw [node?_concat] at hnone
  rw [children_eq, put, hput _ hnone, List.filterMap_append, List.filterMap_cons_some hlast]
  rfl

/-- What is taken away is no child any more. -/
theorem children_remove (d : Disk) (place : Place) (name : Text) :
    (d.remove (place ++ [name])).children place =
      (d.children place).filter fun child => child.1 ≠ name := by
  rw [children_eq, remove, List.filterMap_filter, children_eq, List.filter_filterMap]
  refine List.filterMap_congr fun e _ => ?_
  cases hchild : childIn? place e with
  | none => simp
  | some child =>
      rw [childIn?_eq_some_iff] at hchild
      by_cases hname : child.1 = name <;> simp [hchild, hname, Option.filter]

/-! ### On the way to a place -/

/-- On the way to a place there are only folders. -/
theorem folder_of_append (hd : d.IsTree) {names : List Text} (hnames : names ≠ [])
    (hn : d.node? (place ++ names) = some n) : d.node? place = some .folder := by
  induction names generalizing place with
  | nil => exact absurd rfl hnames
  | cons name names ih =>
      by_cases hnil : names = []
      · subst hnil
        exact hd.inFolder hn
      · rw [List.append_cons] at hn
        exact hd.inFolder (ih hnil hn)

end MetaDesk.Disk
