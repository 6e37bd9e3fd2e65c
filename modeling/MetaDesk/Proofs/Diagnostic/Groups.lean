import MetaDesk.Diagnostic.Store
import MetaDesk.Proofs.Distinct
import MetaDesk.Proofs.Keyed

/-! # Diagnostics put together by file

Putting diagnostics together by file keeps all of them (`mem_groupByFile`), those of one file in
their order (`get?_groupByFile`), and has each file once (`nodup_keys_groupByFile`).  So the groups
are a partition of the diagnostics, with the files as they first appear (`isPartition_groupByFile`).

A store in which such groups replace what was there has them for their files, and every other file as
before, at its place (`byFile_replaceAll`, `get?_replaceAll`, `filter_replaceAll`). -/

namespace MetaDesk

namespace Diagnostic

theorem mem_put_behind {t : ByFile} {file : Text} {d e : Diagnostic} :
    (∃ g ∈ t.put file ((t.get? file).getD [] ++ [d]), e ∈ g.2) ↔ (∃ g ∈ t, e ∈ g.2) ∨ e = d := by
  induction t with
  | nil => simp [Keyed.put]
  | cons g t ih =>
      obtain ⟨file', ds⟩ := g
      rw [Keyed.put, Keyed.get?_cons]
      split_ifs with hfile hfile'
      · simp only [List.mem_cons, exists_eq_or_imp, Option.getD_some, List.mem_append,
          List.not_mem_nil, or_false]
        exact or_right_comm
      · exact absurd hfile.symm hfile'
      · next h => exact absurd h.symm hfile
      · simp only [List.mem_cons, exists_eq_or_imp, ih]
        exact (or_assoc).symm

theorem mem_groupByFile {ds : List Diagnostic} {e : Diagnostic} :
    (∃ g ∈ groupByFile ds, e ∈ g.2) ↔ e ∈ ds := by
  have hadd : ∀ groups : ByFile, (∃ g ∈ ds.foldl addTo groups, e ∈ g.2) ↔
      (∃ g ∈ groups, e ∈ g.2) ∨ e ∈ ds := by
    induction ds with
    | nil => simp
    | cons d ds ih =>
        intro groups
        rw [List.foldl_cons, ih, addTo, mem_put_behind, List.mem_cons, or_assoc]
  unfold groupByFile
  rw [hadd]
  simp

theorem get?_foldl_addTo (ds : List Diagnostic) (groups : ByFile) (file : Text) :
    (ds.foldl addTo groups).get? file =
      if ds.filter (·.file = file) = [] then groups.get? file
      else some ((groups.get? file).getD [] ++ ds.filter (·.file = file)) := by
  induction ds generalizing groups with
  | nil => rfl
  | cons d ds ih =>
      rw [List.foldl_cons, ih, addTo, Keyed.get?_put]
      by_cases hfile : file = d.file
      · subst hfile
        by_cases hrest : ds.filter (·.file = d.file) = [] <;> simp [hrest]
      · have hother : ¬ d.file = file := fun h => hfile h.symm
        simp [hfile, hother]

/-- The group of a file is what was reported on it, in order. -/
theorem get?_groupByFile (ds : List Diagnostic) (file : Text) :
    (groupByFile ds).get? file =
      if ds.filter (·.file = file) = [] then none else some (ds.filter (·.file = file)) := by
  unfold groupByFile
  rw [get?_foldl_addTo]
  rfl

theorem nodup_keys_groupByFile (ds : List Diagnostic) : (groupByFile ds).keys.Nodup := by
  have hadd : ∀ groups : ByFile, groups.keys.Nodup → (ds.foldl addTo groups).keys.Nodup := by
    induction ds with
    | nil => exact fun _ h => h
    | cons d ds ih => exact fun groups h => ih _ (Keyed.nodup_keys_put h _ _)
  exact hadd [] List.nodup_nil

theorem eq_filter_of_mem_groupByFile {ds : List Diagnostic} {g : Text × List Diagnostic}
    (hg : g ∈ groupByFile ds) : g.2 = ds.filter (·.file = g.1) ∧ g.2 ≠ [] := by
  have hget := Keyed.get?_of_mem (nodup_keys_groupByFile ds) hg
  rw [get?_groupByFile] at hget
  split_ifs at hget with hnone
  have hgroup : g.2 = ds.filter (·.file = g.1) := (Option.some.inj hget).symm
  exact ⟨hgroup, hgroup ▸ hnone⟩

/-! ### Partitions -/

/-- Groups in which each diagnostic is once, with others of its file and in their order. -/
structure IsPartition (ds : List Diagnostic) (groups : ByFile) : Prop where
  /-- The files are there as they first appear. -/
  keys_eq : groups.keys = (ds.map (·.file)).eraseDups
  /-- A group is what was reported on its file, in order. -/
  group_eq : ∀ g ∈ groups, g.2 = ds.filter (·.file = g.1)
  group_ne_nil : ∀ g ∈ groups, g.2 ≠ []
  /-- All groups together are the diagnostics. -/
  perm : (groups.flatMap (·.2)).Perm ds

theorem groupByFile_concat (ds : List Diagnostic) (d : Diagnostic) :
    groupByFile (ds ++ [d]) = addTo (groupByFile ds) d := by
  rw [groupByFile, List.foldl_append]
  rfl

theorem keys_groupByFile (ds : List Diagnostic) :
    (groupByFile ds).keys = (ds.map (·.file)).eraseDups := by
  induction ds using List.reverseRecOn with
  | nil => rfl
  | append_singleton ds d ih =>
      rw [groupByFile_concat, addTo, Keyed.keys_put, List.map_append, List.map_singleton,
        eraseDups_concat, ih]
      simp only [List.mem_eraseDups]

theorem perm_put_behind (t : ByFile) (file : Text) (d : Diagnostic) :
    ((t.put file ((t.get? file).getD [] ++ [d])).flatMap (·.2)).Perm (t.flatMap (·.2) ++ [d]) := by
  induction t with
  | nil => exact List.Perm.refl _
  | cons g t ih =>
      obtain ⟨file', ds⟩ := g
      rw [Keyed.put, Keyed.get?_cons]
      by_cases hfile : file' = file
      · subst hfile
        rw [if_pos rfl, if_pos rfl, List.flatMap_cons, List.flatMap_cons, Option.getD_some,
          List.append_assoc, List.append_assoc]
        exact List.perm_append_comm.append_left ds
      · rw [if_neg hfile, if_neg (Ne.symm hfile), List.flatMap_cons, List.flatMap_cons,
          List.append_assoc]
        exact ih.append_left ds

theorem perm_groupByFile (ds : List Diagnostic) : ((groupByFile ds).flatMap (·.2)).Perm ds := by
  induction ds using List.reverseRecOn with
  | nil => exact List.Perm.refl _
  | append_singleton ds d ih =>
      rw [groupByFile_concat]
      exact (perm_put_behind _ d.file d).trans (ih.append_right [d])

/-- Diagnostics put together by file are a partition of them. -/
theorem isPartition_groupByFile (ds : List Diagnostic) : IsPartition ds (groupByFile ds) where
  keys_eq := keys_groupByFile ds
  group_eq _ hg := (eq_filter_of_mem_groupByFile hg).1
  group_ne_nil _ hg := (eq_filter_of_mem_groupByFile hg).2
  perm := perm_groupByFile ds

end Diagnostic

namespace DiagnosticStore

theorem byFile_replace (s : DiagnosticStore) (file : Text) {ds : List Diagnostic} (hds : ds ≠ []) :
    (s.replace file ds).byFile = s.byFile.put file ds := by
  rw [replace, if_neg (by simpa using hds)]

theorem filter_replace {p : Text → Bool} {file : Text} (hfile : p file = false)
    (s : DiagnosticStore) (ds : List Diagnostic) :
    (s.replace file ds).byFile.filter (fun e => p e.1) = s.byFile.filter fun e => p e.1 := by
  unfold replace
  split_ifs
  · exact Keyed.filter_erase hfile _
  · exact Keyed.filter_put hfile _ _

/-- Replacing by groups that are not empty brings the table of the store up to date with them. -/
theorem byFile_replaceAll {groups : ByFile} (hgroups : ∀ g ∈ groups, g.2 ≠ [])
    (s : DiagnosticStore) : (s.replaceAll groups).byFile = Keyed.update s.byFile groups := by
  unfold replaceAll
  induction groups generalizing s with
  | nil => rfl
  | cons g groups ih =>
      obtain ⟨file, ds⟩ := g
      have hds : ds ≠ [] := hgroups (file, ds) List.mem_cons_self
      rw [List.foldl_cons, ih fun g hg => hgroups g (List.mem_cons_of_mem _ hg),
        byFile_replace s file hds, Keyed.update_cons]

/-- Each group is what the store has of its file afterwards; other files are as before. -/
theorem get?_replaceAll {groups : ByFile} (hkeys : groups.keys.Nodup)
    (hgroups : ∀ g ∈ groups, g.2 ≠ []) (s : DiagnosticStore) (file : Text) :
    (s.replaceAll groups).byFile.get? file = (groups.get? file).or (s.byFile.get? file) := by
  rw [byFile_replaceAll hgroups, Keyed.get?_update _ hkeys]

theorem filter_replaceAll {groups : ByFile} {p : Text → Bool} (hp : ∀ g ∈ groups, p g.1 = false)
    (s : DiagnosticStore) :
    (s.replaceAll groups).byFile.filter (fun e => p e.1) = s.byFile.filter fun e => p e.1 := by
  unfold replaceAll
  induction groups generalizing s with
  | nil => rfl
  | cons g groups ih =>
      rw [List.foldl_cons, ih fun g hg => hp g (List.mem_cons_of_mem _ hg),
        filter_replace (hp g List.mem_cons_self)]

/-- What is reported on a file replaces what the store has of it. -/
theorem get?_replaceAll_groupByFile (s : DiagnosticStore) (ds : List Diagnostic) (file : Text) :
    (s.replaceAll (Diagnostic.groupByFile ds)).byFile.get? file =
      if ds.filter (·.file = file) = [] then s.byFile.get? file
      else some (ds.filter (·.file = file)) := by
  rw [get?_replaceAll (Diagnostic.nodup_keys_groupByFile ds)
    (fun g hg => (Diagnostic.eq_filter_of_mem_groupByFile hg).2), Diagnostic.get?_groupByFile]
  split_ifs <;> rfl

end DiagnosticStore

end MetaDesk
