import MetaDesk.Proofs.Diagnostic.Groups
import MetaDesk.Proofs.History
import Mathlib.Algebra.Ring.Nat

/-! # What a store holds after many changes

A store starts empty, and then lists of diagnostics are replaced and all of them forgotten, in any
order (`Change`).  What it holds then can be told from the history alone (`Holds`): a file has the list
that it was given last, and is there when that list is not empty; and the files stand in the order in
which they came in.  A file comes in with the first list that is not empty since it was taken out the
last time (`arrival`), so it keeps its place while its list is replaced, and goes to the end when it
comes back.  Every change keeps this (`Holds.apply`), so it is so after all of them
(`store_after_changes`). -/

namespace MetaDesk

namespace DiagnosticStore

/-- A change of a store. -/
inductive Change where
  | replace (file : Text) (ds : List Diagnostic)
  | clear
deriving DecidableEq, Repr

namespace Change

/-- All diagnostics are forgotten. -/
def isClear : Change → Bool
  | .replace _ _ => false
  | .clear => true

/-- The list that a file is given. -/
def listFor? (file : Text) : Change → Option (List Diagnostic)
  | .replace file' ds => if file' = file then some ds else none
  | .clear => none

/-- The file has no diagnostics afterwards. -/
def empties (file : Text) (change : Change) : Bool :=
  change.isClear || change.listFor? file = some []

/-- The file is given a list. -/
def gives (file : Text) (change : Change) : Bool := (change.listFor? file).isSome

end Change

/-- Make a change. -/
def apply (s : DiagnosticStore) : Change → DiagnosticStore
  | .replace file ds => s.replace file ds
  | .clear => s.clear

/-- A new store after some changes. -/
def after (changes : List Change) : DiagnosticStore := changes.foldl apply {}

/-! ### What the history tells -/

/-- The list that a file was given last since all were forgotten; empty if it was given none. -/
def lastGiven (changes : List Change) (file : Text) : List Diagnostic :=
  ((History.sinceEnd Change.isClear changes).filterMap (·.listFor? file)).getLast?.getD []

/-- The changes since the file is there. -/
def stay (changes : List Change) (file : Text) : List Change :=
  History.since (Change.empties file) (Change.gives file) changes

/-- How many changes there were before the file came in. -/
def arrival (changes : List Change) (file : Text) : ℕ :=
  (History.before (Change.empties file) (Change.gives file) changes).length

variable {changes : List Change} {change : Change} {s : DiagnosticStore} {file other : Text}
  {ds : List Diagnostic}

theorem lastGiven_clear : lastGiven (changes ++ [.clear]) file = [] := by
  unfold lastGiven
  rw [History.sinceEnd_concat_of_ends (by rfl)]
  rfl

theorem lastGiven_replace : lastGiven (changes ++ [.replace file ds]) other =
    if other = file then ds else lastGiven changes other := by
  unfold lastGiven
  rw [History.sinceEnd_concat (by rfl), List.filterMap_append, List.getLast?_append]
  by_cases hfile : other = file
  · simp [Change.listFor?, hfile]
  · simp [Change.listFor?, hfile, Ne.symm hfile]

theorem stay_of_empties (h : change.empties file = true) : stay (changes ++ [change]) file = [] :=
  History.since_concat_of_ends h

theorem empties_of_ne (h : other ≠ file) : (Change.replace file ds).empties other = false := by
  simp [Change.empties, Change.isClear, Change.listFor?, Ne.symm h]

theorem gives_of_ne (h : other ≠ file) : (Change.replace file ds).gives other = false := by
  simp [Change.gives, Change.listFor?, Ne.symm h]

theorem empties_self (hds : ds ≠ []) : (Change.replace file ds).empties file = false := by
  simp [Change.empties, Change.isClear, Change.listFor?, hds]

/-- A change of another file neither brings a file in nor takes it out. -/
theorem stay_replace_of_ne (h : other ≠ file) :
    stay (changes ++ [.replace file ds]) other ≠ [] ↔ stay changes other ≠ [] := by
  unfold stay
  rw [History.since_concat (empties_of_ne h), gives_of_ne h]
  split_ifs with hnone
  · simp [hnone.1]
  · have hthere := fun hstay => hnone ⟨hstay, rfl⟩
    exact iff_of_true (List.concat_ne_nil _ _) hthere

theorem stay_replace_self (hds : ds ≠ []) : stay (changes ++ [.replace file ds]) file ≠ [] := by
  unfold stay
  rw [History.since_concat (empties_self hds), if_neg (by simp [Change.gives, Change.listFor?])]
  exact List.concat_ne_nil _ _

theorem arrival_of_stay (hchange : change.empties file = false) (h : stay changes file ≠ []) :
    arrival (changes ++ [change]) file = arrival changes file := by
  rw [arrival, History.before_concat hchange h, arrival]

theorem arrival_replace_self (hds : ds ≠ []) (h : stay changes file = []) :
    arrival (changes ++ [.replace file ds]) file = changes.length := by
  rw [arrival, History.before_concat_of_starts (empties_self hds)
    (by simp [Change.gives, Change.listFor?]) h]

theorem arrival_lt (h : stay changes file ≠ []) : arrival changes file < changes.length :=
  History.length_before_lt h

/-! ### What a store holds -/

/-- The store holds what the history tells. -/
structure Holds (changes : List Change) (s : DiagnosticStore) : Prop where
  /-- No file is there without diagnostics. -/
  ne_nil : ∀ g ∈ s.byFile, g.2 ≠ []
  /-- A file has the list that it was given last. -/
  get_eq : ∀ file, s.get file = lastGiven changes file
  /-- The files that came in and were not taken out. -/
  mem_keys : ∀ file, file ∈ s.byFile.keys ↔ stay changes file ≠ []
  /-- The files stand in the order in which they came in. -/
  order : s.byFile.keys.Pairwise fun file file' => arrival changes file < arrival changes file'

theorem Holds.nodup_keys (h : Holds changes s) : s.byFile.keys.Nodup := by
  refine h.order.imp fun hlt heq => ?_
  rw [heq] at hlt
  exact lt_irrefl _ hlt

theorem Holds.get_of_mem (h : Holds changes s) {g : Text × List Diagnostic} (hg : g ∈ s.byFile) :
    s.get g.1 = g.2 := by
  rw [get, Keyed.get?_of_mem h.nodup_keys hg, Option.getD_some]

/-- A file is there when it has diagnostics. -/
theorem Holds.mem_keys_iff (h : Holds changes s) : file ∈ s.byFile.keys ↔ s.get file ≠ [] := by
  constructor
  · intro hfile
    obtain ⟨g, hg, rfl⟩ := List.mem_map.mp hfile
    rw [h.get_of_mem hg]
    exact h.ne_nil g hg
  · intro hget
    by_contra hfile
    rw [get, Keyed.get?_eq_none_iff.mpr hfile] at hget
    exact hget rfl

/-- What is there is what files were given last, as far as that is something. -/
theorem Holds.mem_iff (h : Holds changes s) {g : Text × List Diagnostic} :
    g ∈ s.byFile ↔ g.2 = lastGiven changes g.1 ∧ g.2 ≠ [] := by
  constructor
  · intro hg
    rw [← h.get_eq, h.get_of_mem hg]
    exact ⟨rfl, h.ne_nil g hg⟩
  · rintro ⟨hlist, hsome⟩
    rw [← h.get_eq] at hlist
    obtain ⟨g', hg', hfile⟩ := List.mem_map.mp (h.mem_keys_iff.mpr (hlist ▸ hsome))
    have hsame : g' = g := by
      refine Prod.ext hfile ?_
      rw [hlist, ← hfile, h.get_of_mem hg']
    exact hsame ▸ hg'

/-! ### One more change -/

/-- Files that a change does not take out stay in their order. -/
theorem Holds.order_of_kept (h : Holds changes s) {files : List Text}
    (hfiles : files.Sublist s.byFile.keys) (hkept : ∀ file ∈ files, change.empties file = false) :
    files.Pairwise fun file file' =>
      arrival (changes ++ [change]) file < arrival (changes ++ [change]) file' := by
  have hsame : ∀ file ∈ files, arrival (changes ++ [change]) file = arrival changes file :=
    fun file hfile =>
      arrival_of_stay (hkept file hfile) ((h.mem_keys file).mp (hfiles.subset hfile))
  refine (h.order.sublist hfiles).imp_of_mem fun ha hb hlt => ?_
  rwa [hsame _ ha, hsame _ hb]

theorem holds_nil : Holds [] {} where
  ne_nil _ hg := by cases hg
  get_eq _ := rfl
  mem_keys _ := by simp [stay, History.since, History.sinceEnd, Keyed.keys]
  order := List.Pairwise.nil

theorem holds_clear (s : DiagnosticStore) : Holds (changes ++ [.clear]) s.clear where
  ne_nil _ hg := by cases hg
  get_eq _ := lastGiven_clear.symm
  mem_keys _ := iff_of_false List.not_mem_nil fun hthere => hthere (stay_of_empties rfl)
  order := List.Pairwise.nil

/-- Taking a file out leaves the places of the others. -/
theorem Holds.replace_nil (h : Holds changes s) (file : Text) :
    Holds (changes ++ [.replace file []]) (s.replace file []) where
  ne_nil g hg := h.ne_nil g (List.mem_filter.mp hg).1
  get_eq other := by rw [get_replace, lastGiven_replace, h.get_eq]
  mem_keys other := by
    change other ∈ (s.byFile.erase file).keys ↔ _
    rw [Keyed.keys_erase, List.mem_filter, h.mem_keys, decide_eq_true_eq]
    by_cases hfile : other = file
    · subst hfile
      have hgone : stay (changes ++ [.replace other []]) other = [] :=
        stay_of_empties (by simp [Change.empties, Change.listFor?])
      exact iff_of_false (fun hkept => hkept.2 rfl) fun hthere => hthere hgone
    · rw [and_iff_left hfile, stay_replace_of_ne hfile]
  order := by
    change (s.byFile.erase file).keys.Pairwise _
    rw [Keyed.keys_erase]
    exact h.order_of_kept List.filter_sublist fun other hother =>
      empties_of_ne (of_decide_eq_true (List.mem_filter.mp hother).2)

/-- A file with a new list keeps its place if it is there, and otherwise goes to the end. -/
theorem Holds.replace_of_ne_nil (h : Holds changes s) (file : Text) (hds : ds ≠ []) :
    Holds (changes ++ [.replace file ds]) (s.replace file ds) where
  ne_nil g hg := by
    rw [byFile_replace s file hds] at hg
    rcases Keyed.mem_put hg with hg | rfl
    · exact h.ne_nil g hg
    · exact hds
  get_eq other := by rw [get_replace, lastGiven_replace, h.get_eq]
  mem_keys other := by
    rw [byFile_replace s file hds, Keyed.mem_keys_put, h.mem_keys]
    by_cases hfile : other = file
    · subst hfile
      exact iff_of_true (Or.inl rfl) (stay_replace_self hds)
    · rw [or_iff_right hfile, stay_replace_of_ne hfile]
  order := by
    have hkept : ∀ other, (Change.replace file ds).empties other = false := by
      intro other
      by_cases hfile : other = file
      · exact hfile ▸ empties_self hds
      · exact empties_of_ne hfile
    have hold := h.order_of_kept (List.Sublist.refl _) fun other _ => hkept other
    rw [byFile_replace s file hds, Keyed.keys_put]
    split_ifs with hthere
    · exact hold
    · -- the file comes in after all that are there
      have hnew : stay changes file = [] := not_not.mp (mt (h.mem_keys file).mpr hthere)
      refine List.pairwise_append.mpr ⟨hold, List.pairwise_singleton _ _, fun a ha b hb => ?_⟩
      have hstay : stay changes a ≠ [] := (h.mem_keys a).mp ha
      rw [List.mem_singleton] at hb
      rw [hb, arrival_of_stay (hkept a) hstay, arrival_replace_self hds hnew]
      exact arrival_lt hstay

theorem Holds.apply (h : Holds changes s) (change : Change) :
    Holds (changes ++ [change]) (s.apply change) := by
  cases change with
  | clear => exact holds_clear s
  | replace file ds =>
      by_cases hds : ds = []
      · subst hds
        exact h.replace_nil file
      · exact h.replace_of_ne_nil file hds

theorem holds_after (changes : List Change) : Holds changes (after changes) := by
  induction changes using List.reverseRecOn with
  | nil => exact holds_nil
  | append_singleton changes change ih =>
      have hlast : after (changes ++ [change]) = (after changes).apply change :=
        List.foldl_concat _ _ _ _
      rw [hlast]
      exact ih.apply change

/-! ### What a replacement does -/

/-- Giving a file a list leaves the other files with their lists and in their order.  The file keeps its
place if it is there, and comes in at the end if it is not. -/
structure Replaces (s : DiagnosticStore) (file : Text) (ds : List Diagnostic) : Prop where
  others : (s.replace file ds).byFile.filter (fun g => g.1 ≠ file) =
    s.byFile.filter fun g => g.1 ≠ file
  stays : s.get file ≠ [] → ds ≠ [] → (s.replace file ds).byFile.keys = s.byFile.keys
  comes : s.get file = [] → ds ≠ [] → (s.replace file ds).byFile = s.byFile ++ [(file, ds)]

theorem Holds.replaces (h : Holds changes s) (file : Text) (ds : List Diagnostic) :
    Replaces s file ds where
  others :=
    filter_replace (p := fun file' => file' ≠ file) (decide_eq_false (not_not.mpr rfl)) s ds
  stays hget hds := by
    rw [byFile_replace s file hds, Keyed.keys_put, if_pos (h.mem_keys_iff.mpr hget)]
  comes hget hds := by
    have hnew : file ∉ s.byFile.keys := fun hfile => h.mem_keys_iff.mp hfile hget
    rw [byFile_replace s file hds, Keyed.put_of_not_mem hnew]

theorem size_eq_sum (s : DiagnosticStore) : s.size = (s.byFile.map fun g => g.2.length).sum :=
  List.length_flatMap

/-- **What a store holds after any changes.**  No file has an empty list, each has the list that it was
given last since all were forgotten, and the files stand in the order in which they came in; nothing
else is there.  A list for one file leaves the others as they are; the file keeps its place or comes in
at the end.  The size counts what is there, and there are errors when one of it is an error. -/
theorem store_after_changes (changes : List Change) :
    Holds changes (after changes) ∧
      (∀ g, g ∈ (after changes).byFile ↔ g.2 = lastGiven changes g.1 ∧ g.2 ≠ []) ∧
      (∀ file ds, Replaces (after changes) file ds) ∧
      (after changes).size = ((after changes).byFile.map fun g => g.2.length).sum ∧
      ((after changes).hasErrors = true ↔
        ∃ g ∈ (after changes).byFile, ∃ d ∈ g.2, d.severity = .error) := by
  have hholds := holds_after changes
  exact ⟨hholds, fun g => hholds.mem_iff, hholds.replaces, size_eq_sum _, hasErrors_eq_true_iff⟩

/-- A file that comes back after its list was empty stands behind the others, but not one whose list
was replaced by another. -/
example (d : Diagnostic) :
    (after [.replace "a" [d], .replace "b" [d], .replace "c" [d], .replace "b" [d, d],
      .replace "a" [], .replace "a" [d]]).byFile.keys = (["b", "c", "a"] : List Text) := rfl

end DiagnosticStore

end MetaDesk
