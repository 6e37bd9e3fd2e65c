import MetaDesk.Include.Scan
import MetaDesk.Proofs.Disk.Tree
import MetaDesk.Proofs.Host.Act
import MetaDesk.Proofs.Path.Reading
import Mathlib.Data.Set.Card

/-! # What is found in a workspace

`IsListed` says which sources are found in a workspace on a tree, in which there may be links
(`mem_allSources_iff_isListed`): a link to a folder is not entered, and any other link counts as a
file.  `IsScanned` says which files are the sources of a workspace.  Without links below the folder of
the workspace these are the sources that are found (`mem_allSources`), each of them once.  So where
there are not more of them than are asked for, none is left out (`take_allSources`). -/

namespace MetaDesk

theorem Path.suffix_append {names : List Text} (hnames : names ≠ []) (root root' : Root)
    (before : List Text) : Path.suffix ⟨root, before ++ names⟩ = Path.suffix ⟨root', names⟩ := by
  simp only [Path.suffix, Path.name, List.getLast?_append_of_ne_nil _ hnames]

theorem Path.suffix_ofText {name : Text} (h : '/' ∉ name) :
    (Path.ofText name).suffix = Path.suffix ⟨.none, [name]⟩ := by
  simp only [Path.ofText, Path.namesOf, Text.splitOn_of_not_mem h]
  by_cases hkept : Path.isKept name = true
  · simp [hkept, Path.suffix, Path.name]
  · have hname : name = [] ∨ name = ['.'] := by
      simpa [Path.isKept, imp_iff_not_or] using hkept
    rcases hname with rfl | rfl <;> rfl

namespace Include

/-- From a place these names lead down to a source, and through no folder that is skipped. -/
structure IsSourceBelow (d : Disk) (place : Place) (names : List Text) : Prop where
  below : names ≠ []
  file : ∃ content, d.node? (place ++ names) = some (.file content)
  isSource : Flavor.isSource (Path.suffix ⟨.none, names⟩) = true
  through : ∀ folder ∈ names.dropLast, folder ∉ skippedFolders

/-- Something is in a folder under this name that is no folder and no link to one. -/
def IsFileIn (d : Disk) (place : Place) (name : Text) : Prop :=
  ∃ n, d.node? (place ++ [name]) = some n ∧ leadsToFolder d place (name, n) = false

/-- From a place these names lead down, through folders that are not skipped, to something that is
taken for a source. -/
inductive IsListedBelow (d : Disk) : Place → List Text → Prop
  | here {place : Place} {name : Text} : IsFileIn d place name →
      Flavor.isSource (Path.suffix ⟨.none, [name]⟩) = true → IsListedBelow d place [name]
  | down {place : Place} {folder : Text} {names : List Text} :
      d.node? (place ++ [folder]) = some .folder → folder ∉ skippedFolders →
      IsListedBelow d (place ++ [folder]) names → IsListedBelow d place (folder :: names)

/-- There is no link below a place. -/
def NoLinks (d : Disk) (place : Place) : Prop :=
  ∀ names target, d.node? (place ++ names) ≠ some (.link target)

variable {d : Disk} {place : Place} {name : Text} {names : List Text}

theorem NoLinks.down (hlinks : NoLinks d place) (folder : Text) : NoLinks d (place ++ [folder]) := by
  intro names target
  rw [List.append_assoc]
  exact hlinks _ target

theorem noLinks_of_entries (hentries : ∀ e ∈ d.entries, ∀ target, e.2 ≠ .link target) :
    NoLinks d place := by
  intro names target hn
  unfold Disk.node? at hn
  split at hn
  · cases hn
  · obtain ⟨before, after, hsplit, -⟩ := List.lookup_eq_some_iff.mp hn
    exact hentries (place ++ names, .link target) (by simp [hsplit]) target rfl

/-! ### One folder -/

theorem mem_sourceNames (hd : d.IsTree) : name ∈ sourceNames d place ↔
    IsFileIn d place name ∧ Flavor.isSource (Path.suffix ⟨.none, [name]⟩) = true := by
  simp only [sourceNames, List.mem_mergeSort, List.mem_map, List.mem_filter, Prod.exists,
    exists_and_right, exists_eq_right, Bool.and_eq_true, Bool.not_eq_true', Disk.mem_children hd]
  constructor
  · rintro ⟨n, hn, hfile, hsource⟩
    rw [isSourceName, Path.suffix_ofText (hd.noSlash hn)] at hsource
    exact ⟨⟨n, hn, hfile⟩, hsource⟩
  · rintro ⟨⟨n, hn, hfile⟩, hsource⟩
    refine ⟨n, hn, hfile, ?_⟩
    rwa [isSourceName, Path.suffix_ofText (hd.noSlash hn)]

theorem mem_folderNames (hd : d.IsTree) :
    name ∈ folderNames d place ↔
      d.node? (place ++ [name]) = some .folder ∧ name ∉ skippedFolders := by
  simp [folderNames, Disk.mem_children hd]

theorem nodup_names (hd : d.IsTree) (place : Place) (keep : Text × Node → Bool) :
    ((((d.children place).filter keep).map (·.1)).mergeSort Text.notAfter).Nodup := by
  refine (List.mergeSort_perm _ _).nodup_iff.mpr ?_
  exact (Disk.nodup_children hd place).sublist (List.filter_sublist.map _)

/-! ### All folders -/

/-- A source below a folder is below the folder above too, when that one is not skipped. -/
theorem isSourceBelow_cons (hd : d.IsTree) (hnames : names ≠ []) {folder : Text} :
    IsSourceBelow d place (folder :: names) ↔
      folder ∈ folderNames d place ∧ IsSourceBelow d (place ++ [folder]) names := by
  have hsuffix : Path.suffix ⟨.none, folder :: names⟩ = Path.suffix ⟨.none, names⟩ :=
    Path.suffix_append hnames _ _ [folder]
  rw [mem_folderNames hd]
  constructor
  · rintro ⟨-, ⟨content, hn⟩, hsource, hthrough⟩
    rw [List.append_cons] at hn
    rw [List.dropLast_cons_of_ne_nil hnames] at hthrough
    refine ⟨⟨Disk.folder_of_append hd hnames hn, hthrough _ List.mem_cons_self⟩, ?_⟩
    exact ⟨hnames, ⟨content, hn⟩, hsuffix ▸ hsource,
      fun folder' hmem => hthrough folder' (List.mem_cons_of_mem _ hmem)⟩
  · rintro ⟨⟨-, hfolder⟩, -, ⟨content, hn⟩, hsource, hthrough⟩
    refine ⟨List.cons_ne_nil _ _, ⟨content, by rwa [List.append_cons]⟩, hsuffix ▸ hsource, ?_⟩
    rw [List.dropLast_cons_of_ne_nil hnames]
    exact List.forall_mem_cons.mpr ⟨hfolder, hthrough⟩

theorem nil_not_mem_namesBelow (depth : ℕ) (place : Place) : [] ∉ namesBelow d depth place := by
  cases depth <;> simp [namesBelow]

theorem IsListedBelow.ne_nil (hlisted : IsListedBelow d place names) : names ≠ [] := by
  cases hlisted <;> exact List.cons_ne_nil _ _

theorem isListedBelow_cons (hd : d.IsTree) (hnames : names ≠ []) {folder : Text} :
    IsListedBelow d place (folder :: names) ↔
      folder ∈ folderNames d place ∧ IsListedBelow d (place ++ [folder]) names := by
  rw [mem_folderNames hd]
  constructor
  · rintro (_ | ⟨hn, hfolder, hbelow⟩)
    · exact absurd rfl hnames
    · exact ⟨⟨hn, hfolder⟩, hbelow⟩
  · rintro ⟨⟨hn, hfolder⟩, hbelow⟩
    exact .down hn hfolder hbelow

/-- What is found below a place are the sources that are not deeper than one looks. -/
theorem mem_namesBelow (hd : d.IsTree) {depth : ℕ} :
    names ∈ namesBelow d depth place ↔ IsListedBelow d place names ∧ names.length ≤ depth := by
  induction depth generalizing place names with
  | zero =>
      simp only [namesBelow, List.not_mem_nil, Nat.le_zero, List.length_eq_zero_iff, false_iff]
      exact fun ⟨hlisted, hnil⟩ => hlisted.ne_nil hnil
  | succ depth ih =>
      -- One name is that of a source in the folder itself; more than one start with a folder.
      rw [namesBelow, List.mem_append]
      match names with
      | [] =>
          simp only [List.mem_map, List.mem_flatMap, reduceCtorEq, and_false, exists_false, or_self,
            false_iff]
          exact fun ⟨hlisted, _⟩ => hlisted.ne_nil rfl
      | [name] =>
          have hsource : IsListedBelow d place [name] ↔ name ∈ sourceNames d place := by
            rw [mem_sourceNames hd]
            constructor
            · rintro (⟨hfile, hsource⟩ | ⟨-, -, hbelow⟩)
              · exact ⟨hfile, hsource⟩
              · exact absurd rfl hbelow.ne_nil
            · exact fun ⟨hfile, hsource⟩ => .here hfile hsource
          simp [hsource, nil_not_mem_namesBelow]
      | folder :: name :: names =>
          simp [ih, isListedBelow_cons hd (List.cons_ne_nil name names), and_assoc]

theorem nodup_namesBelow (hd : d.IsTree) (depth : ℕ) (place : Place) :
    (namesBelow d depth place).Nodup := by
  induction depth generalizing place with
  | zero => exact List.nodup_nil
  | succ depth ih =>
      rw [namesBelow]
      refine List.Nodup.append ?sources ?folders ?apart
      case sources =>
        exact (nodup_names hd place _).map fun name name' heq => List.singleton_inj.mp heq
      case folders =>
        refine List.nodup_flatMap.mpr ⟨fun folder _ => ?_, ?_⟩
        · exact (ih _).map (List.cons_injective)
        · refine (nodup_names hd place _).imp fun {folder folder'} hother names hmem hmem' => ?_
          obtain ⟨rest, -, rfl⟩ := List.mem_map.mp hmem
          obtain ⟨rest', -, heq⟩ := List.mem_map.mp hmem'
          exact hother (List.cons.inj heq).1.symm
      case apart =>
        intro names hsource hfolder
        obtain ⟨name, -, rfl⟩ := List.mem_map.mp hsource
        obtain ⟨folder, -, hmem⟩ := List.mem_flatMap.mp hfolder
        obtain ⟨rest, hrest, heq⟩ := List.mem_map.mp hmem
        exact nil_not_mem_namesBelow _ _ ((List.cons.inj heq).2 ▸ hrest)

/-- No place is deeper than the levels that are looked through. -/
theorem length_lt_levels {d : Disk} {e : Place × Node} (he : e ∈ d.entries) :
    e.1.length < levels d := by
  -- The maximum so far only grows, and it is at least the length of each place that was met.
  have hfold : ∀ (entries : List (Place × Node)) (n : ℕ),
      n ≤ entries.foldl (fun n e => max n e.1.length) n ∧
        ∀ e ∈ entries, e.1.length ≤ entries.foldl (fun n e => max n e.1.length) n := by
    intro entries
    induction entries with
    | nil => exact fun n => ⟨le_rfl, fun e he => by cases he⟩
    | cons e entries ih =>
        intro n
        obtain ⟨hstart, hrest⟩ := ih (max n e.1.length)
        refine ⟨(le_max_left _ _).trans hstart, List.forall_mem_cons.mpr ⟨?_, hrest⟩⟩
        exact (le_max_right _ _).trans hstart
  exact Nat.lt_succ_of_le ((hfold d.entries 0).2 e he)

theorem IsListedBelow.node?_ne_none (hlisted : IsListedBelow d place names) :
    d.node? (place ++ names) ≠ none := by
  induction hlisted with
  | here hfile _ =>
      obtain ⟨n, hn, -⟩ := hfile
      rw [hn]
      exact Option.some_ne_none n
  | down _ _ _ ih =>
      rw [List.append_assoc] at ih
      exact ih

theorem IsListedBelow.length_le (hd : d.IsTree) (hlisted : IsListedBelow d place names) :
    names.length ≤ levels d := by
  obtain ⟨n, hn⟩ := Option.ne_none_iff_exists'.mp hlisted.node?_ne_none
  obtain ⟨before, name, rfl⟩ := (List.eq_nil_or_concat' names).resolve_left hlisted.ne_nil
  rw [← List.append_assoc, Disk.node?_eq_some_iff hd] at hn
  have hlength := length_lt_levels hn
  simp only [List.length_append, List.length_singleton] at hlength ⊢
  omega

/-- Where there are no links, what is taken for a source is one. -/
theorem isListedBelow_iff (hd : d.IsTree) (hlinks : NoLinks d place) :
    IsListedBelow d place names ↔ IsSourceBelow d place names := by
  induction names generalizing place with
  | nil => exact ⟨fun hlisted => absurd rfl hlisted.ne_nil, fun hsource => absurd rfl hsource.below⟩
  | cons name names ih =>
      by_cases hnil : names = []
      · subst hnil
        constructor
        · rintro (⟨⟨n, hn, hfile⟩, hsource⟩ | ⟨-, -, hbelow⟩)
          · cases n with
            | file content => exact ⟨List.cons_ne_nil _ _, ⟨content, hn⟩, hsource, by simp⟩
            | folder => cases hfile
            | link target => exact absurd hn (hlinks _ _)
          · exact absurd rfl hbelow.ne_nil
        · rintro ⟨-, ⟨content, hn⟩, hsource, -⟩
          exact .here ⟨_, hn, rfl⟩ hsource
      · rw [isListedBelow_cons hd hnil, isSourceBelow_cons hd hnil, ih (hlinks.down name)]

/-! ### The workspace -/

/-- The path is that of a source of the workspace in a folder: of a file below the folder with the
suffix of a main file or of a header, to which one gets through no folder that is skipped. -/
def IsScanned (h : Host) (root p : Path) : Prop :=
  ∃ place names, h.disk.find true h.here root = .ok place ∧ IsSourceBelow h.disk place names ∧
    p = ⟨root.root, root.names ++ names⟩

/-- The path is that of something in the folder of a workspace, or below, that is taken for a source. -/
def IsListed (h : Host) (root p : Path) : Prop :=
  ∃ place names, h.disk.find true h.here root = .ok place ∧ IsListedBelow h.disk place names ∧
    p = ⟨root.root, root.names ++ names⟩

/-- A workspace without links, on a disk that is a tree. -/
structure IsLinkless (h : Host) (root : Path) : Prop where
  tree : h.disk.IsTree
  noLinks : ∀ place, h.disk.find true h.here root = .ok place → NoLinks h.disk place

/-- A workspace without links whose sources can all be read. -/
structure IsWorkspace (h : Host) (root : Path) : Prop extends IsLinkless h root where
  readable : ∀ p, IsScanned h root p → ∃ bytes, Act.bytesOf p h = (.ok bytes, h)

variable {h : Host} {root p : Path}

theorem IsScanned.root_eq (hp : IsScanned h root p) : p.root = root.root := by
  obtain ⟨place, names, -, -, rfl⟩ := hp
  rfl

theorem mem_allSources_iff_isListed (hd : h.disk.IsTree) :
    p ∈ allSources h.disk h.here root ↔ IsListed h root p := by
  unfold allSources IsListed
  cases hfind : h.disk.find true h.here root with
  | error e => simp
  | ok place =>
      simp only [List.mem_map, Except.ok.injEq, exists_and_left, exists_eq_left', mem_namesBelow hd]
      constructor
      · rintro ⟨names, ⟨hlisted, -⟩, rfl⟩
        exact ⟨names, hlisted, rfl⟩
      · rintro ⟨names, hlisted, rfl⟩
        exact ⟨names, ⟨hlisted, hlisted.length_le hd⟩, rfl⟩

theorem isListed_iff_isScanned (hw : IsLinkless h root) : IsListed h root p ↔ IsScanned h root p := by
  refine exists_congr fun place => exists_congr fun names => and_congr_right fun hfind => ?_
  rw [isListedBelow_iff hw.tree (hw.noLinks place hfind)]

/-- The sources of a workspace are found. -/
theorem mem_allSources (hw : IsLinkless h root) :
    p ∈ allSources h.disk h.here root ↔ IsScanned h root p :=
  (mem_allSources_iff_isListed hw.tree).trans (isListed_iff_isScanned hw)

theorem nodup_allSources (hd : h.disk.IsTree) : (allSources h.disk h.here root).Nodup := by
  unfold allSources
  cases h.disk.find true h.here root with
  | error e => exact List.nodup_nil
  | ok place =>
      refine (nodup_namesBelow hd _ place).map fun names names' heq => ?_
      exact List.append_cancel_left (Path.mk.inj heq).2

theorem length_allSources (hd : h.disk.IsTree) :
    (allSources h.disk h.here root).length = {p | IsListed h root p}.ncard := by
  classical
  have hset : {p | IsListed h root p} = ↑(allSources h.disk h.here root).toFinset := by
    ext p
    simp [mem_allSources_iff_isListed hd]
  rw [hset, Set.ncard_coe_finset, List.toFinset_card_of_nodup (nodup_allSources hd)]

/-- Where there are not more sources than are asked for, none is left out. -/
theorem take_allSources (hd : h.disk.IsTree) {most : ℤ}
    (hmost : ({p | IsListed h root p}.ncard : ℤ) ≤ most) :
    (allSources h.disk h.here root).take (max 1 most.toNat) = allSources h.disk h.here root := by
  rw [← length_allSources hd] at hmost
  exact List.take_of_length_le (by omega)

end Include

end MetaDesk
