import MetaDesk.Proofs.Include.Scanning
import MetaDesk.Proofs.Sorting
import MetaDesk.Proofs.Text.Order

/-! # The walk through a workspace

A workspace is walked through from its folder down: the sources of a folder come in the order of
their names, and before those of the folders in it, which are walked through in the order of their
names too (`Earlier`).  There is one list of all sources in this order (`IsWalk.eq`), and the sources
that a scan gives are its first ones.

A scan notes that it was cut short as soon as it has found as many sources as it may, be there more
of them or not. -/

namespace MetaDesk.Include

variable {d : Disk} {place : Place} {h : Host} {root : Path} {names names' : List Text}

/-! ### The order of sources -/

/-- The names that lead to a source come before those that lead to another one. -/
inductive Earlier : List Text → List Text → Prop
  /-- In a folder the names decide. -/
  | beside {name name' : Text} : name < name' → Earlier [name] [name']
  /-- What is in a folder comes before what is in the folders below. -/
  | above {name folder : Text} {names : List Text} : names ≠ [] → Earlier [name] (folder :: names)
  /-- Of two folders the names decide. -/
  | folders {folder folder' : Text} {names names' : List Text} : names ≠ [] → names' ≠ [] →
      folder < folder' → Earlier (folder :: names) (folder' :: names')
  /-- In the same folder below, the order there. -/
  | inside {folder : Text} {names names' : List Text} :
      Earlier names names' → Earlier (folder :: names) (folder :: names')

theorem Earlier.ne_nil (hearlier : Earlier names names') : names ≠ [] ∧ names' ≠ [] := by
  cases hearlier <;> exact ⟨List.cons_ne_nil _ _, List.cons_ne_nil _ _⟩

theorem Earlier.asymm (hearlier : Earlier names names') : ¬ Earlier names' names := by
  induction hearlier with
  | beside hlt =>
      rintro (hgt | habove | ⟨hnil, -, -⟩ | hinside)
      · exact lt_asymm hlt hgt
      · exact habove rfl
      · exact hnil rfl
      · exact hinside.ne_nil.1 rfl
  | above hnames =>
      rintro (_ | habove | ⟨-, hnil, -⟩ | hinside)
      · exact hnames rfl
      · exact habove rfl
      · exact hnil rfl
      · exact hinside.ne_nil.2 rfl
  | folders hnames hnames' hlt =>
      rintro (_ | _ | ⟨-, -, hgt⟩ | hinside)
      · exact hnames rfl
      · exact hnames' rfl
      · exact lt_asymm hlt hgt
      · exact lt_irrefl _ hlt
  | inside hearlier ih =>
      rintro (hgt | habove | ⟨-, -, hgt⟩ | hinside)
      · exact lt_irrefl _ hgt
      · exact hearlier.ne_nil.2 rfl
      · exact lt_irrefl _ hgt
      · exact ih hinside

/-! ### Folders -/

theorem pairwise_names (hd : d.IsTree) (place : Place) (keep : Text × Node → Bool) :
    ((((d.children place).filter keep).map (·.1)).mergeSort Text.notAfter).Pairwise (· < ·) := by
  have hnodup : (((d.children place).filter keep).map (·.1)).Nodup :=
    (Disk.nodup_children hd place).sublist (List.filter_sublist.map _)
  have hle : ∀ name name', Text.notAfter name name' = true ↔ id name ≤ id name' :=
    fun _ _ => Text.notAfter_iff
  exact pairwise_mergeSort_of_rank hle hnodup fun _ _ _ _ heq => heq

/-- What is found below a place is in order. -/
theorem pairwise_namesBelow (hd : d.IsTree) (depth : ℕ) (place : Place) :
    (namesBelow d depth place).Pairwise Earlier := by
  induction depth generalizing place with
  | zero => exact List.Pairwise.nil
  | succ depth ih =>
      have hfound : ∀ folder, ∀ names ∈ namesBelow d depth (place ++ [folder]), names ≠ [] :=
        fun folder names hmem hnil => nil_not_mem_namesBelow _ _ (hnil ▸ hmem)
      rw [namesBelow, List.pairwise_append]
      refine ⟨?sources, ?folders, ?both⟩
      case sources =>
        exact List.pairwise_map.mpr ((pairwise_names hd place _).imp .beside)
      case folders =>
        refine List.pairwise_flatMap.mpr ⟨fun folder _ => ?_, ?_⟩
        · exact List.pairwise_map.mpr ((ih _).imp .inside)
        · refine (pairwise_names hd place _).imp fun {folder folder'} hlt names hmem names' hmem' => ?_
          obtain ⟨rest, hrest, rfl⟩ := List.mem_map.mp hmem
          obtain ⟨rest', hrest', rfl⟩ := List.mem_map.mp hmem'
          exact .folders (hfound folder rest hrest) (hfound folder' rest' hrest') hlt
      case both =>
        intro names hsource names' hbelow
        obtain ⟨name, -, rfl⟩ := List.mem_map.mp hsource
        obtain ⟨folder, -, hmem⟩ := List.mem_flatMap.mp hbelow
        obtain ⟨rest, hrest, rfl⟩ := List.mem_map.mp hmem
        exact .above (hfound folder rest hrest)

/-! ### The walk -/

/-- The path that names lead to from the folder of a workspace. -/
def pathBelow (root : Path) (names : List Text) : Path := ⟨root.root, root.names ++ names⟩

theorem pathBelow_injective (root : Path) : Function.Injective (pathBelow root) :=
  fun _ _ heq => List.append_cancel_left (Path.mk.inj heq).2

/-- In a workspace the one source comes before the other. -/
def EarlierIn (root p q : Path) : Prop :=
  ∃ names names', p = pathBelow root names ∧ q = pathBelow root names' ∧ Earlier names names'

/-- All sources of a workspace, each once and in order. -/
structure IsWalk (h : Host) (root : Path) (walk : List Path) : Prop where
  mem_iff : ∀ p, p ∈ walk ↔ IsScanned h root p
  nodup : walk.Nodup
  ordered : walk.Pairwise (EarlierIn root)

theorem isWalk_allSources (hw : IsLinkless h root) : IsWalk h root (allSources h.disk h.here root) where
  mem_iff _ := mem_allSources hw
  nodup := nodup_allSources hw.tree
  ordered := by
    unfold allSources
    cases h.disk.find true h.here root with
    | error e => exact List.Pairwise.nil
    | ok place =>
        refine List.pairwise_map.mpr ((pairwise_namesBelow hw.tree _ place).imp ?_)
        exact fun {names names'} hearlier => ⟨names, names', rfl, rfl, hearlier⟩

/-- There is one walk only. -/
theorem IsWalk.eq {walk walk' : List Path} (hwalk : IsWalk h root walk) (hwalk' : IsWalk h root walk') :
    walk = walk' := by
  have hsame : walk.Perm walk' := (List.perm_ext_iff_of_nodup hwalk.nodup hwalk'.nodup).mpr fun p =>
    (hwalk.mem_iff p).trans (hwalk'.mem_iff p).symm
  refine hsame.eq_of_pairwise (fun p q _ _ hpq hqp => ?_) hwalk.ordered hwalk'.ordered
  obtain ⟨names, names', rfl, rfl, hearlier⟩ := hpq
  obtain ⟨names₁, names₁', heq, heq', hlater⟩ := hqp
  rw [← pathBelow_injective root heq, ← pathBelow_injective root heq'] at hlater
  exact absurd hlater hearlier.asymm

/-! ### The scan -/

/-- What is noted when there are as many sources as are asked for. -/
def truncation (root : Path) (most : ℤ) : Entry :=
  ⟨false, .including,
    "Include index truncated at " ++ Text.ofInt most ++ " files under " ++ root.text⟩

/-- The host after a scan has found so many sources of those it was asked for. -/
def afterScan (h : Host) (root : Path) (most : ℤ) (found : ℕ) : Host :=
  if most ≤ found then { h with journal := h.journal ++ [truncation root most] } else h

theorem scan_apply {most : ℤ} (hmost : 1 ≤ most) :
    scan root most h = (.ok ((allSources h.disk h.here root).take most.toNat),
      afterScan h root most (allSources h.disk h.here root).length) := by
  have hcount : max 1 most.toNat = most.toNat := by omega
  have hsources : sources root most h = (.ok ((allSources h.disk h.here root).take most.toNat,
      decide (most.toNat ≤ (allSources h.disk h.here root).length)), h) := by
    unfold sources
    rw [Act.bind_of_ok (Act.get_apply h), hcount]
    rfl
  unfold scan
  rw [Act.bind_of_ok hsources]
  dsimp only
  unfold afterScan
  by_cases hmany : most.toNat ≤ (allSources h.disk h.here root).length
  · rw [if_pos (Int.toNat_le.mp hmany), decide_eq_true hmany]
    rfl
  · rw [if_neg fun hle => hmany (Int.toNat_le.mpr hle), decide_eq_false hmany]
    rfl

/-- **What a scan gives.**  It gives the first sources of the walk, as many as are asked for, or all
of them when there are fewer.  That some are left out is noted when there are as many as are asked
for, so whenever one is left out, and also when there are just as many. -/
theorem scan_walks {most : ℤ} (hw : IsLinkless h root) (hmost : 1 ≤ most) :
    ∃ walk, IsWalk h root walk ∧ (∀ walk', IsWalk h root walk' → walk' = walk) ∧
      scan root most h = (.ok (walk.take most.toNat), afterScan h root most walk.length) := by
  have hwalk := isWalk_allSources hw
  exact ⟨_, hwalk, fun walk' hwalk' => hwalk'.eq hwalk, scan_apply hmost⟩

/-- A host with a header in a workspace, a main file in a folder there, and another one where nobody
looks. -/
def nestedSources : Host where
  disk := ⟨[(["ws"], .folder), (["ws", ".git"], .folder), (["ws", ".git", "Old.mq4"], .file []),
    (["ws", "Bots"], .folder), (["ws", "Bots", "Bot.MQ5"], .file []), (["ws", "Lib.mqh"], .file []),
    (["ws", "notes.txt"], .file [])]⟩

/-- The folder of its workspace. -/
def nestedRoot : Path := ⟨.single, ["ws"]⟩

theorem isLinkless_nestedSources : IsLinkless nestedSources nestedRoot where
  tree := {
    once := by
      change List.Nodup [["ws".toList], ["ws".toList, ".git".toList],
        ["ws".toList, ".git".toList, "Old.mq4".toList], ["ws".toList, "Bots".toList],
        ["ws".toList, "Bots".toList, "Bot.MQ5".toList], ["ws".toList, "Lib.mqh".toList],
        ["ws".toList, "notes.txt".toList]]
      decide
    inFolders := by
      simp only [nestedSources, List.forall_mem_cons]
      exact ⟨rfl, rfl, rfl, rfl, rfl, rfl, rfl, List.forall_mem_nil _⟩
    noSlashes := by simp [nestedSources] }
  noLinks _ _ := noLinks_of_entries (by simp [nestedSources])

theorem allSources_nestedSources : allSources nestedSources.disk nestedSources.here nestedRoot =
    [pathBelow nestedRoot ["Lib.mqh"], pathBelow nestedRoot ["Bots", "Bot.MQ5"]] := by
  decide +kernel

/-- The header comes first, being less deep, and that the other source is left out is noted. -/
theorem scan_walks_of_nestedSources : IsLinkless nestedSources nestedRoot ∧ (1 : ℤ) ≤ 1 ∧
    scan nestedRoot 1 nestedSources = (.ok [pathBelow nestedRoot ["Lib.mqh"]],
      { nestedSources with journal := [truncation nestedRoot 1] }) := by
  obtain ⟨walk, -, hunique, hscan⟩ := scan_walks isLinkless_nestedSources (le_refl (1 : ℤ))
  refine ⟨isLinkless_nestedSources, le_refl _, ?_⟩
  rw [hscan, ← hunique _ (isWalk_allSources isLinkless_nestedSources), allSources_nestedSources]
  rfl

/-- Of the two sources none is left out by a scan for two, and yet it is noted. -/
theorem truncation_of_whole : ∃ walk, IsWalk nestedSources nestedRoot walk ∧
    scan nestedRoot 2 nestedSources =
      (.ok walk, { nestedSources with journal := [truncation nestedRoot 2] }) := by
  refine ⟨_, isWalk_allSources isLinkless_nestedSources, ?_⟩
  rw [scan_apply (by decide), allSources_nestedSources]
  rfl

end MetaDesk.Include
