import MetaDesk.Proofs.Disk.Looking
import MetaDesk.Proofs.Host.Journal
import MetaDesk.Proofs.Include.Reaching
import MetaDesk.Proofs.Include.Scanning

/-! # What the index tells

`Includes` says that a source includes the file of a key: its text names a file, one of the paths
that the name may mean is that of a file, and this path has the key.  An index tells exactly this of the
sources that were read for it (`build_tells`), also where there are links.  A source is in the way of an
index (`Bars`) when its own path is none, or when the system does not follow a path that it may include,
because the path or a name in it is too long: this is not taken for an absent file.  In a workspace
without links whose sources can all be read only the latter occurs (`build_eq_ok`, `build_eq_error`). -/

namespace MetaDesk

open Act (Asks)

namespace Include

/-! ### Looking for a file -/

/-- A file is at the path. -/
def IsFileAt (h : Host) (p : Path) : Prop :=
  Act.hasNull p = false ∧ ∃ content, h.disk.look h.here p = .ok (.file content)

/-- The system does not follow the path: it is too long, or a name in it is. -/
def IsTooLong (h : Host) (p : Path) : Prop :=
  Act.hasNull p = false ∧ h.disk.look h.here p = .error .nameTooLong

variable {h h' : Host} {p : Path}

/-- The error of the system that a path is too long. -/
def tooLong (p : Path) : Mishap := .system ⟨.nameTooLong, p.text⟩

theorem isFile_asks (p : Path) :
    Asks (fun m => IsTooLong h p ∧ m = tooLong p) h (Act.isFile p) := by
  refine (Asks.isFile p).mono ?_
  rintro m ⟨hnull, e, herror, rfl⟩
  obtain ⟨rfl, hlook⟩ := Disk.isFile?_eq_error_iff.mp herror
  exact ⟨⟨hnull, hlook⟩, rfl⟩

theorem isFile_eq_ok {b : Bool} (hrun : Act.isFile p h = (.ok b, h')) :
    ¬ IsTooLong h p ∧ (b = true ↔ IsFileAt h p) := by
  unfold IsTooLong IsFileAt
  unfold Act.isFile at hrun
  split at hrun
  · next hnull =>
      cases hrun
      simp [hnull]
  · next hnull =>
      rw [Act.ask_apply (Bool.not_eq_true _ ▸ hnull)] at hrun
      cases hanswer : h.disk.isFile? h.here p with
      | error e => rw [hanswer] at hrun; cases hrun
      | ok b' =>
          rw [hanswer] at hrun
          cases hrun
          constructor
          · rintro ⟨-, hlook⟩
            rw [Disk.isFile?_eq_error_iff.mpr ⟨rfl, hlook⟩] at hanswer
            cases hanswer
          · rw [← Disk.isFile?_eq_true_iff, hanswer]
            simp [hnull]

/-! ### What a source includes -/

/-- The text of a source includes a name that may mean the path. -/
def MayMean (w : Workspace) (root s : Path) (text : Text) (p : Path) : Prop :=
  ∃ name ∈ names text, p ∈ candidates name s.parent root (w.includesFor s)

/-- The source includes a name that may mean the path. -/
def MayInclude (h : Host) (w : Workspace) (root s p : Path) : Prop :=
  ∃ bytes, Act.bytesOf s h = (.ok bytes, h) ∧
    MayMean w root s (Text.unifyBreaks (Encoding.decode .utf8 bytes)) p

/-- The source includes a file with the key. -/
def Includes (h : Host) (w : Workspace) (root s : Path) (key : Text) : Prop :=
  ∃ p, MayInclude h w root s p ∧ IsFileAt h p ∧ keyOf p = key

variable {w : Workspace} {root s : Path}

/-- Of some paths one is too long, and the system says so. -/
def SomeTooLong (h : Host) (ps : Path → Prop) (m : Mishap) : Prop :=
  ∃ p, ps p ∧ IsTooLong h p ∧ m = tooLong p

theorem isFile_asks_of_mem {ps : List Path} :
    ∀ p ∈ ps, Asks (SomeTooLong h (· ∈ ps)) h (Act.isFile p) :=
  fun p hp => (isFile_asks p).mono fun _ hm => ⟨p, hp, hm⟩

theorem files_asks (name : Text) (folder workspace : Path) (includes : Text) :
    Asks (SomeTooLong h (· ∈ candidates name folder workspace includes)) h
      (files name folder workspace includes) :=
  (Asks.filterM isFile_asks_of_mem).bind fun _ => Asks.pure _

theorem files_eq_ok {name : Text} {folder workspace : Path} {includes : Text} {found : List Path}
    (hrun : files name folder workspace includes h = (.ok found, h')) :
    (∀ p ∈ candidates name folder workspace includes, ¬ IsTooLong h p) ∧
      ∀ p, p ∈ found ↔ p ∈ candidates name folder workspace includes ∧ IsFileAt h p := by
  obtain ⟨kept, hfilter, hlast⟩ := (Asks.filterM isFile_asks_of_mem).bind_eq_ok hrun
  cases hlast
  obtain ⟨hall, hkept⟩ := Asks.filterM_eq_ok isFile_asks_of_mem hfilter
  refine ⟨fun p hp => ?_, fun p => ?_⟩
  · obtain ⟨b, hb⟩ := hall p hp
    exact (isFile_eq_ok hb).1
  · rw [List.mem_eraseDups, hkept]
    refine and_congr_right fun hp => ?_
    obtain ⟨b, hb⟩ := hall p hp
    rw [← (isFile_eq_ok hb).2, hb]
    exact ⟨fun htrue => by cases htrue; rfl, fun htrue => by rw [htrue]⟩

end Include

namespace IncludeIndex

open Include

variable {h h' : Host} {w : Workspace} {root s : Path} {text : Text}

theorem files_asks_of_mem : ∀ name ∈ names text,
    Asks (SomeTooLong h (MayMean w root s text)) h (files name s.parent root (w.includesFor s)) := by
  intro name hname
  refine (files_asks name _ _ _).mono ?_
  rintro m ⟨p, hp, hm⟩
  exact ⟨p, ⟨name, hname, hp⟩, hm⟩

theorem keysIn_asks (w : Workspace) (root s : Path) (text : Text) :
    Asks (SomeTooLong h (MayMean w root s text)) h (keysIn w root s text) :=
  (Asks.mapM files_asks_of_mem).bind fun _ => Asks.pure _

/-- The keys that are found in a text are those of the files that it includes. -/
theorem keysIn_eq_ok {keys : List Text} (hrun : keysIn w root s text h = (.ok keys, h')) :
    (∀ p, MayMean w root s text p → ¬ IsTooLong h p) ∧
      ∀ key, key ∈ keys ↔ ∃ p, MayMean w root s text p ∧ IsFileAt h p ∧ keyOf p = key := by
  obtain ⟨found, hmap, hlast⟩ := (Asks.mapM files_asks_of_mem).bind_eq_ok hrun
  cases hlast
  obtain ⟨hall, hof⟩ := Asks.mapM_eq_ok files_asks_of_mem hmap
  constructor
  · rintro p ⟨name, hname, hp⟩
    obtain ⟨ps, -, hfiles⟩ := hall name hname
    exact (files_eq_ok hfiles).1 p hp
  · intro key
    simp only [List.mem_map, List.mem_flatten]
    constructor
    · rintro ⟨p, ⟨ps, hps, hp⟩, hkey⟩
      obtain ⟨name, hname, hfiles⟩ := hof ps hps
      obtain ⟨hmeant, hfile⟩ := ((files_eq_ok hfiles).2 p).mp hp
      exact ⟨p, ⟨name, hname, hmeant⟩, hfile, hkey⟩
    · rintro ⟨p, ⟨name, hname, hmeant⟩, hfile, hkey⟩
      obtain ⟨ps, hps, hfiles⟩ := hall name hname
      exact ⟨p, ⟨ps, hps, ((files_eq_ok hfiles).2 p).mpr ⟨hmeant, hfile⟩⟩, hkey⟩

/-! ### The index -/

theorem includes_add {i : IncludeIndex} {key key' : Text} {q : Path} :
    (i.add key s).Includes q key' ↔ i.Includes q key' ∨ key' = key ∧ q = s := by
  simp only [IncludeIndex.Includes, ofKey, add, Keyed.get?_put]
  by_cases hkey : key' = key
  · subst hkey
    rw [if_pos rfl, Option.getD_some]
    by_cases hold : s ∈ (i.includers.get? key').getD []
    · have hagain : q = s → q ∈ (i.includers.get? key').getD [] := fun hq => hq ▸ hold
      simpa [hold] using hagain
    · simp [hold]
  · simp [hkey]

theorem includes_foldl_add {i : IncludeIndex} {keys : List Text} {key : Text} {q : Path} :
    (keys.foldl (fun i key => i.add key s) i).Includes q key ↔
      i.Includes q key ∨ key ∈ keys ∧ q = s := by
  induction keys generalizing i with
  | nil => simp
  | cons key' keys ih =>
      rw [List.foldl_cons, ih, includes_add]
      grind

/-! ### One source -/

theorem mayInclude_iff {bytes : Bytes} (hbytes : Act.bytesOf s h = (.ok bytes, h)) {p : Path} :
    MayInclude h w root s p ↔
      MayMean w root s (Text.unifyBreaks (Encoding.decode .utf8 bytes)) p := by
  constructor
  · rintro ⟨bytes', hbytes', hmeant⟩
    rw [hbytes] at hbytes'
    cases hbytes'
    exact hmeant
  · exact fun hmeant => ⟨bytes, hbytes, hmeant⟩

/-- Such a source leaves a workspace without an index: its path is none, or a path that it may
include is too long. -/
def Bars (h : Host) (w : Workspace) (root s : Path) (m : Mishap) : Prop :=
  Act.hasNull s = true ∧ m = .refused .nullInPath ∨ SomeTooLong h (MayInclude h w root s) m

theorem bytesOf_of_trySystem {bytes : Bytes} (hsame : SameButJournal h h')
    (hread : (Act.trySystem (Act.bytesOf s) h').1 = .ok (.ok bytes)) :
    Act.bytesOf s h = (.ok bytes, h) := by
  have hread' : Act.bytesOf s h' = (.ok bytes, (Act.trySystem (Act.bytesOf s) h').2) :=
    Act.trySystem_eq_ok (Prod.ext hread rfl)
  have hvalue : (Act.bytesOf s h').1 = .ok bytes := by rw [hread']
  rw [Act.bytesOf, Act.ask_of_sameButJournal hsame] at hvalue
  exact Prod.ext hvalue (Asks.ask s Disk.read).host

theorem bytesOf_onlyNotes (s : Path) :
    Act.OnlyNotes (fun m => Act.hasNull s = true ∧ m = .refused .nullInPath) h
      (Act.trySystem (Act.bytesOf s)) := by
  refine .ofAsks fun h' _ => (Asks.ask s Disk.read).trySystem.mono ?_
  rintro m ⟨hnull | ⟨e, -, rfl⟩, hother⟩
  · exact hnull
  · exact absurd rfl (hother _)

theorem addSource_onlyNotes (i : IncludeIndex) :
    Act.OnlyNotes (Bars h w root s) h (addSource w root i s) := by
  unfold addSource
  refine ((bytesOf_onlyNotes s).mono fun m hm => Or.inl hm).bind fun h₁ result hsame hread => ?_
  cases result with
  | error e => exact (Act.OnlyNotes.warn _ _).bind fun _ _ _ _ => .pure _
  | ok bytes =>
      have hbytes := bytesOf_of_trySystem hsame hread
      refine Act.OnlyNotes.bind (.ofAsks fun h' hsame => ?_) fun _ keys _ _ => .pure _
      obtain ⟨journal, rfl⟩ := hsame
      refine (keysIn_asks w root s _).mono ?_
      rintro m ⟨p, hmeant, hm⟩
      exact Or.inr ⟨p, (mayInclude_iff hbytes).mpr hmeant, hm⟩

theorem hasNull_of_trySystem {h₁ h₂ : Host} {result : Except SystemError Bytes}
    (hread : Act.trySystem (Act.bytesOf s) h₁ = (.ok result, h₂)) : Act.hasNull s = false := by
  by_contra hnull
  rw [Bool.not_eq_false] at hnull
  rw [Act.trySystem, Act.bytesOf, Act.ask, hnull] at hread
  cases hread

/-- There is nothing that a source includes which cannot be read. -/
theorem not_mayInclude_of_trySystem {h₁ h₂ : Host} {e : SystemError} (hsame : SameButJournal h h₁)
    (hread : Act.trySystem (Act.bytesOf s) h₁ = (.ok (.error e), h₂)) (p : Path) :
    ¬ MayInclude h w root s p := by
  rintro ⟨bytes, hbytes, -⟩
  have hvalue : (Act.bytesOf s h₁).1 = .ok bytes := by
    rw [Act.bytesOf, Act.ask_of_sameButJournal hsame, ← Act.bytesOf, hbytes]
  rw [Act.trySystem_of_ok (Prod.ext hvalue rfl)] at hread
  cases hread

theorem not_bars (hnull : Act.hasNull s = false)
    (hshort : ∀ p, MayInclude h w root s p → ¬ IsTooLong h p) (m : Mishap) : ¬ Bars h w root s m := by
  rintro (⟨hnull', -⟩ | ⟨p, hp, hlong, -⟩)
  · rw [hnull] at hnull'
    cases hnull'
  · exact hshort p hp hlong

/-- What one source adds. -/
theorem addSource_eq_ok {i i' : IncludeIndex} {h₁ h₂ : Host} (hsame : SameButJournal h h₁)
    (hrun : addSource w root i s h₁ = (.ok i', h₂)) :
    (∀ m, ¬ Bars h w root s m) ∧
      ∀ q key, i'.Includes q key ↔ i.Includes q key ∨ q = s ∧ Include.Includes h w root q key := by
  unfold addSource at hrun
  obtain ⟨result, h₃, hread, hsame₃, hrest⟩ := (bytesOf_onlyNotes s).bind_eq_ok hsame hrun
  have hnull := hasNull_of_trySystem hread
  cases result with
  | error e =>
      have hnone : ∀ p, ¬ MayInclude h w root s p := not_mayInclude_of_trySystem hsame hread
      cases hrest
      refine ⟨not_bars hnull fun p hp => absurd hp (hnone p), fun q key => (or_iff_left ?_).symm⟩
      rintro ⟨rfl, p, hp, -⟩
      exact hnone p hp
  | ok bytes =>
      have hbytes := bytesOf_of_trySystem hsame (by rw [hread])
      obtain ⟨journal, rfl⟩ := hsame₃
      obtain ⟨keys, hkeys, hlast⟩ := (keysIn_asks w root s _).bind_eq_ok hrest
      cases hlast
      obtain ⟨hshort, hmem⟩ := keysIn_eq_ok hkeys
      refine ⟨not_bars hnull fun p hp => hshort p ((mayInclude_iff hbytes).mp hp), fun q key => ?_⟩
      rw [includes_foldl_add, hmem, and_comm]
      refine or_congr_right (and_congr_right ?_)
      rintro rfl
      exact exists_congr fun p => and_congr_left' (mayInclude_iff hbytes).symm

/-- What some sources add, one after the other. -/
theorem addSources_eq_ok {found : List Path} {i i' : IncludeIndex} {h₁ h₂ : Host}
    (hsame : SameButJournal h h₁) (hrun : found.foldlM (addSource w root) i h₁ = (.ok i', h₂)) :
    (∀ s ∈ found, ∀ m, ¬ Bars h w root s m) ∧
      ∀ q key, i'.Includes q key ↔ i.Includes q key ∨ q ∈ found ∧ Include.Includes h w root q key := by
  induction found generalizing i h₁ with
  | nil =>
      cases hrun
      simp
  | cons s found ih =>
      rw [List.foldlM_cons] at hrun
      obtain ⟨i₁, h₃, hfirst, hsame₃, hrest⟩ := (addSource_onlyNotes i).bind_eq_ok hsame hrun
      obtain ⟨hbars, hadded⟩ := addSource_eq_ok hsame hfirst
      obtain ⟨hothers, hrest⟩ := ih hsame₃ hrest
      refine ⟨List.forall_mem_cons.mpr ⟨hbars, hothers⟩, fun q key => ?_⟩
      rw [hrest, hadded, List.mem_cons, or_assoc, or_and_right]

/-! ### The workspace -/

/-- The sources that are read for an index. -/
def readSources (h : Host) (w : Workspace) (root : Path) : List Path :=
  (allSources h.disk h.here root).take (max 1 w.most.toNat)

theorem noteTruncated_onlyNotes {E : Mishap → Prop} (root : Path) (most : ℤ) (truncated : Bool) :
    Act.OnlyNotes E h (noteTruncated root most truncated) := by
  cases truncated
  · exact .pure ()
  · exact .warn _ _

theorem sources_apply (root : Path) (most : ℤ) (h : Host) : sources root most h =
    (.ok ((allSources h.disk h.here root).take (max 1 most.toNat),
      max 1 most.toNat ≤ (allSources h.disk h.here root).length), h) := rfl

/-- Where an index is not made: the folder of the workspace leads nowhere, or a source is in the way. -/
def NoIndex (h : Host) (w : Workspace) (m : Mishap) : Prop :=
  (Act.resolve w.folder h).1 = .error m ∨
    ∃ root s, (Act.resolve w.folder h).1 = .ok root ∧ s ∈ readSources h w root ∧ Bars h w root s m

theorem build_onlyNotes (w : Workspace) : Act.OnlyNotes (NoIndex h w) h (build w) := by
  unfold build
  refine Act.OnlyNotes.bind (.ofAsks fun h₁ hsame => ?root) fun h₁ root hsame hroot => ?_
  case root =>
    refine (Asks.resolve w.folder).mono fun m hm => Or.inl ?_
    rwa [Act.resolve_of_sameButJournal hsame] at hm
  rw [Act.resolve_of_sameButJournal hsame] at hroot
  refine Act.OnlyNotes.bind (.ofAsks fun h₂ _ => ⟨rfl, fun m hm => by cases hm⟩)
    fun h₂ found hsame₂ hfound => ?_
  obtain ⟨journal, rfl⟩ := hsame₂
  rw [sources_apply] at hfound
  cases hfound
  refine Act.OnlyNotes.bind (.foldlM (fun i s hs => ?_) _) fun _ index _ _ => ?_
  · exact (addSource_onlyNotes i).mono fun m hm => Or.inr ⟨root, s, hroot, hs, hm⟩
  · exact (noteTruncated_onlyNotes _ _ _).bind fun _ _ _ _ => .pure _

/-- The index tells what each source that was read includes, and none of these is in the way. -/
def Tells (h : Host) (w : Workspace) (index : IncludeIndex) : Prop :=
  ∃ root, (Act.resolve w.folder h).1 = .ok root ∧
    (∀ s ∈ readSources h w root, ∀ m, ¬ Bars h w root s m) ∧
    ∀ s key, index.Includes s key ↔ s ∈ readSources h w root ∧ Include.Includes h w root s key

theorem build_tells {index : IncludeIndex} {h₁ h₂ : Host} (hsame : SameButJournal h h₁)
    (hrun : build w h₁ = (.ok index, h₂)) : Tells h w index := by
  unfold build at hrun
  obtain ⟨root, h₃, hresolve, hrest⟩ := Act.bind_eq_ok hrun
  obtain rfl := (Asks.resolve w.folder).host_of_run hresolve
  have hroot : (Act.resolve w.folder h).1 = .ok root := by
    rw [← Act.resolve_of_sameButJournal hsame, hresolve]
  rw [Act.bind_of_ok (sources_apply root w.most h₃)] at hrest
  obtain ⟨index', h₄, hadd, hrest⟩ := Act.bind_eq_ok hrest
  obtain ⟨_, h₅, -, hlast⟩ := Act.bind_eq_ok hrest
  cases hlast
  have hfound : (allSources h₃.disk h₃.here root).take (max 1 w.most.toNat) =
      readSources h w root := by
    obtain ⟨journal, rfl⟩ := hsame
    rfl
  rw [hfound] at hadd
  obtain ⟨hbars, hadded⟩ := addSources_eq_ok hsame hadd
  refine ⟨root, hroot, hbars, fun s key => ?_⟩
  have hempty : ¬ ({} : IncludeIndex).Includes s key := List.not_mem_nil
  rw [hadded, or_iff_right hempty]

/-- Each path in the index starts at the root. -/
def IsRooted (index : IncludeIndex) : Prop := ∀ s key, index.Includes s key → s.isAbsolute = true

theorem Tells.isRooted {index : IncludeIndex} (htells : Tells h w index) : IsRooted index := by
  obtain ⟨root, hroot, -, hincludes⟩ := htells
  intro s key hs
  have hfound : s ∈ allSources h.disk h.here root :=
    List.mem_of_mem_take ((hincludes s key).mp hs).1
  unfold allSources at hfound
  split at hfound
  · obtain ⟨names, -, rfl⟩ := List.mem_map.mp hfound
    have hstart : root.isAbsolute = true := Act.isAbsolute_of_resolve hroot
    exact hstart
  · exact absurd hfound List.not_mem_nil

/-! ### Small workspaces -/

theorem mem_readSources (hd : h.disk.IsTree)
    (hmost : ({p | IsListed h root p}.ncard : ℤ) ≤ w.most) :
    s ∈ readSources h w root ↔ IsListed h root s := by
  rw [readSources, take_allSources hd hmost, mem_allSources_iff_isListed hd]

section Small

variable (hroot : Act.resolve w.folder h = (.ok root, h))
include hroot

section Links

variable (hd : h.disk.IsTree) (hmost : ({p | IsListed h root p}.ncard : ℤ) ≤ w.most)
include hd hmost

/-- An index tells what the sources of a workspace include, be there links or not. -/
theorem build_eq_ok_of_isTree {index : IncludeIndex} (hrun : build w h = (.ok index, h')) :
    (∀ s, IsListed h root s → ∀ m, ¬ Bars h w root s m) ∧
      ∀ s key, index.Includes s key ↔ IsListed h root s ∧ Include.Includes h w root s key := by
  obtain ⟨root', hroot', hbars, hincludes⟩ := build_tells (.refl h) hrun
  rw [hroot] at hroot'
  cases hroot'
  simpa only [mem_readSources hd hmost] using And.intro hbars hincludes

/-- There is no index only when a source is in the way. -/
theorem build_eq_error_of_isTree {m : Mishap} (hrun : build w h = (.error m, h')) :
    ∃ s, IsListed h root s ∧ Bars h w root s m := by
  rcases (build_onlyNotes w).ends_of_run (.refl h) hrun with hnone | ⟨root', s, hroot', hs, hbars⟩
  · rw [hroot] at hnone
    cases hnone
  · rw [hroot] at hroot'
    cases hroot'
    exact ⟨s, (mem_readSources hd hmost).mp hs, hbars⟩

end Links

variable (hw : IsWorkspace h root) (hmost : ({p | IsScanned h root p}.ncard : ℤ) ≤ w.most)
include hw hmost

/-- An index tells what the sources of the workspace include, none of which names a path that is
too long. -/
theorem build_eq_ok {index : IncludeIndex} (hrun : build w h = (.ok index, h')) :
    (∀ s, IsScanned h root s → ∀ p, MayInclude h w root s p → ¬ IsTooLong h p) ∧
      ∀ s key, index.Includes s key ↔ IsScanned h root s ∧ Include.Includes h w root s key := by
  simp only [← isListed_iff_isScanned hw.toIsLinkless] at hmost ⊢
  obtain ⟨hbars, hincludes⟩ := build_eq_ok_of_isTree hroot hw.tree hmost hrun
  refine ⟨fun s hs p hp hlong => ?_, hincludes⟩
  exact hbars s hs (tooLong p) (Or.inr ⟨p, hp, hlong, rfl⟩)

/-- There is no index only when a source names a path that is too long. -/
theorem build_eq_error {m : Mishap} (hrun : build w h = (.error m, h')) :
    ∃ s, IsScanned h root s ∧ SomeTooLong h (MayInclude h w root s) m := by
  simp only [← isListed_iff_isScanned hw.toIsLinkless] at hmost ⊢
  obtain ⟨s, hs, ⟨hnull, -⟩ | hlong⟩ := build_eq_error_of_isTree hroot hw.tree hmost hrun
  · obtain ⟨bytes, hbytes⟩ := hw.readable s ((isListed_iff_isScanned hw.toIsLinkless).mp hs)
    rw [Act.bytesOf, Act.ask, hnull] at hbytes
    cases hbytes
  · exact ⟨s, hs, hlong⟩

end Small

end IncludeIndex

end MetaDesk
