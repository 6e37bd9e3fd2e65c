import MetaDesk.Proofs.Include.Indexing
import MetaDesk.Target.Header

/-! # What is found for a header

`IsSaved` says which saved main files of a header are left.  If there are any, these are found, and
otherwise the main files that an index leads to (`mainsFor_eq_ok`).  The index is made at most once: of
what is known about headers nothing else changes (`GoesOn`).  `Bars` says what may end the search. -/

namespace MetaDesk.HeaderResolver

open Act (Asks OnlyNotes)
open Include (IsFileAt IsTooLong tooLong)

variable {r r' : HeaderResolver} {header p : Path} {h h₁ h₂ : Host}

/-! ### Saved main files -/

/-- The names that are saved for a header. -/
def savedNames (h : Host) (r : HeaderResolver) (header : Path) : List Text :=
  (r.saved.get? (keyOf (Disk.pathOf h.here) r.folder header)).getD []

/-- The path that a saved name means. -/
def savedPath (r : HeaderResolver) (name : Text) : Path := r.folder.child (Text.swap '\\' '/' name)

/-- The file is a saved main file of the header and still there. -/
def IsSaved (h : Host) (r : HeaderResolver) (header p : Path) : Prop :=
  ∃ name ∈ savedNames h r header, (Act.resolve (r.savedPath name) h).1 = .ok p ∧ IsFileAt h p

/-- A saved name is in the way: it leads nowhere, or to a path that is too long. -/
def SavedBars (h : Host) (r : HeaderResolver) (header : Path) (m : Mishap) : Prop :=
  ∃ name ∈ savedNames h r header, (Act.resolve (r.savedPath name) h).1 = .error m ∨
    ∃ p, (Act.resolve (r.savedPath name) h).1 = .ok p ∧ IsTooLong h p ∧ m = tooLong p

theorem savedFor_apply (r : HeaderResolver) (header : Path) (hsame : SameButJournal h h₁) :
    r.savedFor header h₁ =
      ((savedNames h r header).mapM (fun name => Act.resolve (r.savedPath name)) >>= fun places =>
        places.filterM Act.isFile) h₁ := by
  obtain ⟨journal, rfl⟩ := hsame
  rfl

theorem savedPath_asks (hsame : SameButJournal h h₁) : ∀ name ∈ savedNames h r header,
    Asks (SavedBars h r header) h₁ (Act.resolve (r.savedPath name)) := by
  intro name hname
  refine (Asks.resolve _).mono fun m hm => ⟨name, hname, Or.inl ?_⟩
  rwa [← Act.resolve_of_sameButJournal hsame]

/-- The places of the saved names are where their paths lead. -/
theorem mem_places {places : List Path} (hsame : SameButJournal h h₁)
    (hrun : (savedNames h r header).mapM (fun name => Act.resolve (r.savedPath name)) h₁ =
      (.ok places, h₂)) :
    p ∈ places ↔
      ∃ name ∈ savedNames h r header, (Act.resolve (r.savedPath name) h).1 = .ok p := by
  simp only [← Act.resolve_of_sameButJournal hsame]
  obtain ⟨hplace, hname⟩ := Asks.mapM_eq_ok (savedPath_asks hsame) hrun
  constructor
  · intro hp
    obtain ⟨name, hmem, hresolve⟩ := hname p hp
    exact ⟨name, hmem, by rw [hresolve]⟩
  · rintro ⟨name, hmem, hresolve⟩
    obtain ⟨p', hp', hresolve'⟩ := hplace name hmem
    rw [hresolve'] at hresolve
    cases hresolve
    exact hp'

theorem savedFor_asks (hsame : SameButJournal h h₁) :
    Asks (SavedBars h r header) h₁ (r.savedFor header) := by
  refine Asks.congr (savedFor_apply r header hsame) ?_
  refine (Asks.mapM (savedPath_asks hsame)).bind_of_run fun places hplaces => ?_
  refine (Asks.filterM Include.isFile_asks_of_mem).mono ?_
  rintro m ⟨p, hp, hlong, rfl⟩
  obtain ⟨name, hname, hresolve⟩ := (mem_places hsame hplaces).mp hp
  obtain ⟨journal, rfl⟩ := hsame
  exact ⟨name, hname, Or.inr ⟨p, hresolve, hlong, rfl⟩⟩

/-- The saved main files that are left are found. -/
theorem mem_of_savedFor {saved : List Path} (hsame : SameButJournal h h₁)
    (hrun : r.savedFor header h₁ = (.ok saved, h₂)) : p ∈ saved ↔ IsSaved h r header p := by
  rw [savedFor_apply r header hsame] at hrun
  obtain ⟨places, hplaces, hrest⟩ := (Asks.mapM (savedPath_asks hsame)).bind_eq_ok hrun
  obtain ⟨hall, hkept⟩ := Asks.filterM_eq_ok Include.isFile_asks_of_mem hrest
  have hfile : ∀ {p b}, Act.isFile p h₁ = (.ok b, h₁) → (b = true ↔ IsFileAt h p) := by
    intro p b hb
    obtain ⟨journal, rfl⟩ := hsame
    exact (Include.isFile_eq_ok hb).2
  rw [hkept, mem_places hsame hplaces]
  constructor
  · rintro ⟨⟨name, hname, hresolve⟩, htrue⟩
    exact ⟨name, hname, hresolve, (hfile htrue).mp rfl⟩
  · rintro ⟨name, hname, hresolve, hp⟩
    refine ⟨⟨name, hname, hresolve⟩, ?_⟩
    obtain ⟨b, hb⟩ := hall p ((mem_places hsame hplaces).mpr ⟨name, hname, hresolve⟩)
    rw [hb, (hfile hb).mpr hp]

/-! ### Main files -/

/-- What may end the search for main files: a saved name, or for want of saved main files and of an
index that was made before a source of the workspace. -/
def Bars (h : Host) (r : HeaderResolver) (header : Path) (m : Mishap) : Prop :=
  SavedBars h r header m ∨
    (∀ p, ¬ IsSaved h r header p) ∧ r.index = none ∧ IncludeIndex.NoIndex h r.workspace m

/-- Of what is known nothing changes, but an index may be made. -/
def GoesOn (h : Host) (r r' : HeaderResolver) : Prop :=
  r' = r ∨ r.index = none ∧ ∃ index, IncludeIndex.Tells h r.workspace index ∧
    r' = { r with index := some index }

namespace GoesOn

theorem trans {r₁ r₂ r₃ : HeaderResolver} (hfirst : GoesOn h r₁ r₂) (hnext : GoesOn h r₂ r₃) :
    GoesOn h r₁ r₃ := by
  rcases hfirst with rfl | ⟨hnone, index, htells, rfl⟩
  · exact hnext
  · rcases hnext with rfl | ⟨hagain, -⟩
    · exact Or.inr ⟨hnone, index, htells, rfl⟩
    · cases hagain

theorem isSaved_iff (hon : GoesOn h r r') : IsSaved h r' header p ↔ IsSaved h r header p := by
  rcases hon with rfl | ⟨-, index, -, rfl⟩ <;> rfl

theorem bars {m : Mishap} (hon : GoesOn h r r') (hbars : Bars h r' header m) : Bars h r header m := by
  rcases hon with rfl | ⟨-, index, -, rfl⟩
  · exact hbars
  · rcases hbars with hsaved | ⟨-, hagain, -⟩
    · exact Or.inl hsaved
    · cases hagain

theorem isRooted (hon : GoesOn h r r') (hrooted : ∀ index, r.index = some index → index.IsRooted) :
    ∀ index, r'.index = some index → index.IsRooted := by
  rcases hon with rfl | ⟨-, index, htells, rfl⟩
  · exact hrooted
  · rintro _ ⟨⟩
    exact htells.isRooted

end GoesOn

theorem needIndex_onlyNotes (r : HeaderResolver) :
    OnlyNotes (fun m => r.index = none ∧ IncludeIndex.NoIndex h r.workspace m) h r.needIndex := by
  unfold needIndex
  split
  · exact .pure _
  · next hnone =>
      exact ((IncludeIndex.build_onlyNotes r.workspace).mono fun m hm => ⟨hnone, hm⟩).bind
        fun _ index _ _ => .pure _

theorem needIndex_eq_ok {index : IncludeIndex} (hsame : SameButJournal h h₁)
    (hrun : r.needIndex h₁ = (.ok (index, r'), h₂)) : r'.index = some index ∧ GoesOn h r r' := by
  unfold needIndex at hrun
  cases hindex : r.index with
  | some i =>
      rw [hindex] at hrun
      cases hrun
      exact ⟨hindex, Or.inl rfl⟩
  | none =>
      rw [hindex] at hrun
      obtain ⟨index', h₃, hbuild, hlast⟩ := Act.bind_eq_ok hrun
      cases hlast
      exact ⟨rfl, Or.inr ⟨hindex, _, IncludeIndex.build_tells hsame hbuild, rfl⟩⟩

theorem mainsFor_onlyNotes (r : HeaderResolver) (header : Path) :
    OnlyNotes (Bars h r header) h (r.mainsFor header) := by
  unfold mainsFor
  refine (OnlyNotes.ofAsks fun h₁ hsame => (savedFor_asks hsame).mono fun m hm => Or.inl hm).bind
    fun h₁ saved hsame hsaved => ?_
  split
  · exact .pure _
  · next hempty =>
      obtain rfl : saved = [] := by simpa using hempty
      have hnone : ∀ p, ¬ IsSaved h r header p := fun p hp =>
        List.not_mem_nil ((mem_of_savedFor hsame (Prod.ext hsaved rfl)).mpr hp)
      exact ((needIndex_onlyNotes r).mono fun m hm => Or.inr ⟨hnone, hm⟩).bind fun _ _ _ _ => .pure _

/-- **The main files of a header** are the saved ones that are left, and without any those that an
index leads to. -/
theorem mainsFor_eq_ok {mains : List Path} (hsame : SameButJournal h h₁)
    (hrun : r.mainsFor header h₁ = (.ok (mains, r'), h₂)) : GoesOn h r r' ∧
      (mains ≠ [] ∧ (∀ p, p ∈ mains ↔ IsSaved h r header p) ∨
        (∀ p, ¬ IsSaved h r header p) ∧
          ∃ index, r'.index = some index ∧ mains = index.mainsOf header) := by
  unfold mainsFor at hrun
  obtain ⟨saved, hsaved, hrest⟩ := (savedFor_asks hsame).bind_eq_ok hrun
  have hmem : ∀ p, p ∈ saved ↔ IsSaved h r header p := fun p => mem_of_savedFor hsame hsaved
  split at hrest
  · next hsome =>
      cases hrest
      exact ⟨Or.inl rfl, Or.inl ⟨by simpa using hsome, hmem⟩⟩
  · next hempty =>
      obtain ⟨⟨index, r₁⟩, h₃, hindex, hlast⟩ := Act.bind_eq_ok hrest
      cases hlast
      obtain ⟨hthere, hon⟩ := needIndex_eq_ok hsame hindex
      obtain rfl : saved = [] := by simpa using hempty
      refine ⟨hon, Or.inr ⟨fun p hp => ?_, index, hthere, rfl⟩⟩
      exact List.not_mem_nil ((hmem p).mpr hp)

/-- The main files that are found start at the root. -/
theorem isAbsolute_of_mainsFor {mains : List Path} (hsame : SameButJournal h h₁)
    (hrooted : ∀ index, r.index = some index → index.IsRooted)
    (hrun : r.mainsFor header h₁ = (.ok (mains, r'), h₂)) : ∀ p ∈ mains, p.isAbsolute = true := by
  intro p hp
  obtain ⟨hon, ⟨-, hsaved⟩ | ⟨-, index, hindex, rfl⟩⟩ := mainsFor_eq_ok hsame hrun
  · obtain ⟨name, -, hresolve, -⟩ := (hsaved p).mp hp
    exact Act.isAbsolute_of_resolve hresolve
  · obtain ⟨-, key, -, hincludes⟩ := IncludeIndex.mem_mainsOf.mp hp
    exact hon.isRooted hrooted index hindex p key hincludes

end MetaDesk.HeaderResolver
