import MetaDesk.Proofs.Target.Ending

/-! # No given source is lost

A given source leads to a target: to itself or, for a header, to a main file that was found for it.
Only a header is lost for which main files are saved and still there, none of which is a source
(`OnlyForeign`): they are taken for main files, and then passed over one by one. -/

namespace MetaDesk

namespace Target

open HeaderResolver (IsSaved)

variable {ask : HeaderFlavor} {gs : List Text} {p : Path} {ps : List Path} {ts : List Target}
  {vs : List Visit} {v : Visit} {r r₁ r₂ : Option HeaderResolver} {h h₁ h₂ : Host}

/-! ### What a visit leads to -/

/-- Main files are saved for the header and still there, but none of them is a source. -/
def OnlyForeign (r : Option HeaderResolver) (h : Host) (p : Path) : Prop :=
  Flavor.isHeader p.suffix = true ∧ ∃ resolver, r = some resolver ∧
    (∃ q, IsSaved h resolver p q) ∧ ∀ q, IsSaved h resolver p q → Flavor.isSource q.suffix = false

theorem sourcesOf_eq_nil_iff : sourcesOf ps = [] ↔ ∀ q ∈ ps, Flavor.isSource q.suffix = false := by
  simp [sourcesOf, List.filter_eq_nil_iff]

theorem sources_ne_nil_of_itself (hsource : Flavor.isSource v.path.suffix = true)
    (hnone : v.mains = []) : v.sources ≠ [] := by
  intro hnil
  rw [Visit.sources, Visit.files_of_eq_nil hnone, sourcesOf_eq_nil_iff] at hnil
  rw [hnil v.path (List.mem_singleton_self _)] at hsource
  cases hsource

theorem sources_eq_nil_iff (hmid : Midway r h r₁ h₁)
    (hrun : mainsOf v.path r₁ h₁ = ((.ok v.mains, r₂), h₂))
    (hsource : Flavor.isSource v.path.suffix = true) : v.sources = [] ↔ OnlyForeign r h v.path := by
  have hmains : v.mains ≠ [] → v.sources = sourcesOf v.mains := fun hsome =>
    congrArg sourcesOf (Visit.files_of_ne_nil hsome)
  rcases mainsOf_cases hrun with
    ⟨hnothing, hnone, -, -⟩ | ⟨hheader, resolver₁, rfl, ⟨m, -, ⟨⟩⟩ | ⟨_, _, hfor, ⟨⟩, -⟩⟩
  · -- Nothing was looked up.
    refine iff_of_false (sources_ne_nil_of_itself hsource (Except.ok.inj hnone)) ?_
    rintro ⟨hheader, resolver, rfl, -⟩
    rcases hnothing with hno | rfl
    · rw [hheader] at hno
      cases hno
    · cases hmid.known
  obtain ⟨resolver, rfl, hon⟩ := hmid.of_some
  obtain ⟨-, ⟨hsome, hmem⟩ | ⟨hnone, index, -, hindex⟩⟩ :=
    HeaderResolver.mainsFor_eq_ok hmid.same hfor
  · -- These are the saved main files.
    rw [hmains hsome, sourcesOf_eq_nil_iff]
    simp only [hmem, hon.isSaved_iff]
    constructor
    · intro hforeign
      obtain ⟨q, hq⟩ := List.exists_mem_of_ne_nil _ hsome
      exact ⟨hheader, resolver, rfl, ⟨q, hon.isSaved_iff.mp ((hmem q).mp hq)⟩, hforeign⟩
    · rintro ⟨-, _, ⟨⟩, -, hforeign⟩
      exact hforeign
  · -- There are none, and the index knows only main files.
    refine iff_of_false (fun hnil => ?_) ?_
    · by_cases hempty : v.mains = []
      · exact sources_ne_nil_of_itself hsource hempty hnil
      · obtain ⟨q, hq⟩ := List.exists_mem_of_ne_nil _ hempty
        rw [hmains hempty, sourcesOf_eq_nil_iff] at hnil
        have hmain := (IncludeIndex.mem_mainsOf.mp (hindex ▸ hq)).1
        have hforeign := hnil q hq
        rw [Flavor.isSource, hmain] at hforeign
        cases hforeign
    · rintro ⟨-, _, ⟨⟩, ⟨q, hq⟩, -⟩
      exact hnone q (hon.isSaved_iff.mpr hq)

/-! ### Given sources -/

theorem Collected.isSource (hts : Collected ask vs ts) {t : Target} (ht : t ∈ ts) :
    Flavor.isSource t.path.suffix = true := by
  have hfound : t.path ∈ vs.flatMap Visit.sources := hts.mem_paths_iff.mp (List.mem_map_of_mem ht)
  obtain ⟨v, -, hsource⟩ := List.mem_flatMap.mp hfound
  exact (List.mem_filter.mp hsource).2

theorem Visit.mem_files (hp : p = v.path ∧ v.mains = [] ∨ p ∈ v.mains) : p ∈ v.files := by
  rcases hp with ⟨rfl, hnone⟩ | hmain
  · rw [Visit.files_of_eq_nil hnone]
    exact List.mem_singleton_self _
  · rwa [Visit.files_of_ne_nil (List.ne_nil_of_mem hmain)]

/-- **No given source is lost.**  The targets are found unless something stops the search.  Each given
path was located, and for each source among them there is a target: the file itself or, for a header,
a main file that was found for it.  This fails only for a header whose saved main files are still there
and none of which is a source. -/
theorem resolve_targets_each_source (hrooted : IsRooted r) :
    (∀ m r' h', resolve ask gs r h = ((.error m, r'), h') → Stops ask r h gs m) ∧
    ∀ ts r' h', resolve ask gs r h = ((.ok ts, r'), h') → ∃ vs, Visits r h gs vs r' h' ∧
      List.Forall₂ (fun given v => (locate given h).1 = .ok v.path) gs vs ∧
      ∀ v ∈ vs, Flavor.isSource v.path.suffix = true →
        ((∃ t ∈ ts, t.path = v.path ∧ v.mains = [] ∨
          Flavor.isHeader v.path.suffix = true ∧ t.path ∈ v.mains) ↔ ¬ OnlyForeign r h v.path) := by
  refine ⟨fun m r' h' hrun => resolve_eq_error hrooted hrun, fun ts r' h' hrun => ?_⟩
  obtain ⟨vs, hvisits, hts⟩ := resolve_eq_ok hrun
  refine ⟨vs, hvisits, hvisits.located, fun v hv hsource => ?_⟩
  obtain ⟨r₁, h₁, r₂, h₂, hmid, hmains⟩ := hvisits.midway.2 v hv
  rw [← sources_eq_nil_iff hmid hmains hsource]
  constructor
  · rintro ⟨t, ht, horigin⟩ hnil
    have hfile : t.path ∈ v.files := Visit.mem_files (horigin.imp_right And.right)
    have hmem : t.path ∈ v.sources := List.mem_filter.mpr ⟨hfile, hts.isSource ht⟩
    exact List.not_mem_nil (hnil ▸ hmem)
  · intro hsome
    obtain ⟨q, hq⟩ := List.exists_mem_of_ne_nil _ hsome
    have hfound : q ∈ vs.flatMap Visit.sources := List.mem_flatMap.mpr ⟨v, hv, hq⟩
    obtain ⟨t, ht, rfl⟩ := List.mem_map.mp (hts.mem_paths_iff.mpr hfound)
    exact ⟨t, ht, hvisits.origin hv hq⟩

theorem isSaved_of_savedMains :
    IsSaved smallWorkspace savedMains (.ofText "/w/Lib.mqh") (.ofText "/w/Bot.mq5") :=
  ⟨"Bot.mq5", List.mem_cons_self, rfl, rfl, [], rfl⟩

/-- The first of the saved main files is still there, so the header is compiled through it. -/
theorem resolve_targets_each_source_of_savedMains : ∃ (ts : List Target)
    (r' : Option HeaderResolver) (h' : Host) (v : Visit),
    resolve nobody ["/w/Lib.mqh"] (some savedMains) smallWorkspace = ((.ok ts, r'), h') ∧
    v.path = .ofText "/w/Lib.mqh" ∧ ∃ t ∈ ts, t.path = v.path ∧ v.mains = [] ∨
      Flavor.isHeader v.path.suffix = true ∧ t.path ∈ v.mains := by
  have htargets : (resolve nobody ["/w/Lib.mqh"] (some savedMains) smallWorkspace).1.1.toOption.map
      List.length = some 2 := by
    decide +kernel
  have hplace : (locate "/w/Lib.mqh" smallWorkspace).1 = .ok (.ofText "/w/Lib.mqh") := rfl
  have hrooted : IsRooted (some savedMains) := by
    rintro _ index ⟨⟩ ⟨⟩
  obtain ⟨ts, r', h', hrun, -⟩ := ActOn.eq_ok_of_toOption htargets
  obtain ⟨vs, -, hlocated, hall⟩ := (resolve_targets_each_source hrooted).2 ts r' h' hrun
  obtain ⟨v, hv, hlocate⟩ : ∃ v ∈ vs, (locate "/w/Lib.mqh" smallWorkspace).1 = .ok v.path := by
    cases hlocated with
    | cons hlocate _ => exact ⟨_, List.mem_cons_self, hlocate⟩
  have hpath : v.path = .ofText "/w/Lib.mqh" := (Except.ok.inj (hplace.symm.trans hlocate)).symm
  refine ⟨ts, r', h', v, hrun, hpath, (hall v hv ?_).mpr ?_⟩
  · rw [hpath]
    rfl
  · rintro ⟨-, _, ⟨⟩, -, hforeign⟩
    rw [hpath] at hforeign
    cases hforeign _ isSaved_of_savedMains

/-- A host with a header and notes about it. -/
def notesWorkspace : Host :=
  { disk := ⟨[(["w".toList], .folder), (["w".toList, "Lib.mqh".toList], .file []),
      (["w".toList, "notes.txt".toList], .file [])]⟩ }

/-- The notes are saved as if they were a main file. -/
def savedNotes : HeaderResolver :=
  { folder := .ofText "/w", saved := [("lib.mqh", ["notes.txt"])],
    workspace := { folder := .ofText "/w" } }

/-- Then the header leads to no target at all. -/
theorem not_target_of_savedNotes : Flavor.isSource (Path.ofText "/w/Lib.mqh").suffix = true ∧
    ∃ r' h', resolve nobody ["/w/Lib.mqh"] (some savedNotes) notesWorkspace = ((.ok [], r'), h') := by
  have htargets : (resolve nobody ["/w/Lib.mqh"] (some savedNotes) notesWorkspace).1.1.toOption.map
      List.length = some 0 := by
    decide +kernel
  obtain ⟨ts, r', h', hrun, hnone⟩ := ActOn.eq_ok_of_toOption htargets
  rw [List.length_eq_zero_iff.mp hnone] at hrun
  exact ⟨by decide, r', h', hrun⟩

end Target

end MetaDesk
