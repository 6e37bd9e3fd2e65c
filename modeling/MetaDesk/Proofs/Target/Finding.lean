import MetaDesk.Proofs.Disk.Arriving
import MetaDesk.Proofs.Target.Ending

/-! # The main files of a header

A header is looked up by the path where it is, and the index knows a file by the path by which it was
included.  For a file that is reached without a link the two have one key (`keyOf_eq_of_arrived`), and a
main file that includes the header by such a path is found.  At the other end of a link the header has
another path, and a main file that includes it through the link may be missed. -/

namespace MetaDesk

namespace Target

open HeaderResolver (savedNames)
open Include (Climbs IsFileAt IsListed MayInclude)
open IncludeIndex (Bars Tells)

variable {h h' : Host} {p q : Path} {v : Visit} {resolver : HeaderResolver}

/-! ### One key for one file -/

/-- A file that is reached without a link has the key of the path where it is. -/
theorem keyOf_eq_of_arrived (hkept : h.disk.NamesKept) (hq : q.root = .single)
    (harrived : ∃ place, h.disk.walk true [] q.names = .arrived place) (hfile : IsFileAt h q)
    (hresolve : (Act.resolve q h).1 = .ok p) : Include.keyOf q = Include.keyOf p := by
  have habsolute : q.isAbsolute = true := by
    unfold Path.isAbsolute
    rw [hq]
    rfl
  obtain ⟨place, hwalk⟩ := harrived
  obtain ⟨-, content, hlook⟩ := hfile
  obtain ⟨-, place', hsettle, rfl⟩ := Act.resolve_eq_ok_iff.mp hresolve
  have hthere : h.disk.node? place ≠ none := by
    rw [Disk.node?_of_look habsolute hwalk hlook]
    exact Option.some_ne_none _
  rw [Disk.settle_of_arrived hkept habsolute hwalk hthere] at hsettle
  obtain rfl := Option.some.inj hsettle
  have hsame : Disk.pathOf q.collapse.names = q.collapse := by
    rw [Disk.pathOf, ← hq]
    rfl
  rw [hsame, Include.keyOf, Include.keyOf, Path.collapse_collapse habsolute]

/-! ### Main files and headers -/

theorem ofSuffix?_of_isHeader {suffix : Text} (hheader : Flavor.isHeader suffix = true) :
    Flavor.ofSuffix? suffix = none := by
  unfold Flavor.isHeader at hheader
  have hlower : Text.lower suffix = Flavor.headerSuffix := by simpa using hheader
  unfold Flavor.ofSuffix?
  rw [hlower]
  rfl

theorem mem_sources_iff_of_isMain (hheader : Flavor.isHeader v.path.suffix = true)
    (hmain : (Flavor.ofSuffix? p.suffix).isSome = true) : p ∈ v.sources ↔ p ∈ v.mains := by
  have hsource : Flavor.isSource p.suffix = true := by
    rw [Flavor.isSource, hmain, Bool.true_or]
  have hother : p ≠ v.path := by
    rintro rfl
    rw [ofSuffix?_of_isHeader hheader] at hmain
    cases hmain
  have hfiles : p ∈ v.files ↔ p ∈ v.mains := by
    by_cases hnone : v.mains = []
    · rw [Visit.files_of_eq_nil hnone, hnone, List.mem_singleton]
      exact iff_of_false hother List.not_mem_nil
    · rw [Visit.files_of_ne_nil hnone]
  rw [Visit.sources, sourcesOf, List.mem_filter, hfiles]
  exact and_iff_left hsource

/-! ### One header -/

/-- A source in the folder of the workspace, or below, includes the file of a key. -/
def ListedIncludes (h : Host) (w : Workspace) (root s : Path) (key : Text) : Prop :=
  IsListed h root s ∧ Include.Includes h w root s key

/-- A workspace that was not looked through yet and has not more sources than are read.  There may be
links in it. -/
structure IsFresh (h : Host) (resolver : HeaderResolver) (root : Path) : Prop where
  tree : h.disk.IsTree
  kept : h.disk.NamesKept
  folder : Act.resolve resolver.workspace.folder h = (.ok root, h)
  most : ({s | IsListed h root s}.ncard : ℤ) ≤ resolver.workspace.most
  noIndex : resolver.index = none

variable {given : Text} {root : Path} {r' : Option HeaderResolver}

theorem IsFresh.isRooted (hfresh : IsFresh h resolver root) : IsRooted (some resolver) := by
  rintro _ index ⟨⟩ hthere
  rw [hfresh.noIndex] at hthere
  cases hthere

theorem IsFresh.of_tells (hfresh : IsFresh h resolver root) {index : IncludeIndex}
    (htells : Tells h resolver.workspace index) :
    (∀ s m, IsListed h root s → ¬ Bars h resolver.workspace root s m) ∧
      index.Includes = ListedIncludes h resolver.workspace root := by
  obtain ⟨root', hroot, hbars, hincludes⟩ := htells
  rw [hfresh.folder] at hroot
  cases hroot
  simp only [IncludeIndex.mem_readSources hfresh.tree hfresh.most] at hbars hincludes
  refine ⟨fun s m hs => hbars s hs m, ?_⟩
  funext s key
  exact propext (hincludes s key)

/-- Where nothing is saved for the header, only a source that is in the way ends the search. -/
theorem IsFresh.bars_of_resolve (hfresh : IsFresh h resolver root)
    (hgiven : (locate given h).1 = .ok p) (hsaved : savedNames h resolver p = []) {m : Mishap}
    (hrun : resolve nobody [given] (some resolver) h = ((.error m, r'), h')) :
    ∃ s, IsListed h root s ∧ Bars h resolver.workspace root s m := by
  cases resolve_eq_error hfresh.isRooted hrun with
  | lost hmem hlost =>
      obtain rfl := List.mem_singleton.mp hmem
      rw [hgiven] at hlost
      cases hlost
  | asked _ _ _ hask => cases hask
  | mains hmem hp _ hresolver hbars =>
      obtain rfl := List.mem_singleton.mp hmem
      rw [hgiven] at hp
      cases hp
      cases hresolver
      rcases hbars with ⟨name, hname, -⟩ | ⟨-, -, hnone | ⟨root', s, hroot, hs, hbars⟩⟩
      · rw [hsaved] at hname
        exact absurd hname List.not_mem_nil
      · rw [hfresh.folder] at hnone
        cases hnone
      · rw [hfresh.folder] at hroot
        cases hroot
        exact ⟨s, (IncludeIndex.mem_readSources hfresh.tree hfresh.most).mp hs, hbars⟩

theorem eq_singleton_of_visits {r : Option HeaderResolver} {vs : List Visit}
    (hvisits : Visits r h [given] vs r' h') (hgiven : (locate given h).1 = .ok p) :
    ∃ v, vs = [v] ∧ v.path = p := by
  cases hvisits.located with
  | cons hlocate hrest =>
      cases hrest
      rw [hgiven] at hlocate
      exact ⟨_, rfl, (Except.ok.inj hlocate).symm⟩

theorem IsFresh.mains_of_resolve (hfresh : IsFresh h resolver root)
    (hgiven : (locate given h).1 = .ok p) (hheader : Flavor.isHeader p.suffix = true)
    (hsaved : savedNames h resolver p = []) {ts : List Target}
    (hrun : resolve nobody [given] (some resolver) h = ((.ok ts, r'), h')) :
    ∃ index, Tells h resolver.workspace index ∧ ∀ m, (Flavor.ofSuffix? m.suffix).isSome = true →
      (m ∈ ts.map path ↔ m ∈ index.mainsOf p) := by
  obtain ⟨vs, hvisits, hts⟩ := resolve_eq_ok hrun
  obtain ⟨v, rfl, rfl⟩ := eq_singleton_of_visits hvisits hgiven
  obtain ⟨r₁, h₁, r₂, h₂, hmid, hmains⟩ := hvisits.midway.2 v (List.mem_singleton_self v)
  obtain ⟨resolver₁, rfl, resolver₂, hfor⟩ : ∃ resolver₁, r₁ = some resolver₁ ∧
      ∃ resolver₂, resolver₁.mainsFor v.path h₁ = (.ok (v.mains, resolver₂), h₂) := by
    rcases mainsOf_cases hmains with
      ⟨hother | rfl, -⟩ | ⟨-, resolver₁, rfl, ⟨m, -, ⟨⟩⟩ | ⟨_, resolver₂, hfor, ⟨⟩, -⟩⟩
    · rw [hheader] at hother
      cases hother
    · cases hmid.known
    · exact ⟨resolver₁, rfl, resolver₂, hfor⟩
  obtain ⟨_, ⟨⟩, hon⟩ := hmid.of_some
  obtain ⟨hnext, ⟨hsome, hmem⟩ | ⟨-, index, hthere, hindex⟩⟩ :=
    HeaderResolver.mainsFor_eq_ok hmid.same hfor
  · -- There are no saved main files.
    obtain ⟨q, hq⟩ := List.exists_mem_of_ne_nil _ hsome
    obtain ⟨name, hname, -⟩ := hon.isSaved_iff.mp ((hmem q).mp hq)
    rw [hsaved] at hname
    exact absurd hname List.not_mem_nil
  · refine ⟨index, ?_, fun m hm => ?_⟩
    · rcases hon.trans hnext with rfl | ⟨-, index', htells, rfl⟩
      · rw [hfresh.noIndex] at hthere
        cases hthere
      · cases hthere
        exact htells
    · rw [hts.mem_paths_iff, List.flatMap_singleton, mem_sources_iff_of_isMain hheader hm, hindex]

/-- **The main files of a header.**  Where nothing is saved for a header, its targets are found unless
a source of the workspace is in the way.  The main files among them are those from which one gets to the
key of the header; so each of them is there that includes the file of the header by a path which leads
to it without a link. -/
theorem resolve_finds_mains (hfresh : IsFresh h resolver root)
    (hgiven : (locate given h).1 = .ok p) (hheader : Flavor.isHeader p.suffix = true)
    (hsaved : savedNames h resolver p = []) :
    (∀ s m, IsListed h root s → Bars h resolver.workspace root s m →
      ∃ s' m' r' h', IsListed h root s' ∧ Bars h resolver.workspace root s' m' ∧
        resolve nobody [given] (some resolver) h = ((.error m', r'), h')) ∧
    ((∀ s m, IsListed h root s → ¬ Bars h resolver.workspace root s m) →
      ∃ ts r' h', resolve nobody [given] (some resolver) h = ((.ok ts, r'), h') ∧
        ∀ m, (Flavor.ofSuffix? m.suffix).isSome = true →
          (m ∈ ts.map path ↔
            ∃ key, Climbs (ListedIncludes h resolver.workspace root) (Include.keyOf p) key ∧
              ListedIncludes h resolver.workspace root m key) ∧
          ∀ q, IsListed h root m → MayInclude h resolver.workspace root m q → IsFileAt h q →
            (Act.resolve q h).1 = .ok p → q.root = .single →
            (∃ place, h.disk.walk true [] q.names = .arrived place) → m ∈ ts.map path) := by
  rcases hrun : resolve nobody [given] (some resolver) h with ⟨⟨m | ts, r'⟩, h'⟩
  · obtain ⟨s, hs, hbars⟩ := hfresh.bars_of_resolve hgiven hsaved hrun
    exact ⟨fun _ _ _ _ => ⟨s, m, r', h', hs, hbars, rfl⟩, fun hfree => absurd hbars (hfree s m hs)⟩
  · obtain ⟨index, htells, hmains⟩ := hfresh.mains_of_resolve hgiven hheader hsaved hrun
    obtain ⟨hfree, hincludes⟩ := hfresh.of_tells htells
    refine ⟨fun s m hs hbars => absurd hbars (hfree s m hs), fun _ => ⟨ts, r', h', rfl, ?_⟩⟩
    intro m hmain
    have hfound : m ∈ ts.map path ↔
        ∃ key, Climbs (ListedIncludes h resolver.workspace root) (Include.keyOf p) key ∧
          ListedIncludes h resolver.workspace root m key := by
      rw [hmains m hmain, IncludeIndex.mem_mainsOf, hincludes]
      exact and_iff_right hmain
    refine ⟨hfound, fun q hm hmay hfile hresolve hq harrived => hfound.mpr ?_⟩
    have hkey := keyOf_eq_of_arrived hfresh.kept hq harrived hfile hresolve
    exact ⟨_, .start, hm, q, hmay, hfile, hkey⟩

/-! ### A linked include folder -/

/-- A host with a main file that includes a header by this name; the include folder of the workspace
is a link to the folder of the header. -/
def linkedFolder (name : Text) : Host where
  disk := ⟨[(["ws"], .folder), (["ws", "Bot.mq5"], .file (Utf8.encode ("#include \"" ++ name ++ "\""))),
    (["ws", "Include"], .link "/inc"), (["inc"], .folder), (["inc", "Lib.mqh"], .file [])]⟩

/-- Nothing is known about its headers. -/
def linkedResolver : HeaderResolver :=
  { folder := .ofText "/ws", saved := [], workspace := { folder := .ofText "/ws" } }

/-- Its main file. -/
def linkedMain : Path := .ofText "/ws/Bot.mq5"

/-- Where its header is. -/
def linkedHeader : Path := .ofText "/inc/Lib.mqh"

theorem isTree_linkedFolder (name : Text) : (linkedFolder name).disk.IsTree where
  once := by
    change List.Nodup [["ws".toList], ["ws".toList, "Bot.mq5".toList],
      ["ws".toList, "Include".toList], ["inc".toList], ["inc".toList, "Lib.mqh".toList]]
    decide
  inFolders := by
    simp only [linkedFolder, List.forall_mem_cons]
    exact ⟨rfl, rfl, rfl, rfl, rfl, List.forall_mem_nil _⟩
  noSlashes := by simp [linkedFolder]

section

variable {name : Text} (hname : name = "Lib.mqh" ∨ name = "../inc/Lib.mqh")
include hname

theorem allSources_linkedFolder : Include.allSources (linkedFolder name).disk (linkedFolder name).here
    (.ofText "/ws") = [linkedMain] := by
  rcases hname with rfl | rfl <;> decide +kernel

theorem isListed_linkedFolder : IsListed (linkedFolder name) (.ofText "/ws") linkedMain := by
  rw [← Include.mem_allSources_iff_isListed (isTree_linkedFolder name), allSources_linkedFolder hname]
  exact List.mem_singleton_self _

theorem isFresh_linkedFolder : IsFresh (linkedFolder name) linkedResolver (.ofText "/ws") where
  tree := isTree_linkedFolder name
  kept := by
    simp only [Disk.NamesKept, linkedFolder, List.forall_mem_cons]
    decide
  folder := rfl
  most := by
    rw [← Include.length_allSources (isTree_linkedFolder name), allSources_linkedFolder hname]
    decide
  noIndex := rfl

theorem mayInclude_linkedFolder {q : Path}
    (hq : q ∈ Include.candidates name linkedMain.parent (.ofText "/ws") []) :
    MayInclude (linkedFolder name) linkedResolver.workspace (.ofText "/ws") linkedMain q := by
  have hbytes : Act.bytesOf linkedMain (linkedFolder name) =
      (.ok (Utf8.encode ("#include \"" ++ name ++ "\"")), linkedFolder name) := rfl
  have hnames : Include.names (Text.unifyBreaks (Encoding.decode .utf8
      (Utf8.encode ("#include \"" ++ name ++ "\"")))) = [name] := by
    rcases hname with rfl | rfl <;> decide +kernel
  refine ⟨_, hbytes, name, ?_, hq⟩
  rw [hnames]
  exact List.mem_singleton_self name

end

/-- Where the main file includes the header by its place, it is found through the link too. -/
theorem resolve_finds_mains_of_linkedFolder : ∃ (ts : List Target) (r' : Option HeaderResolver)
    (h' : Host), resolve nobody ["/ws/Include/Lib.mqh"] (some linkedResolver)
      (linkedFolder "../inc/Lib.mqh") = ((.ok ts, r'), h') ∧ linkedMain ∈ ts.map path := by
  have htargets : (resolve nobody ["/ws/Include/Lib.mqh"] (some linkedResolver)
      (linkedFolder "../inc/Lib.mqh")).1.1.toOption.map List.length = some 1 := by
    decide +kernel
  obtain ⟨_, _, _, hrun, -⟩ := ActOn.eq_ok_of_toOption htargets
  have hgiven : (locate "/ws/Include/Lib.mqh" (linkedFolder "../inc/Lib.mqh")).1 =
      .ok linkedHeader := rfl
  obtain ⟨hbarred, hfound⟩ :=
    resolve_finds_mains (isFresh_linkedFolder (Or.inr rfl)) hgiven rfl rfl
  obtain ⟨ts, r', h', hrun', hmains⟩ := hfound fun s m hs hbars => by
    obtain ⟨_, _, _, _, -, -, hends⟩ := hbarred s m hs hbars
    rw [hrun] at hends
    cases hends
  refine ⟨ts, r', h', hrun', (hmains linkedMain rfl).2 ⟨.single, ["ws", "..", "inc", "Lib.mqh"]⟩
    (isListed_linkedFolder (Or.inr rfl)) (mayInclude_linkedFolder (Or.inr rfl) List.mem_cons_self)
    ⟨rfl, [], rfl⟩ rfl rfl ⟨["inc".toList, "Lib.mqh".toList], rfl⟩⟩

/-- Where it includes the header through the link, it is not: the same file is at both paths, but the
index knows only the one by which it was included. -/
theorem not_found_through_link :
    IsFresh (linkedFolder "Lib.mqh") linkedResolver (.ofText "/ws") ∧ linkedResolver.saved = [] ∧
    IsListed (linkedFolder "Lib.mqh") (.ofText "/ws") linkedMain ∧
    (Flavor.ofSuffix? linkedMain.suffix).isSome = true ∧
    (∃ q, MayInclude (linkedFolder "Lib.mqh") linkedResolver.workspace (.ofText "/ws") linkedMain q ∧
      IsFileAt (linkedFolder "Lib.mqh") q ∧
      (Act.resolve q (linkedFolder "Lib.mqh")).1 = .ok linkedHeader) ∧
    (locate "/ws/Include/Lib.mqh" (linkedFolder "Lib.mqh")).1 = .ok linkedHeader ∧
    Flavor.isHeader linkedHeader.suffix = true ∧
    ∃ (ts : List Target) (r' : Option HeaderResolver) (h' : Host),
      resolve nobody ["/ws/Include/Lib.mqh"] (some linkedResolver) (linkedFolder "Lib.mqh") =
        ((.ok ts, r'), h') ∧ linkedMain ∉ ts.map path := by
  have htargets : (resolve nobody ["/ws/Include/Lib.mqh"] (some linkedResolver)
      (linkedFolder "Lib.mqh")).1.1.toOption.map (List.map path) = some [linkedHeader] := by
    decide +kernel
  obtain ⟨ts, r', h', hrun, hts⟩ := ActOn.eq_ok_of_toOption htargets
  refine ⟨isFresh_linkedFolder (Or.inl rfl), rfl, isListed_linkedFolder (Or.inl rfl), rfl,
    ⟨.ofText "/ws/Include/Lib.mqh", ?_, ⟨rfl, [], rfl⟩, rfl⟩, rfl, rfl, ts, r', h', hrun, ?_⟩
  · exact mayInclude_linkedFolder (Or.inl rfl) (List.mem_cons_of_mem _ List.mem_cons_self)
  · rw [hts]
    decide

end Target

end MetaDesk
