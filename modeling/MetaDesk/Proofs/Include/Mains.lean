import MetaDesk.Proofs.Include.Comments
import MetaDesk.Proofs.Include.Indexing

/-! # The main files of a header

For a workspace without links whose sources can all be read, an index leads from each header to
exactly the main files from which one gets to it through headers, in order and in whatever circles
the files include each other.  There is no index when a source includes a name that is too long for
the system. -/

namespace MetaDesk.IncludeIndex

open Include

variable {h : Host} {w : Workspace} {root : Path}

/-- A source of the workspace includes the file of a key. -/
def SourceIncludes (h : Host) (w : Workspace) (root s : Path) (key : Text) : Prop :=
  IsScanned h root s ∧ Include.Includes h w root s key

/-- **The main files of a header.** -/
theorem build_leads_to_mains (hroot : Act.resolve w.folder h = (.ok root, h))
    (hw : IsWorkspace h root) (hmost : ({p | IsScanned h root p}.ncard : ℤ) ≤ w.most) :
    (∀ s p, IsScanned h root s → MayInclude h w root s p → IsTooLong h p →
      ∃ s' p' h', IsScanned h root s' ∧ MayInclude h w root s' p' ∧ IsTooLong h p' ∧
        build w h = (.error (tooLong p'), h')) ∧
    ((∀ s p, IsScanned h root s → MayInclude h w root s p → ¬ IsTooLong h p) →
      ∃ index h', build w h = (.ok index, h') ∧ ∀ header,
        (index.mainsOf header).Pairwise (fun p q => Path.before p q = true) ∧
        ∀ m, m ∈ index.mainsOf header ↔ (Flavor.ofSuffix? m.suffix).isSome = true ∧
          ∃ key, Climbs (SourceIncludes h w root) (keyOf header) key ∧
            SourceIncludes h w root m key) := by
  rcases hrun : build w h with ⟨m | index, h'⟩
  · obtain ⟨s, hs, p, hp, hlong, rfl⟩ := build_eq_error hroot hw hmost hrun
    exact ⟨fun _ _ _ _ _ => ⟨s, p, h', hs, hp, hlong, rfl⟩,
      fun hshort => absurd hlong (hshort s p hs hp)⟩
  · obtain ⟨hshort, hincludes⟩ := build_eq_ok hroot hw hmost hrun
    refine ⟨fun s p hs hp hlong => absurd hlong (hshort s hs p hp), fun _ => ?_⟩
    have hsame : index.Includes = SourceIncludes h w root := by
      funext s key
      exact propext (hincludes s key)
    refine ⟨index, h', rfl, fun header => ⟨?_, fun m => ?_⟩⟩
    · exact pairwise_mainsOf fun key s hs => ((hincludes s key).mp hs).1.root_eq
    · rw [mem_mainsOf, hsame]

/-! ### Two sources -/

/-- The line that includes a file. -/
def includeLine (name : Text) : Text := "#include \"" ++ name ++ "\""

/-- A host with a main file that includes a header, and the header, which includes a file. -/
def twoSources (name : Text) : Host where
  disk := ⟨[(["ws"], .folder), (["ws", "Bot.mq5"], .file (Utf8.encode (includeLine "Lib.mqh"))),
    (["ws", "Lib.mqh"], .file (Utf8.encode (includeLine name)))]⟩

/-- The workspace of the two sources. -/
def smallWorkspace : Workspace where
  folder := .ofText "/ws"

/-- Its main file. -/
def smallMain : Path := ⟨.single, ["ws", "Bot.mq5"]⟩

/-- Its header. -/
def smallHeader : Path := ⟨.single, ["ws", "Lib.mqh"]⟩

theorem isTree_twoSources (name : Text) : (twoSources name).disk.IsTree where
  once := by
    change List.Nodup
      [["ws".toList], ["ws".toList, "Bot.mq5".toList], ["ws".toList, "Lib.mqh".toList]]
    decide
  inFolders := by
    simp only [twoSources, List.forall_mem_cons]
    exact ⟨rfl, rfl, rfl, List.forall_mem_nil _⟩
  noSlashes := by simp [twoSources]

theorem isScanned_twoSources {name : Text} {p : Path} :
    IsScanned (twoSources name) smallWorkspace.folder p ↔ p = smallMain ∨ p = smallHeader := by
  constructor
  · rintro ⟨place, names, hfind, hsource, rfl⟩
    obtain rfl : ["ws".toList] = place := Except.ok.inj hfind
    obtain ⟨content, hn⟩ := hsource.file
    obtain ⟨before, last, rfl⟩ := (List.eq_nil_or_concat' names).resolve_left hsource.below
    rw [← List.append_assoc] at hn
    have hmem := Disk.mem_entries_of_node? hn
    rw [List.append_assoc] at hmem
    generalize before ++ [last] = names at hmem ⊢
    simp only [twoSources, List.mem_cons, Prod.mk.injEq, reduceCtorEq, and_false, false_or,
      List.not_mem_nil, or_false, List.singleton_append, List.cons.injEq, true_and] at hmem
    rcases hmem with ⟨rfl, -⟩ | ⟨rfl, -⟩
    · exact Or.inl rfl
    · exact Or.inr rfl
  · rintro (rfl | rfl)
    · exact ⟨["ws".toList], ["Bot.mq5".toList], rfl, ⟨by simp, ⟨_, rfl⟩, by decide, by simp⟩, rfl⟩
    · exact ⟨["ws".toList], ["Lib.mqh".toList], rfl, ⟨by simp, ⟨_, rfl⟩, by decide, by simp⟩, rfl⟩

theorem isWorkspace_twoSources (name : Text) :
    IsWorkspace (twoSources name) smallWorkspace.folder where
  tree := isTree_twoSources name
  noLinks _ _ := noLinks_of_entries (by simp [twoSources])
  readable p hp := by
    rcases isScanned_twoSources.mp hp with rfl | rfl
    · exact ⟨_, rfl⟩
    · exact ⟨_, rfl⟩

theorem ncard_twoSources (name : Text) :
    ({p | IsScanned (twoSources name) smallWorkspace.folder p}.ncard : ℤ) ≤ smallWorkspace.most := by
  have hset : {p | IsScanned (twoSources name) smallWorkspace.folder p} = {smallMain, smallHeader} :=
    Set.ext fun p => isScanned_twoSources
  have hdistinct : smallMain ≠ smallHeader := by simp [smallMain, smallHeader]
  rw [hset, Set.ncard_pair hdistinct]
  decide

theorem names_includeLine : names (includeLine "Lib.mqh") = ["Lib.mqh".toList] := by
  have hplain : '/' ∉ includeLine "Lib.mqh" := by decide
  rw [names, withoutComments_of_not_mem hplain]
  rfl

theorem mayInclude_of_circle {s p : Path}
    (hs : IsScanned (twoSources "Lib.mqh") smallWorkspace.folder s) :
    MayInclude (twoSources "Lib.mqh") smallWorkspace smallWorkspace.folder s p ↔
      p = smallHeader ∨ p = .ofText "/ws/Include/Lib.mqh" := by
  have hbytes : Act.bytesOf s (twoSources "Lib.mqh") =
      (.ok (Utf8.encode (includeLine "Lib.mqh")), twoSources "Lib.mqh") := by
    rcases isScanned_twoSources.mp hs with rfl | rfl <;> rfl
  have htext : Text.unifyBreaks (Encoding.decode .utf8 (Utf8.encode (includeLine "Lib.mqh"))) =
      includeLine "Lib.mqh" := rfl
  have hmeant : candidates "Lib.mqh" s.parent smallWorkspace.folder (smallWorkspace.includesFor s) =
      [smallHeader, .ofText "/ws/Include/Lib.mqh"] := by
    rcases isScanned_twoSources.mp hs with rfl | rfl <;> rfl
  rw [mayInclude_iff hbytes, htext, MayMean, names_includeLine]
  simp only [List.mem_singleton, exists_eq_left, hmeant, List.mem_pair]

/-- A header that includes itself is no harm. -/
theorem build_leads_to_mains_of_circle :
    ∃ index h', build smallWorkspace (twoSources "Lib.mqh") = (.ok index, h') ∧
      ∀ m, m ∈ index.mainsOf smallHeader ↔ m = smallMain := by
  have hshort : ∀ s p, IsScanned (twoSources "Lib.mqh") smallWorkspace.folder s →
      MayInclude (twoSources "Lib.mqh") smallWorkspace smallWorkspace.folder s p →
        ¬ IsTooLong (twoSources "Lib.mqh") p := by
    rintro s p hs hp ⟨-, hlong⟩
    rcases (mayInclude_of_circle hs).mp hp with rfl | rfl <;> cases hlong
  obtain ⟨index, h', hbuild, hmains⟩ := (build_leads_to_mains (w := smallWorkspace) rfl
    (isWorkspace_twoSources "Lib.mqh") (ncard_twoSources "Lib.mqh")).2 hshort
  refine ⟨index, h', hbuild, fun m => ((hmains smallHeader).2 m).trans ?_⟩
  constructor
  · rintro ⟨hmain, key, -, hs, -⟩
    refine (isScanned_twoSources.mp hs).resolve_right ?_
    rintro rfl
    cases hmain
  · rintro rfl
    have hs : IsScanned (twoSources "Lib.mqh") smallWorkspace.folder smallMain :=
      isScanned_twoSources.mpr (Or.inl rfl)
    exact ⟨rfl, _, .start, hs, smallHeader, (mayInclude_of_circle hs).mpr (Or.inl rfl),
      ⟨rfl, _, rfl⟩, rfl⟩

/-- A name of characters of four bytes that is longer than the system allows. -/
def longName : Text := List.replicate 64 '𝄞'

set_option maxRecDepth 4000 in
/-- A header that includes a file of this name leaves the workspace without an index. -/
theorem not_build_of_longName :
    IsWorkspace (twoSources longName) smallWorkspace.folder ∧
    ({p | IsScanned (twoSources longName) smallWorkspace.folder p}.ncard : ℤ) ≤ smallWorkspace.most ∧
    ∃ p h', build smallWorkspace (twoSources longName) = (.error (tooLong p), h') := by
  refine ⟨isWorkspace_twoSources longName, ncard_twoSources longName, ?_⟩
  have hs : IsScanned (twoSources longName) smallWorkspace.folder smallHeader :=
    isScanned_twoSources.mpr (Or.inr rfl)
  have hbytes : Act.bytesOf smallHeader (twoSources longName) =
      (.ok (Utf8.encode (includeLine longName)), twoSources longName) := rfl
  have htext : Text.unifyBreaks (Encoding.decode .utf8 (Utf8.encode (includeLine longName))) =
      includeLine longName := rfl
  have hplain : '/' ∉ includeLine longName := by decide
  have hnames : names (includeLine longName) = [longName] := by
    rw [names, withoutComments_of_not_mem hplain]
    rfl
  have hp : MayInclude (twoSources longName) smallWorkspace smallWorkspace.folder smallHeader
      ⟨.single, ["ws", longName]⟩ := by
    rw [mayInclude_iff hbytes, htext, MayMean, hnames]
    exact ⟨longName, List.mem_singleton_self _, List.mem_cons_self⟩
  have hlong : IsTooLong (twoSources longName) ⟨.single, ["ws", longName]⟩ := ⟨rfl, rfl⟩
  rcases hrun : build smallWorkspace (twoSources longName) with ⟨m | index, h'⟩
  · obtain ⟨s, -, p, -, -, rfl⟩ := build_eq_error (w := smallWorkspace) rfl
      (isWorkspace_twoSources longName) (ncard_twoSources longName) hrun
    exact ⟨p, h', rfl⟩
  · have hshort := (build_eq_ok (w := smallWorkspace) rfl (isWorkspace_twoSources longName)
      (ncard_twoSources longName) hrun).1
    exact absurd hlong (hshort _ hs _ hp)

end MetaDesk.IncludeIndex
