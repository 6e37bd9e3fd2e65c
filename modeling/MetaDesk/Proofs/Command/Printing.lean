import MetaDesk.Proofs.Command.ExitCode
import MetaDesk.Proofs.Compile.Storing

/-! # Printing diagnostics

The diagnostics that a compile prints are those in the store after its batch.  The printed tree shows a
diagnostic of a severity when the store has one (`showsSeverity_presentation`), and an error in the
store is one of a result, so nothing that is printed by a compile that ends with zero is an error
(`batch_replaces_store`). -/

namespace MetaDesk.Command

open Compile CompilerLog

/-- A diagnostic of this severity is shown under one of the files. -/
def ShowsSeverity (tree : JsonTree) (s : Severity) : Prop :=
  ∃ files file items parts, tree = .record files ∧ (file, .list items) ∈ files ∧
    .record parts ∈ items ∧ (("severity" : Text), .text s.label) ∈ parts

theorem label_injective {s s' : Severity} (h : s.label = s'.label) : s = s' := by
  cases s <;> cases s' <;> first | rfl | exact absurd h (by decide)

theorem severity_mem_presentation {d : Diagnostic} {s : Severity} :
    (∃ parts, d.presentation = .record parts ∧ (("severity" : Text), .text s.label) ∈ parts) ↔
      d.severity = s := by
  constructor
  · rintro ⟨parts, hparts, hmem⟩
    obtain rfl := JsonTree.record.inj hparts
    simp only [List.map_append, List.map_cons, List.map_nil, List.mem_append, List.mem_cons,
      List.mem_map, Option.mem_toList] at hmem
    rcases hmem with (hrange | hmessage | hseverity | hnone) | ⟨_, ⟨code, -, rfl⟩, hcode⟩
    · exact absurd (Prod.mk.inj hrange).1 (by decide)
    · exact absurd (Prod.mk.inj hmessage).1 (by decide)
    · exact (label_injective (JsonTree.text.inj (Prod.mk.inj hseverity).2)).symm
    · cases hnone
    · have hne : "code".toList ≠ "severity".toList := by decide
      exact absurd (Prod.mk.inj hcode).1 hne
  · rintro rfl
    refine ⟨_, rfl, ?_⟩
    simp only [List.map_append, List.mem_append]
    exact Or.inl (List.mem_cons_of_mem _ (List.mem_cons_of_mem _ List.mem_cons_self))

theorem showsSeverity_presentation {groups : ByFile} {s : Severity} :
    ShowsSeverity groups.presentation s ↔ ∃ g ∈ groups, ∃ d ∈ g.2, d.severity = s := by
  constructor
  · rintro ⟨files, file, items, parts, hfiles, hfile, hitem, hpart⟩
    obtain rfl := JsonTree.record.inj hfiles
    obtain ⟨g, hg, hentry⟩ := List.mem_map.mp hfile
    obtain rfl := JsonTree.list.inj (Prod.mk.inj hentry).2
    obtain ⟨d, hd, hparts⟩ := List.mem_map.mp hitem
    exact ⟨g, hg, d, hd, severity_mem_presentation.mp ⟨parts, hparts, hpart⟩⟩
  · rintro ⟨g, hg, d, hd, hseverity⟩
    obtain ⟨parts, hparts, hpart⟩ := severity_mem_presentation.mpr hseverity
    exact ⟨_, g.1, _, parts, rfl, List.mem_map.mpr ⟨g, hg, rfl⟩,
      List.mem_map.mpr ⟨d, hd, hparts⟩, hpart⟩

theorem showsError_iff {s : DiagnosticStore} :
    ShowsSeverity (ByFile.presentation s.byFile) .error ↔ s.hasErrors = true :=
  showsSeverity_presentation.trans hasErrors_iff.symm

theorem printed_of_code_eq_zero {i : Invocation} {mode : CompilerLog.Mode} {r : CompileRequest}
    {h h' : Host} (hrun : compile i mode r h = (.ok 0, h')) (hjson : r.asJson = true) :
    ∃ targets h₂ results desk h₃, Resolves i r h targets h₂ ∧
      (compilerOf i).batch mode targets {} h₂ = ((.ok results, desk), h₃) ∧
      h' = printed desk.store h₃ ∧
      ¬ ShowsSeverity (ByFile.presentation desk.store.byFile) .error := by
  rcases compile_cases hrun with ⟨hcode, -⟩ | hcompiled
  · cases hcode
  · obtain ⟨targets, h₂, results, desk, h₃, -, hresolves, hbatch, hprinted, hcode⟩ := hcompiled
    rw [if_pos hjson] at hprinted
    refine ⟨targets, h₂, results, desk, h₃, hresolves, hbatch, hprinted, fun hshown => ?_⟩
    have herror := hasError_of_store hbatch (showsError_iff.mp hshown)
    rw [if_pos herror] at hcode
    cases hcode

/-- **A batch replaces what was published.**  Whatever the store had before, after a batch it has of
each file what the last result that knows the file has of it, and nothing of other files.  The
diagnostics of a result are a partition of those of its log, or none when the target could not be
compiled.  An error in the store is one of the batch, and a compile that ends with zero prints none. -/
theorem batch_replaces_store :
    (∀ {c : Compiler} {mode : CompilerLog.Mode} {ts : List Target} {desk desk' : Desk} {h h' : Host}
      {results : List Result}, c.batch mode ts desk h = ((.ok results, desk'), h') →
      (∀ file, desk'.store.get file = (lastGroup? results file).getD []) ∧
      (∀ file, desk'.store.byFile.get? file = lastGroup? results file) ∧
      Compiled c mode ts results desk.emptied (emptied h) desk' h' ∧
      (desk'.store.hasErrors = true → Compile.hasError results = true)) ∧
    (∀ {c : Compiler} {mode : CompilerLog.Mode} {t : Target} {desk desk' : Desk} {h h' : Host}
      {result : Result}, c.compile mode t desk h = ((.ok result, desk'), h') →
      result.failure.isSome = true ∧ result.diagnostics = [] ∨
        result.failure = none ∧ ∃ log report, ReadsLog c t desk h log ∧
          CompilerLog.read mode log = .ok report ∧
          Diagnostic.IsPartition report.diagnostics result.diagnostics) ∧
    ∀ {i : Invocation} {mode : CompilerLog.Mode} {r : CompileRequest} {h h' : Host},
      compile i mode r h = (.ok 0, h') → r.asJson = true →
      ∃ targets h₂ results desk h₃, Resolves i r h targets h₂ ∧
        (compilerOf i).batch mode targets {} h₂ = ((.ok results, desk), h₃) ∧
        h' = printed desk.store h₃ ∧
        ¬ ShowsSeverity (ByFile.presentation desk.store.byFile) .error := by
  refine ⟨fun hrun => ⟨fun file => ?_, get?_store_of_batch hrun, compiled_of_batch hrun,
    hasError_of_store hrun⟩, diagnostics_of_compile, printed_of_code_eq_zero⟩
  rw [DiagnosticStore.get, get?_store_of_batch hrun]

/-! ### A shared header -/

/-- A file that two sources include. -/
def sharedFile : Text := "C:\\s.mqh"

/-- Another source beside the first one. -/
def secondTarget : Target := ⟨⟨.single, ["b.mq5"]⟩, .mql5, rfl⟩

/-- A host where the compiler reports an error in the shared file for the first source, only a warning
for the second, and leaves no log for the third. -/
def sharingHost : Host :=
  { plainHost true [] with
    programs := [
      { files := [(.ofText "/a.log", Utf16.encode "C:\\s.mqh(1,1) : error 5: bad")] },
      { files := [(.ofText "/b.log", Utf16.encode "C:\\s.mqh(2,2) : warning 7: odd")] }] }

/-- What was reported before on another file. -/
def earlierDesk : Desk := { store := ⟨[("C:\\old.mqh", [⟨"C:\\old.mqh", 0, 0, .error, "gone", none⟩])]⟩ }

/-- The later report on the shared file stays and the earlier desk does not; a warning is printed by a
compile that ends with zero. -/
theorem batch_replaces_store_of_sharedFile :
    (∃ results desk' h', plainCompiler.batch .check [plainTarget, secondTarget, plainTarget]
        earlierDesk sharingHost = ((.ok results, desk'), h') ∧
      results.length = 3 ∧
      desk'.store.get sharedFile = [⟨sharedFile, 1, 1, .warning, "odd", some "7"⟩] ∧
      desk'.store.get "C:\\old.mqh" = []) ∧
    (∃ result desk' h', plainCompiler.compile .check plainTarget {} sharingHost =
        ((.ok result, desk'), h') ∧ result.failure = none ∧
      ∃ log report, ReadsLog plainCompiler plainTarget {} sharingHost log ∧
        CompilerLog.read .check log = .ok report ∧
        Diagnostic.IsPartition report.diagnostics result.diagnostics) ∧
    ∃ h', compile {} .check { paths := ["/a.mq5"], asJson := true }
        (sourceHost "C:\\s.mqh(2,2) : warning 7: odd") = (.ok 0, h') ∧
      ∃ store h₃, h' = printed store h₃ ∧
        ¬ ShowsSeverity (ByFile.presentation store.byFile) .error := by
  have hbatch : (plainCompiler.batch .check [plainTarget, secondTarget, plainTarget] earlierDesk
      sharingHost).1.1.toOption.map (fun results => (results.length, lastGroup? results sharedFile,
        lastGroup? results "C:\\old.mqh")) =
      some (3, some [⟨sharedFile, 1, 1, .warning, "odd", some "7"⟩], none) := by decide +kernel
  have htarget : (plainCompiler.compile .check plainTarget {} sharingHost).1.1.toOption.map
      (·.failure) = some none := by decide +kernel
  have hzero : (compile {} .check { paths := ["/a.mq5"], asJson := true }
      (sourceHost "C:\\s.mqh(2,2) : warning 7: odd")).1.toOption = some 0 := by decide +kernel
  obtain ⟨hstores, hgroups, hprints⟩ := batch_replaces_store
  refine ⟨?_, ?_, ?_⟩
  · obtain ⟨results, desk', h', hrun, hall⟩ := ActOn.eq_ok_of_toOption hbatch
    obtain ⟨hlength, hentries⟩ := Prod.mk.inj hall
    obtain ⟨hshared, hold⟩ := Prod.mk.inj hentries
    have hstore := (hstores hrun).1
    refine ⟨results, desk', h', hrun, hlength, ?_, ?_⟩
    · rw [hstore, hshared]
      rfl
    · rw [hstore, hold]
      rfl
  · obtain ⟨result, desk', h', hrun, hfailure⟩ := ActOn.eq_ok_of_toOption htarget
    refine ⟨result, desk', h', hrun, hfailure, ?_⟩
    rcases hgroups hrun with ⟨hfailed, -⟩ | ⟨-, hlog⟩
    · rw [hfailure] at hfailed
      cases hfailed
    · exact hlog
  · obtain ⟨h', hrun⟩ := Act.eq_ok_of_toOption hzero
    obtain ⟨targets, h₂, results, desk, h₃, -, -, hprinted, hnone⟩ := hprints hrun rfl
    exact ⟨h', hrun, desk.store, h₃, hprinted, hnone⟩

end MetaDesk.Command
