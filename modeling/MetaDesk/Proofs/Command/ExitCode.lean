import MetaDesk.Proofs.Command.Preparing
import MetaDesk.Proofs.Compile.Outcome

/-! # The exit code of a compile

A compile that is carried out ends with two when the settings do not do or there is nothing to
compile, and then nothing was started; with one when a target could not be compiled or has errors;
and with zero otherwise (`compile_eq_ok`).  So zero tells that no target failed and that no
diagnostic is an error. -/

namespace MetaDesk.Command

open Compile CompilerLog

variable {i : Invocation} {mode : CompilerLog.Mode} {r : CompileRequest} {h h' : Host} {code : ℕ}

/-! ### Requests -/

/-- The targets of a request. -/
def targetsOf (i : Invocation) (r : CompileRequest) (settings : Settings) : Act (List Target) := do
  let resolver ← HeaderResolver.ofSettings settings (← folderOf i.workspace)
  fun h =>
    let ((targets, _), h) :=
      (Target.resolve (fun _ => .ok r.headerFlavor) r.paths).run (some resolver) h
    (targets, h)

/-- How the targets are compiled. -/
def compilerOf (i : Invocation) : Compiler :=
  { settings := fun _ => Settings.load i.config, workspace := i.workspace }

/-- The settings cannot be loaded, by a failure of the configuration. -/
def SettingsFail (i : Invocation) (h : Host) : Prop :=
  ∃ f h₁, Settings.load i.config h = (.error (.failed f), h₁) ∧ f.category = .configuration

/-- The settings can be loaded, and the request has these targets. -/
def Resolves (i : Invocation) (r : CompileRequest) (h : Host) (targets : List Target)
    (h₂ : Host) : Prop :=
  ∃ settings h₁, Settings.load i.config h = (.ok settings, h₁) ∧
    targetsOf i r settings h₁ = (.ok targets, h₂)

/-- The request has these results. -/
def Compiles (i : Invocation) (mode : CompilerLog.Mode) (r : CompileRequest) (h : Host)
    (results : List Result) : Prop :=
  ∃ targets h₂ desk h₃, Resolves i r h targets h₂ ∧
    (compilerOf i).batch mode targets {} h₂ = ((.ok results, desk), h₃)

theorem Resolves.unique {targets targets' : List Target} {h₂ h₂' : Host}
    (hr : Resolves i r h targets h₂) (hr' : Resolves i r h targets' h₂') :
    targets = targets' ∧ h₂ = h₂' := by
  obtain ⟨s, h₁, hload, htargets⟩ := hr
  obtain ⟨s', h₁', hload', htargets'⟩ := hr'
  rw [hload] at hload'
  cases hload'
  rw [htargets] at htargets'
  cases htargets'
  exact ⟨rfl, rfl⟩

theorem Compiles.unique {results results' : List Result} (hc : Compiles i mode r h results)
    (hc' : Compiles i mode r h results') : results = results' := by
  obtain ⟨targets, h₂, desk, h₃, hresolves, hbatch⟩ := hc
  obtain ⟨targets', h₂', desk', h₃', hresolves', hbatch'⟩ := hc'
  obtain ⟨rfl, rfl⟩ := hresolves.unique hresolves'
  rw [hbatch] at hbatch'
  cases hbatch'
  rfl

theorem Resolves.not_settingsFail {targets : List Target} {h₂ : Host}
    (hr : Resolves i r h targets h₂) : ¬ SettingsFail i h := by
  rintro ⟨f, h₁, hfail, -⟩
  obtain ⟨s, h₁', hload, -⟩ := hr
  rw [hload] at hfail
  cases hfail

/-! ### Nothing is started before there are targets -/

theorem load_spawns (file : Option Text) (h : Host) :
    (Settings.load file h).2.spawns = h.spawns :=
  Settings.load_keeps (P := fun h₁ => h₁.spawns = h.spawns) file h rfl

theorem targetsOf_spawns (i : Invocation) (r : CompileRequest) (settings : Settings) (h : Host) :
    (targetsOf i r settings h).2.spawns = h.spawns := by
  have hkeeps : Act.Keeps (fun h₁ => h₁.spawns = h.spawns) (targetsOf i r settings) := by
    refine (folderOf_keeps _).bind fun folder => ?_
    refine (HeaderResolver.ofSettings_keeps _ _).bind fun resolver => ?_
    intro h₁ hh₁
    exact Target.resolve_keeps (P := fun h₁ => h₁.spawns = h.spawns) (fun _ _ hh => hh) _ r.paths
      (some resolver) h₁ hh₁
  exact hkeeps h rfl

theorem refuse_apply (message : Text) (h : Host) :
    refuse message h =
      (.ok trouble, { h with complaints := h.complaints ++ ("Error: " ++ message) ++ ['\n'] }) :=
  rfl

theorem runDesk_eq_ok {act : Compiling (List Result)} {results : List Result} {desk : Desk}
    (hrun : (fun h =>
        let ((results, desk), h) := act.run {} h
        (results.map fun rs => (rs, desk), h) : Act (List Result × Desk)) h =
      (.ok (results, desk), h')) : act {} h = ((.ok results, desk), h') := by
  rcases hact : act {} h with ⟨⟨_ | results', desk'⟩, h₁⟩
  · simp only [ActOn.run, hact] at hrun
    cases hrun
  · simp only [ActOn.run, hact] at hrun
    cases hrun
    rfl

/-- The host after the diagnostics in the store were printed. -/
def printed (store : DiagnosticStore) (h : Host) : Host :=
  { h with output := h.output.echo ((ByFile.presentation store.byFile).layout 0 ++ ['\n']) }

/-! ### The code -/

/-- How a compile is carried out: it is refused before anything is started, or the code tells
whether one of the targets has an error, and the diagnostics are printed if they are wanted. -/
theorem compile_cases (hrun : compile i mode r h = (.ok code, h')) :
    code = 2 ∧ h'.spawns = h.spawns ∧ (SettingsFail i h ∨ ∃ h₂, Resolves i r h [] h₂) ∨
      ∃ targets h₂ results desk h₃, targets ≠ [] ∧ Resolves i r h targets h₂ ∧
        (compilerOf i).batch mode targets {} h₂ = ((.ok results, desk), h₃) ∧
        h' = (if r.asJson then printed desk.store h₃ else h₃) ∧
        code = if Compile.hasError results then 1 else 0 := by
  unfold compile withSettings at hrun
  obtain ⟨loaded, h₁, hload, hnext⟩ := Act.bind_eq_ok hrun
  have hspawns₁ := load_spawns i.config h
  cases loaded with
  | error f =>
      obtain ⟨hfail, hcategory⟩ := Act.tryConfigured_eq_error hload
      rw [hfail] at hspawns₁
      have hrefused := hnext.symm.trans (refuse_apply f.message h₁)
      cases hrefused
      exact Or.inl ⟨rfl, hspawns₁, Or.inl ⟨f, h₁, hfail, hcategory⟩⟩
  | ok settings =>
      have hloaded := Act.tryConfigured_eq_ok hload
      rw [hloaded] at hspawns₁
      obtain ⟨folder, h₂, hfolder, hafterFolder⟩ := Act.bind_eq_ok hnext
      obtain ⟨resolver, h₃, hresolver, hafterResolver⟩ := Act.bind_eq_ok hafterFolder
      obtain ⟨targets, h₄, htargets, hafterTargets⟩ := Act.bind_eq_ok hafterResolver
      have hall : targetsOf i r settings h₁ = (.ok targets, h₄) := by
        unfold targetsOf
        rw [Act.bind_of_ok hfolder, Act.bind_of_ok hresolver]
        exact htargets
      have hspawns₄ := targetsOf_spawns i r settings h₁
      rw [hall] at hspawns₄
      have hresolves : Resolves i r h targets h₄ := ⟨settings, h₁, hloaded, hall⟩
      split at hafterTargets
      · next hempty =>
          rw [refuse_apply] at hafterTargets
          cases hafterTargets
          obtain rfl : targets = [] := List.isEmpty_iff.mp hempty
          exact Or.inl ⟨rfl, hspawns₄.trans hspawns₁, Or.inr ⟨h₄, hresolves⟩⟩
      · next hempty =>
          obtain ⟨⟨results, desk⟩, h₅, hbatch, hlast⟩ := Act.bind_eq_ok hafterTargets
          have hrunBatch : (compilerOf i).batch mode targets {} h₄ = ((.ok results, desk), h₅) :=
            runDesk_eq_ok hbatch
          have hne : targets ≠ [] := fun h => hempty (List.isEmpty_iff.mpr h)
          refine Or.inr ⟨targets, h₄, results, desk, h₅, hne, hresolves, hrunBatch, ?_⟩
          dsimp only at hlast
          split at hlast
          · next hjson =>
              rw [if_pos hjson]
              cases hlast
              exact ⟨rfl, rfl⟩
          · next hjson =>
              rw [if_neg hjson]
              cases hlast
              exact ⟨rfl, rfl⟩

theorem hasError_results_iff {results : List Result} :
    Compile.hasError results = true ↔ ∃ result ∈ results, result.hasError = true :=
  List.any_eq_true

/-- The code is two exactly when the compile is refused. -/
theorem code_eq_two_iff (hrun : compile i mode r h = (.ok code, h')) :
    code = 2 ↔ SettingsFail i h ∨ ∃ h₂, Resolves i r h [] h₂ := by
  rcases compile_cases hrun with ⟨rfl, -, hrefused⟩ | hcompiled
  · exact iff_of_true rfl hrefused
  · obtain ⟨targets, h₂, results, desk, h₃, hne, hresolves, hbatch, -, rfl⟩ := hcompiled
    refine iff_of_false (by split <;> decide) ?_
    rintro (hfail | ⟨h₂', hnone⟩)
    · exact hresolves.not_settingsFail hfail
    · exact hne (hresolves.unique hnone).1

theorem spawns_of_code_eq_two (hrun : compile i mode r h = (.ok 2, h')) :
    h'.spawns = h.spawns := by
  rcases compile_cases hrun with ⟨-, hspawns, -⟩ | hcompiled
  · exact hspawns
  · obtain ⟨targets, h₂, results, desk, h₃, -, -, -, -, hcode⟩ := hcompiled
    split at hcode <;> cases hcode

theorem code_of_ne_two (hrun : compile i mode r h = (.ok code, h')) (hne : code ≠ 2) :
    ∃ results, Compiles i mode r h results ∧
      (code = 1 ↔ ∃ result ∈ results, result.hasError = true) ∧
      (code = 0 ↔ ∀ result ∈ results, result.hasError = false) := by
  rcases compile_cases hrun with ⟨rfl, -⟩ | hcompiled
  · exact absurd rfl hne
  · obtain ⟨targets, h₂, results, desk, h₃, -, hresolves, hbatch, -, rfl⟩ := hcompiled
    refine ⟨results, ⟨targets, h₂, desk, h₃, hresolves, hbatch⟩, ?_, ?_⟩
    · rw [← hasError_results_iff]
      split <;> simp_all
    · have hnone : (∀ result ∈ results, result.hasError = false) ↔
          ¬ Compile.hasError results = true := by
        rw [hasError_results_iff]
        simp
      rw [hnone]
      split <;> simp_all

/-- A code of zero leaves no target that failed and no diagnostic that is an error. -/
theorem no_error_of_code_eq_zero (hrun : compile i mode r h = (.ok 0, h')) {results : List Result}
    (hcompiles : Compiles i mode r h results) :
    ∀ result ∈ results, result.failure = none ∧ ¬ HasErrorByFile result.diagnostics := by
  obtain ⟨results', hcompiles', -, hzero⟩ := code_of_ne_two hrun (by decide)
  obtain rfl := hcompiles.unique hcompiles'
  intro result hresult
  have hclean := hzero.mp rfl result hresult
  obtain ⟨targets, h₂, desk, h₃, -, hbatch⟩ := hcompiles
  obtain ⟨t, -, desk₁, h₁, desk₂, h₂, hcompile⟩ := exists_result_of_mem (batch_eq_ok hbatch) hresult
  have hiff := hasError_iff_of_compile hcompile
  rw [hclean] at hiff
  have hnot := fun hor => Bool.false_ne_true (hiff.mpr hor)
  constructor
  · rw [← Option.not_isSome_iff_eq_none]
    exact fun hfailure => hnot (Or.inl hfailure)
  · exact fun herror => hnot (Or.inr (Or.inl herror))

/-- **What an error flag and an exit code tell.**  A result has an error when its target could not
be compiled, an error is among its diagnostics, or the log that was read counts errors; a batch has one
when one of its results has.  A compile ends with two when the settings fail or there is nothing to
compile, before anything is started, with one when one of the results has an error, and with zero
otherwise; then no target failed and no diagnostic is an error. -/
theorem hasError_and_code :
    (∀ {c : Compiler} {mode : CompilerLog.Mode} {t : Target} {desk desk' : Desk} {h h' : Host}
      {result : Result}, c.compile mode t desk h = ((.ok result, desk'), h') →
      (result.hasError = true ↔ result.failure.isSome = true ∨ HasErrorByFile result.diagnostics ∨
        ∃ log, ReadsLog c t desk h log ∧ ∃ line ∈ lines log, CountsErrors line)) ∧
    (∀ {c : Compiler} {mode : CompilerLog.Mode} {ts : List Target} {desk desk' : Desk} {h h' : Host}
      {results : List Result}, c.batch mode ts desk h = ((.ok results, desk'), h') →
      List.Forall₂ (IsResultOf c mode) ts results ∧
        (Compile.hasError results = true ↔ ∃ result ∈ results, result.hasError = true)) ∧
    ∀ {i : Invocation} {mode : CompilerLog.Mode} {r : CompileRequest} {h h' : Host} {code : ℕ},
      compile i mode r h = (.ok code, h') →
      (code = 2 ↔ SettingsFail i h ∨ ∃ h₂, Resolves i r h [] h₂) ∧
      (code = 2 → h'.spawns = h.spawns) ∧
      (code ≠ 2 → ∃ results, Compiles i mode r h results ∧
        (code = 1 ↔ ∃ result ∈ results, result.hasError = true) ∧
        (code = 0 ↔ ∀ result ∈ results, result.hasError = false)) ∧
      (code = 0 → ∀ results, Compiles i mode r h results → ∀ result ∈ results,
        result.failure = none ∧ ¬ HasErrorByFile result.diagnostics) := by
  refine ⟨hasError_iff_of_compile, fun hrun => ⟨batch_eq_ok hrun, hasError_results_iff⟩,
    fun hrun => ⟨code_eq_two_iff hrun, ?_, code_of_ne_two hrun, ?_⟩⟩
  · rintro rfl
    exact spawns_of_code_eq_two hrun
  · rintro rfl results hcompiles
    exact no_error_of_code_eq_zero hrun hcompiles

/-- A host with a source and a compiler that leaves a log. -/
def sourceHost (log : Text) : Host where
  disk := ⟨[(["me".toList], .file []), (["a.mq5".toList], .file []),
    (["c".toList], .file (Utf8.encode "metaeditor: \x7bmetaeditor5_dir: /me\x7d"))]⟩
  config := some "/c"
  programs := [{ files := [(.ofText "/a.log", Utf16.encode log)] }]

/-- The target of the source. -/
def sourceTarget : Target := ⟨.ofText "/a.mq5", .mql5, rfl⟩

/-- All codes come about: one and an error when the log counts errors, zero when it counts none, and
two when no source is given. -/
theorem hasError_and_code_of_sourceHost :
    (∃ result desk h', (compilerOf {}).compile .check sourceTarget {}
        (sourceHost "Result: 2 errors") = ((.ok result, desk), h') ∧
      (result.failure.isSome = true ∨ HasErrorByFile result.diagnostics ∨
        ∃ log, ReadsLog (compilerOf {}) sourceTarget {} (sourceHost "Result: 2 errors") log ∧
          ∃ line ∈ lines log, CountsErrors line)) ∧
    (∃ results, List.Forall₂ (IsResultOf (compilerOf {}) .check) [sourceTarget] results ∧
      ∃ result ∈ results, result.hasError = true) ∧
    (∃ results, Compiles {} .check { paths := ["/a.mq5"] } (sourceHost "Result: 2 errors") results ∧
      ∃ result ∈ results, result.hasError = true) ∧
    (∃ results, Compiles {} .check { paths := ["/a.mq5"] } (sourceHost "Result: 0 errors") results ∧
      ∀ result ∈ results, result.failure = none ∧ ¬ HasErrorByFile result.diagnostics) ∧
    ∃ h', compile {} .check { paths := [] } (sourceHost []) = (.ok 2, h') ∧ h'.spawns = [] := by
  have htarget : (((compilerOf {}).compile .check sourceTarget {}
      (sourceHost "Result: 2 errors")).1.1.toOption.map (·.hasError)) = some true := by
    decide +kernel
  have hbatch : (((compilerOf {}).batch .check [sourceTarget] {}
      (sourceHost "Result: 2 errors")).1.1.toOption.map Compile.hasError) = some true := by
    decide +kernel
  have hone : (compile {} .check { paths := ["/a.mq5"] }
      (sourceHost "Result: 2 errors")).1.toOption = some 1 := by decide +kernel
  have hzero : (compile {} .check { paths := ["/a.mq5"] }
      (sourceHost "Result: 0 errors")).1.toOption = some 0 := by decide +kernel
  have htwo : (compile {} .check { paths := [] } (sourceHost [])).1.toOption = some 2 := by
    decide +kernel
  obtain ⟨hresults, hbatches, hcodes⟩ := hasError_and_code
  refine ⟨?_, ?_, ?_, ?_, ?_⟩
  · obtain ⟨result, desk, h', hrun, herror⟩ := ActOn.eq_ok_of_toOption htarget
    exact ⟨result, desk, h', hrun, (hresults hrun).mp herror⟩
  · obtain ⟨results, desk, h', hrun, herror⟩ := ActOn.eq_ok_of_toOption hbatch
    exact ⟨results, (hbatches hrun).1, (hbatches hrun).2.mp herror⟩
  · obtain ⟨h', hrun⟩ := Act.eq_ok_of_toOption hone
    obtain ⟨results, hcompiles, herror, -⟩ := (hcodes hrun).2.2.1 (by decide)
    exact ⟨results, hcompiles, herror.mp rfl⟩
  · obtain ⟨h', hrun⟩ := Act.eq_ok_of_toOption hzero
    obtain ⟨results, hcompiles, -⟩ := (hcodes hrun).2.2.1 (by decide)
    exact ⟨results, hcompiles, (hcodes hrun).2.2.2 rfl results hcompiles⟩
  · obtain ⟨h', hrun⟩ := Act.eq_ok_of_toOption htwo
    exact ⟨h', hrun, (hcodes hrun).2.1 rfl⟩

end MetaDesk.Command
