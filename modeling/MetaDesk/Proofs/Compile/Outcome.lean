import MetaDesk.Proofs.Compile.Turn
import MetaDesk.Proofs.CompilerLog.Errors
import MetaDesk.Proofs.Diagnostic.Groups

/-! # When a target counts as failed

The result of a target has an error when the target could not be compiled, when an error is among
its diagnostics, or when the log that was read counts errors (`hasError_iff`).  The diagnostics of a
result are those of the log, only put together by file (`mem_groupByFile`). -/

namespace MetaDesk.Compile

open CompilerLog

/-! ### Results -/

/-- The text of the log that is read when a target is compiled. -/
def ReadsLog (c : Compiler) (t : Target) (desk : Desk) (h : Host) (log : Text) : Prop :=
  ∃ e h₁ path h₂, Act.tryConfigured (c.prepare t.flavor desk.reads) h = (.ok (.ok e), h₁) ∧
    t.log = .ok path ∧ c.logOf e t path h₁ = (.ok (.ok log), h₂)

variable {c : Compiler} {mode : CompilerLog.Mode} {t : Target} {desk desk' : Desk} {h h' : Host}
  {r : Result}

theorem readsLog_iff {log : Text} :
    ReadsLog c t desk h log ↔ ∃ h₂, Logs c t desk h (.ok (.ok log)) h₂ := by
  constructor
  · rintro ⟨e, h₁, path, h₂, hprepare, hpath, hlog⟩
    exact ⟨h₂, e, h₁, path, hprepare, hpath, hlog⟩
  · rintro ⟨h₂, e, h₁, path, hprepare, hpath, hlog⟩
    exact ⟨e, h₁, path, h₂, hprepare, hpath, hlog⟩

/-- How a target is compiled: it fails, or its log is read and what it says is published. -/
theorem compile_eq_ok (hrun : c.compile mode t desk h = ((.ok r, desk'), h')) :
    (∃ f, r = .ofFailure t f) ∨
      ∃ log report, ReadsLog c t desk h log ∧ read mode log = .ok report ∧ r = .ofReport t report := by
  cases turn_of_compile hrun with
  | misset _ => exact Or.inl ⟨_, rfl⟩
  | missing _ => exact Or.inl ⟨_, rfl⟩
  | published hlogs hread => exact Or.inr ⟨_, _, readsLog_iff.mpr ⟨_, hlogs⟩, hread, rfl⟩

theorem ReadsLog.unique {log log' : Text} (hlog : ReadsLog c t desk h log)
    (hlog' : ReadsLog c t desk h log') : log = log' := by
  obtain ⟨h₂, hlogs⟩ := readsLog_iff.mp hlog
  obtain ⟨h₂', hlogs'⟩ := readsLog_iff.mp hlog'
  obtain ⟨hfound, -⟩ := hlogs.unique hlogs'
  cases hfound
  rfl

/-- An error is among diagnostics that were put together by file. -/
def HasErrorByFile (groups : ByFile) : Prop := ∃ g ∈ groups, HasErrorIn g.2

theorem hasErrorByFile_groupByFile {ds : List Diagnostic} :
    HasErrorByFile (Diagnostic.groupByFile ds) ↔ HasErrorIn ds := by
  constructor
  · rintro ⟨g, hg, d, hd, herror⟩
    exact ⟨d, Diagnostic.mem_groupByFile.mp ⟨g, hg, hd⟩, herror⟩
  · rintro ⟨d, hd, herror⟩
    obtain ⟨g, hg, hd⟩ := Diagnostic.mem_groupByFile.mpr hd
    exact ⟨g, hg, d, hd, herror⟩

/-- **When the result of a target has an error.**  It could not be compiled, an error is among its
diagnostics, or the log that was read counts errors. -/
theorem hasError_iff_of_compile (hrun : c.compile mode t desk h = ((.ok r, desk'), h')) :
    r.hasError = true ↔ r.failure.isSome = true ∨ HasErrorByFile r.diagnostics ∨
      ∃ log, ReadsLog c t desk h log ∧ ∃ line ∈ lines log, CountsErrors line := by
  rcases compile_eq_ok hrun with ⟨f, rfl⟩ | ⟨log, report, hlog, hread, rfl⟩
  · exact iff_of_true rfl (Or.inl rfl)
  · have hcounts : (∃ log', ReadsLog c t desk h log' ∧ ∃ line ∈ lines log', CountsErrors line) ↔
        ∃ line ∈ lines log, CountsErrors line := by
      constructor
      · rintro ⟨log', hlog', hline⟩
        rwa [hlog.unique hlog']
      · exact fun hline => ⟨log, hlog, hline⟩
    dsimp only [Result.ofReport]
    rw [hasErrorByFile_groupByFile, hcounts, hasError_iff hread]
    simp

/-! ### Batches -/

/-- The result of a target in a batch, at the time when its turn came. -/
def IsResultOf (c : Compiler) (mode : CompilerLog.Mode) (t : Target) (r : Result) : Prop :=
  ∃ desk h desk' h', c.compile mode t desk h = ((.ok r, desk'), h')

/-- Targets were compiled one after the other, each with a result. -/
inductive Compiled (c : Compiler) (mode : Mode) :
    List Target → List Result → Desk → Host → Desk → Host → Prop where
  | nil {desk : Desk} {h : Host} : Compiled c mode [] [] desk h desk h
  | cons {t : Target} {ts : List Target} {r : Result} {rs : List Result} {desk desk₁ desk' : Desk}
      {h h₁ h' : Host} (hfirst : c.compile mode t desk h = ((.ok r, desk₁), h₁))
      (hrest : Compiled c mode ts rs desk₁ h₁ desk' h') :
      Compiled c mode (t :: ts) (r :: rs) desk h desk' h'

theorem compiled_of_compileAll {ts : List Target} {rs : List Result}
    (hrun : c.compileAll mode ts desk h = ((.ok rs, desk'), h')) :
    Compiled c mode ts rs desk h desk' h' := by
  unfold Compiler.compileAll at hrun
  induction ts generalizing rs desk h with
  | nil =>
      cases hrun
      exact .nil
  | cons t ts ih =>
      rw [List.mapM_cons] at hrun
      obtain ⟨r, desk₁, h₁, hfirst, hrun⟩ := ActOn.bind_eq_ok hrun
      obtain ⟨rest, desk₂, h₂, hrest, hrun⟩ := ActOn.bind_eq_ok hrun
      cases hrun
      exact .cons hfirst (ih hrest)

theorem Compiled.results {ts : List Target} {rs : List Result}
    (hdone : Compiled c mode ts rs desk h desk' h') : List.Forall₂ (IsResultOf c mode) ts rs := by
  induction hdone with
  | nil => exact .nil
  | cons hfirst _ ih => exact .cons ⟨_, _, _, _, hfirst⟩ ih

/-- A batch has one result for each target, in order. -/
theorem batch_eq_ok {ts : List Target} {rs : List Result}
    (hrun : c.batch mode ts desk h = ((.ok rs, desk'), h')) :
    List.Forall₂ (IsResultOf c mode) ts rs := by
  unfold Compiler.batch at hrun
  obtain ⟨_, desk₁, h₁, -, hrun⟩ := ActOn.bind_eq_ok hrun
  obtain ⟨_, desk₂, h₂, -, hrun⟩ := ActOn.bind_eq_ok hrun
  exact (compiled_of_compileAll hrun).results

theorem exists_result_of_mem {ts : List Target} {rs : List Result}
    (hall : List.Forall₂ (IsResultOf c mode) ts rs) (hr : r ∈ rs) :
    ∃ t ∈ ts, IsResultOf c mode t r := by
  induction hall with
  | nil => cases hr
  | cons hfirst _ ih =>
      rcases List.mem_cons.mp hr with rfl | hr
      · exact ⟨_, List.mem_cons_self, hfirst⟩
      · obtain ⟨t, ht, hresult⟩ := ih hr
        exact ⟨t, List.mem_cons_of_mem _ ht, hresult⟩

/-! ### A small host -/

/-- A compiler that is at one place. -/
def plainCompiler : Compiler where
  settings _ := pure { compilers := { executable5 := "/me" } }
  patience := { attempts := 0 }

/-- A host with a source, and with that compiler if it is there; it leaves a log. -/
def plainHost (isThere : Bool) (log : Text) : Host where
  disk := ⟨(["a.mq5".toList], .file []) :: if isThere then [(["me".toList], .file [])] else []⟩
  programs := [{ files := [(.ofText "/a.log", Utf16.encode log)] }]

/-- The source. -/
def plainTarget : Target := ⟨⟨.single, ["a.mq5"]⟩, .mql5, rfl⟩

end MetaDesk.Compile
