import MetaDesk.Proofs.Compile.Stopping

/-! # What a batch leaves in the store

The diagnostics of a result are those of its log, put together by file, or none when its target could
not be compiled (`diagnostics_of_compile`).  Publishing a result brings the store up to date with them
(`store_of_compile`), and a batch starts from an empty store.  So in the end the store has of each file
what the last result that knows the file has of it (`get?_store_of_batch`), and no error that is not in
one of the results (`hasError_of_store`). -/

namespace MetaDesk.Compile

open CompilerLog

variable {c : Compiler} {mode : Mode} {t : Target} {ts : List Target} {desk desk' : Desk}
  {h h' : Host} {r : Result} {rs : List Result}

/-! ### One target -/

theorem diagnostics_of_compile (hrun : c.compile mode t desk h = ((.ok r, desk'), h')) :
    r.failure.isSome = true ∧ r.diagnostics = [] ∨
      r.failure = none ∧ ∃ log report, ReadsLog c t desk h log ∧ read mode log = .ok report ∧
        Diagnostic.IsPartition report.diagnostics r.diagnostics := by
  rcases compile_eq_ok hrun with ⟨f, rfl⟩ | ⟨log, report, hlog, hread, rfl⟩
  · exact Or.inl ⟨rfl, rfl⟩
  · exact Or.inr ⟨rfl, log, report, hlog, hread, Diagnostic.isPartition_groupByFile _⟩

theorem nodup_keys_of_compile (hrun : c.compile mode t desk h = ((.ok r, desk'), h')) :
    r.diagnostics.keys.Nodup := by
  rcases compile_eq_ok hrun with ⟨f, rfl⟩ | ⟨log, report, -, -, rfl⟩
  · exact List.nodup_nil
  · exact Diagnostic.nodup_keys_groupByFile _

/-- A compile brings the store up to date with what came out. -/
theorem store_of_compile (hrun : c.compile mode t desk h = ((.ok r, desk'), h')) :
    desk'.store.byFile = Keyed.update desk.store.byFile r.diagnostics := by
  cases turn_of_compile hrun with
  | misset _ => rfl
  | missing _ => rfl
  | published _ _ =>
      exact DiagnosticStore.byFile_replaceAll
        (fun _ hg => (Diagnostic.eq_filter_of_mem_groupByFile hg).2) _

/-! ### Targets one after the other -/

/-- What the last result that knows a file has of it. -/
def lastGroup? (results : List Result) (file : Text) : Option (List Diagnostic) :=
  (results.filterMap (·.diagnostics.get? file)).getLast?

theorem lastGroup?_cons (r : Result) (rs : List Result) (file : Text) :
    lastGroup? (r :: rs) file = (lastGroup? rs file).or (r.diagnostics.get? file) := by
  unfold lastGroup?
  rw [List.getLast?_filterMap, List.getLast?_filterMap, List.reverse_cons, List.findSome?_append,
    List.findSome?_singleton]

/-- Later results count before earlier ones, and both before what was there. -/
theorem Compiled.get?_store (hdone : Compiled c mode ts rs desk h desk' h') (file : Text) :
    desk'.store.byFile.get? file = (lastGroup? rs file).or (desk.store.byFile.get? file) := by
  induction hdone with
  | nil => rfl
  | cons hfirst _ ih =>
      rw [ih, store_of_compile hfirst, Keyed.get?_update _ (nodup_keys_of_compile hfirst),
        lastGroup?_cons, Option.or_assoc]

theorem Compiled.mem_store (hdone : Compiled c mode ts rs desk h desk' h')
    {g : Text × List Diagnostic} (hg : g ∈ desk'.store.byFile) :
    g ∈ desk.store.byFile ∨ ∃ r ∈ rs, g ∈ r.diagnostics := by
  induction hdone with
  | nil => exact Or.inl hg
  | cons hfirst _ ih =>
      rcases ih hg with hg | ⟨r, hr, hg⟩
      · rw [store_of_compile hfirst] at hg
        exact (Keyed.mem_update hg).imp id fun hg => ⟨_, List.mem_cons_self, hg⟩
      · exact Or.inr ⟨r, List.mem_cons_of_mem _ hr, hg⟩

theorem Compiled.isResultOf (hdone : Compiled c mode ts rs desk h desk' h') (hr : r ∈ rs) :
    ∃ t ∈ ts, IsResultOf c mode t r :=
  exists_result_of_mem hdone.results hr

/-! ### Batches -/

theorem compiled_of_batch (hrun : c.batch mode ts desk h = ((.ok rs, desk'), h')) :
    Compiled c mode ts rs desk.emptied (emptied h) desk' h' :=
  compiled_of_compileAll (batch_apply c mode ts desk h ▸ hrun)

theorem get?_store_of_batch (hrun : c.batch mode ts desk h = ((.ok rs, desk'), h')) (file : Text) :
    desk'.store.byFile.get? file = lastGroup? rs file := by
  rw [(compiled_of_batch hrun).get?_store]
  exact Option.or_none

theorem hasErrors_iff {s : DiagnosticStore} : s.hasErrors = true ↔ HasErrorByFile s.byFile :=
  DiagnosticStore.hasErrors_eq_true_iff

/-- An error in the store is one of a result, and then the batch has one. -/
theorem hasError_of_store (hrun : c.batch mode ts desk h = ((.ok rs, desk'), h'))
    (herror : desk'.store.hasErrors = true) : hasError rs = true := by
  have hdone := compiled_of_batch hrun
  obtain ⟨g, hg, hd⟩ := hasErrors_iff.mp herror
  rcases hdone.mem_store hg with hg | ⟨r, hr, hg⟩
  · cases hg
  · obtain ⟨t, -, desk₁, h₁, desk₂, h₂, hcompile⟩ := hdone.isResultOf hr
    have hresult : r.hasError = true :=
      (hasError_iff_of_compile hcompile).mpr (Or.inr (Or.inl ⟨g, hg, hd⟩))
    exact List.any_eq_true.mpr ⟨r, hr, hresult⟩

end MetaDesk.Compile
