import MetaDesk.Proofs.Compile.Logging
import MetaDesk.Proofs.Compile.Outcome
import MetaDesk.Proofs.Compile.Preparing

/-! # What a compile leaves behind

A target that cannot be compiled leaves what was published as it was, and the user gets one notice.
One that is compiled adds no notice; what its log says about a file takes the place of what was known
about it, and the files it says nothing about are left alone (`compile_leaves`). -/

namespace MetaDesk.Compile

open CompilerLog

/-- Reading the settings tells the user nothing, starts nothing and changes no file. -/
structure Compiler.OnlyReads (c : Compiler) : Prop where
  notices : ∀ reads h, (c.settings reads h).2.notices = h.notices
  spawns : ∀ reads h, (c.settings reads h).2.spawns = h.spawns
  disk : ∀ reads h, (c.settings reads h).2.disk = h.disk

variable {c : Compiler} {mode : Mode} {t : Target} {desk desk' : Desk} {h h₁ h₂ h' : Host}
  {r : Result} {f : Failure}

/-! ### The steps before the log is read -/

theorem Prepares.host_eq {result : Except Mishap (Except Failure Environment)}
    (hprepare : Prepares c t desk h result h₁) : h₁ = (c.settings desk.reads h).2 := by
  have hhost := Act.tryConfigured_host (c.prepare t.flavor desk.reads) h
  rw [show Act.tryConfigured _ h = _ from hprepare] at hhost
  exact hhost.trans (host_of_prepare rfl)

/-- Up to the reading of the log the user is told nothing. -/
theorem Logs.notices_eq (hc : c.OnlyReads) {result : Except Mishap (Except Failure Text)}
    (hlogs : Logs c t desk h result h₂) : h₂.notices = h.notices := by
  obtain ⟨e, h₁, log, hprepare, -, hlogOf⟩ := hlogs
  rw [(logOf_quiet c e t log).notices_of_run hlogOf, hprepare.host_eq, hc.notices]

theorem Prepares.category_eq (hprepare : Prepares c t desk h (.ok (.error f)) h₁) :
    f.category = .configuration :=
  (Act.tryConfigured_eq_error hprepare).2

/-- Without a log there is one failure, which tells so. -/
theorem Logs.category_eq (hlogs : Logs c t desk h (.ok (.error f)) h₂) :
    f.category = .logUnavailable := by
  obtain ⟨e, h₁, log, -, -, hlogOf⟩ := hlogs
  unfold Compiler.logOf at hlogOf
  obtain ⟨_, h₃, -, hafter⟩ := Act.bind_eq_ok hlogOf
  obtain ⟨outcome, h₄, -, hafter⟩ := Act.bind_eq_ok hafter
  obtain ⟨_, h₅, -, hafter⟩ := Act.bind_eq_ok hafter
  obtain ⟨found, h₆, -, hafter⟩ := Act.bind_eq_ok hafter
  cases found with
  | none =>
      cases hafter
      rfl
  | some text =>
      dsimp only at hafter
      split at hafter
      · obtain ⟨_, h₇, -, hlast⟩ := Act.bind_eq_ok hafter
        cases hlast
      · cases hafter

/-! ### Failures -/

theorem notice?_of_isForUser (hf : f.category.isForUser = true) :
    f.notice? = some ⟨f.category, f.message, f.action, f.setting⟩ := by
  unfold Failure.notice?
  rw [if_pos hf]

/-- What a target that failed leaves: everything published is as it was, and there is one notice. -/
structure LeavesFailure (f : Failure) (desk desk' : Desk) (h h' : Host) (r : Result) : Prop where
  diagnostics : r.diagnostics = []
  shown : r.shown = []
  store : desk'.store = desk.store
  links : desk'.links = desk.links
  notices : h'.notices = h.notices ++ [⟨f.category, f.message, f.action, f.setting⟩]
  untouched : f.category = .configuration → h'.spawns = h.spawns ∧ h'.disk = h.disk

theorem leavesFailure_of_prepares (hc : c.OnlyReads)
    (hprepare : Prepares c t desk h (.ok (.error f)) h₁) :
    LeavesFailure f desk desk.counted h (told f t h₁) (.ofFailure t f) where
  diagnostics := rfl
  shown := rfl
  store := rfl
  links := rfl
  notices := by
    rw [told_notices, notice?_of_isForUser (by rw [hprepare.category_eq]; rfl), hprepare.host_eq,
      hc.notices]
    rfl
  untouched _ := by
    rw [told_spawns, told_disk, hprepare.host_eq]
    exact ⟨hc.spawns _ _, hc.disk _ _⟩

theorem leavesFailure_of_logs (hc : c.OnlyReads) (hlogs : Logs c t desk h (.ok (.error f)) h₂) :
    LeavesFailure f desk desk.counted h (told f t h₂) (.ofFailure t f) where
  diagnostics := rfl
  shown := rfl
  store := rfl
  links := rfl
  notices := by
    rw [told_notices, notice?_of_isForUser (by rw [hlogs.category_eq]; rfl), hlogs.notices_eq hc]
    rfl
  untouched hcategory := by
    rw [hlogs.category_eq] at hcategory
    cases hcategory

/-! ### Reports -/

/-- What a report leaves: no notice, its links, its diagnostics for the files that it is about, and
every other file as before, at its place. -/
structure LeavesReport (report : Report) (desk desk' : Desk) (h h' : Host) : Prop where
  notices : h'.notices = h.notices
  links : desk'.links = report.links
  files : ∀ file, desk'.store.byFile.get? file =
    if report.diagnostics.filter (·.file = file) = [] then desk.store.byFile.get? file
    else some (report.diagnostics.filter (·.file = file))
  others : desk'.store.byFile.filter (fun e => report.diagnostics.all (·.file ≠ e.1)) =
    desk.store.byFile.filter fun e => report.diagnostics.all (·.file ≠ e.1)

theorem leavesReport_of_logs (hc : c.OnlyReads) {log : Text} {report : Report}
    (hlogs : Logs c t desk h (.ok (.ok log)) h₂) :
    LeavesReport report desk (desk.counted.published report) h (shown mode t report h₂) where
  notices := by rw [shown_notices, hlogs.notices_eq hc]
  links := rfl
  files file := DiagnosticStore.get?_replaceAll_groupByFile desk.store report.diagnostics file
  others := by
    refine DiagnosticStore.filter_replaceAll
      (p := fun file => report.diagnostics.all (·.file ≠ file)) ?_ desk.store
    intro g hg
    obtain ⟨hgroup, hsome⟩ := Diagnostic.eq_filter_of_mem_groupByFile hg
    obtain ⟨d, hd⟩ := List.exists_mem_of_ne_nil _ hsome
    rw [hgroup, List.mem_filter] at hd
    simp only [List.all_eq_false]
    exact ⟨d, hd.1, by simpa using hd.2⟩

/-- **What a compile leaves behind.**  A failure leaves what was published, adds one notice and, when
it is one of the configuration, starts nothing and changes no file.  Otherwise no notice is added, the
links are those of the log that was read, and its diagnostics replace what was known of their files
and of no other. -/
theorem compile_leaves (hc : c.OnlyReads)
    (hrun : c.compile mode t desk h = ((.ok r, desk'), h')) :
    (∀ f, r.failure = some f → LeavesFailure f desk desk' h h' r) ∧
    (r.failure = none → ∃ log report, ReadsLog c t desk h log ∧ read mode log = .ok report ∧
      r = .ofReport t report ∧ LeavesReport report desk desk' h h') := by
  cases turn_of_compile hrun with
  | misset hprepare =>
      refine ⟨?_, fun hnone => by cases hnone⟩
      rintro f ⟨⟩
      exact leavesFailure_of_prepares hc hprepare
  | missing hlogs =>
      refine ⟨?_, fun hnone => by cases hnone⟩
      rintro f ⟨⟩
      exact leavesFailure_of_logs hc hlogs
  | published hlogs hread =>
      refine ⟨fun f hsome => (by cases hsome), fun _ => ?_⟩
      exact ⟨_, _, readsLog_iff.mpr ⟨_, hlogs⟩, hread, rfl, leavesReport_of_logs hc hlogs⟩

/-- Something is known about two files. -/
def knownFiles : Desk where
  store := ⟨[("C:\\b.mq5", [⟨"C:\\b.mq5", 0, 0, .warning, "old", none⟩]),
    ("C:\\a.mq5", [⟨"C:\\a.mq5", 6, 6, .warning, "old", none⟩])]⟩

/-- A log that tells of one of them. -/
def knownLog : Text := "C:\\a.mq5(1,2) : error 10: bad"

theorem onlyReads_plainCompiler : plainCompiler.OnlyReads :=
  ⟨fun _ _ => rfl, fun _ _ => rfl, fun _ _ => rfl⟩

/-- With the compiler in its place there is a report; without it there is a failure. -/
theorem compile_leaves_of_knownFiles :
    (∃ r desk' h' report, plainCompiler.compile .check plainTarget knownFiles (plainHost true knownLog) =
        ((.ok r, desk'), h') ∧ r = .ofReport plainTarget report ∧
      LeavesReport report knownFiles desk' (plainHost true knownLog) h') ∧
    ∃ r desk' h' f, plainCompiler.compile .check plainTarget knownFiles (plainHost false knownLog) =
        ((.ok r, desk'), h') ∧ r.failure = some f ∧ f.category = .configuration ∧
      LeavesFailure f knownFiles desk' (plainHost false knownLog) h' r := by
  have hfound : (plainCompiler.compile .check plainTarget knownFiles
      (plainHost true knownLog)).1.1.toOption.map (·.failure) = some none := by decide +kernel
  have hmissing : (plainCompiler.compile .check plainTarget knownFiles
      (plainHost false knownLog)).1.1.toOption.map (fun r => r.failure.map (·.category)) =
        some (some .configuration) := by decide +kernel
  obtain ⟨r, desk', h', hrun, hfailure⟩ := ActOn.eq_ok_of_toOption hfound
  obtain ⟨log, report, -, -, hr, hleaves⟩ := (compile_leaves onlyReads_plainCompiler hrun).2 hfailure
  obtain ⟨r', desk'', h'', hrun', hcategory⟩ := ActOn.eq_ok_of_toOption hmissing
  obtain ⟨f, hf, hcategory⟩ := Option.map_eq_some_iff.mp hcategory
  exact ⟨⟨r, desk', h', report, hrun, hr, hleaves⟩, r', desk'', h'', f, hrun', hf, hcategory,
    (compile_leaves onlyReads_plainCompiler hrun').1 f hf⟩

end MetaDesk.Compile
