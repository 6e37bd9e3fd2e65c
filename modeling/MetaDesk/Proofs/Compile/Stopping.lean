import MetaDesk.Proofs.Bytes.Utf16
import MetaDesk.Proofs.CompilerLog.Numerals
import MetaDesk.Proofs.Compile.Logging
import MetaDesk.Proofs.Compile.Outcome
import MetaDesk.Proofs.Compile.Preparing

/-! # What stops a batch

A target that fails does not stop the others of its batch.  What does stop them is listed by `Stops`:
a path in the settings that cannot be looked up, a name of the log that is none, a command that is
refused, a run that never ends or is never to end, and a numeral in the log that is too long.  In every
other case a batch has one result for each target, in order (`batch_returns_or_stops`). -/

namespace MetaDesk.Compile

open CompilerLog

variable {c : Compiler} {mode : Mode} {t : Target} {ts : List Target} {desk desk' : Desk}
  {h h' : Host} {r : Result} {m : Mishap}

/-! ### One target -/

/-- What stops a batch at the turn of a target. -/
inductive Stops (c : Compiler) (t : Target) (desk : Desk) (h : Host) : Mishap → Prop where
  /-- The environment cannot be sought. -/
  | preparing {s : Settings} {h₁ : Host} {m : Mishap}
      (hsettings : c.settings desk.reads h = (.ok s, h₁)) (hends : PrepareEnds c t.flavor s h₁ m) :
      Stops c t desk h m
  /-- The log cannot be sought. -/
  | logging {e : Environment} {h₁ : Host} {log : Path} {m : Mishap}
      (hprepare : Prepares c t desk h (.ok (.ok e)) h₁) (hlog : t.log = .ok log)
      (hends : LogEnds e log h₁ m) : Stops c t desk h m
  /-- A command of the run has a null character. -/
  | refused {h₂ : Host} (hlogs : Logs c t desk h (.error (.refused .nullInCommand)) h₂)
      (hlast : Launch.LastRefused h₂) : Stops c t desk h (.refused .nullInCommand)
  /-- The log has a numeral that is too long. -/
  | reading {log line : Text} {e : LongNumeral} (hlog : ReadsLog c t desk h log)
      (hline : line ∈ lines log) (hlong : HasLongNumeral line e) :
      Stops c t desk h (.refused (.longNumeral e))

/-- The settings can be read at any time. -/
def Compiler.HasSettings (c : Compiler) : Prop :=
  ∀ reads h, ∃ s h₁, c.settings reads h = (.ok s, h₁)

theorem exists_log_of_isSource (ht : Flavor.isSource t.path.suffix = true) :
    ∃ log, t.log = .ok log := by
  unfold Target.log Path.withSuffix?
  split
  · exact ⟨_, rfl⟩
  · next hnone =>
      split_ifs at hnone with hname
      rw [Path.suffix, List.isEmpty_iff.mp hname] at ht
      cases ht

/-- Why the compile of a source ends without a result. -/
theorem stops_of_compile (hc : c.HasSettings) (ht : Flavor.isSource t.path.suffix = true)
    (hrun : c.compile mode t desk h = ((.error m, desk'), h')) : Stops c t desk h m := by
  cases turn_of_compile hrun with
  | unprepared hprepare =>
      obtain ⟨s, h₁, hsettings⟩ := hc desk.reads h
      obtain ⟨hprepare, hother⟩ := Act.tryConfigured_of_error hprepare
      rcases prepare_eq_error hsettings hprepare with ⟨f, hf, hcategory⟩ | hends
      · exact absurd hcategory (hother f hf)
      · exact .preparing hsettings hends
  | nameless hprepare hnone =>
      obtain ⟨log, hlog⟩ := exists_log_of_isSource ht
      rw [hlog] at hnone
      cases hnone
  | stopped hlogs =>
      obtain ⟨e, h₁, log, hprepare, hlog, hlogOf⟩ := id hlogs
      rcases logOf_eq_error hlogOf with ⟨rfl, hlast⟩ | hends
      · exact .refused hlogs hlast
      · exact .logging hprepare hlog hends
  | unreadable hlogs hread =>
      obtain ⟨line, hline, hlong⟩ := hasLongNumeral_of_read hread
      exact .reading (readsLog_iff.mpr ⟨_, hlogs⟩) hline hlong

theorem compile_of_longNumeral (mode : Mode) {log line : Text} {e : LongNumeral}
    (hlog : ReadsLog c t desk h log) (hline : line ∈ lines log) (hlong : HasLongNumeral line e) :
    ∃ e', (c.compile mode t desk h).1.1 = .error (.refused (.longNumeral e')) := by
  obtain ⟨e', hread⟩ := exists_read_error mode hline hlong
  obtain ⟨h₂, hlogs⟩ := readsLog_iff.mp hlog
  refine ⟨e', ?_⟩
  rcases hrun : c.compile mode t desk h with ⟨⟨result, desk'⟩, h'⟩
  obtain ⟨environment, h₁, path, hprepare, hpath, -⟩ := id hlogs
  cases turn_of_compile hrun with
  | unprepared hprepare' => cases (hprepare.unique hprepare').1
  | misset hprepare' => cases (hprepare.unique hprepare').1
  | nameless _ hnone => cases hpath.symm.trans hnone
  | stopped hlogs' => cases (hlogs.unique hlogs').1
  | missing hlogs' => cases (hlogs.unique hlogs').1
  | unreadable hlogs' hread' =>
      cases (hlogs.unique hlogs').1
      cases hread.symm.trans hread'
      rfl
  | published hlogs' hread' =>
      cases (hlogs.unique hlogs').1
      cases hread.symm.trans hread'

theorem target_of_compile (hrun : c.compile mode t desk h = ((.ok r, desk'), h')) : r.target = t := by
  rcases compile_eq_ok hrun with ⟨f, rfl⟩ | ⟨log, report, -, -, rfl⟩
  · rfl
  · rfl

/-! ### Batches -/

theorem Compiled.targets_eq {rs : List Result} (hdone : Compiled c mode ts rs desk h desk' h') :
    rs.map (·.target) = ts := by
  induction hdone with
  | nil => rfl
  | cons hfirst _ ih => rw [List.map_cons, ih, target_of_compile hfirst]

theorem Compiled.compileAll_eq {rs : List Result}
    (hdone : Compiled c mode ts rs desk h desk' h') :
    c.compileAll mode ts desk h = ((.ok rs, desk'), h') := by
  unfold Compiler.compileAll
  induction hdone with
  | nil => rfl
  | cons hfirst _ ih =>
      rw [List.mapM_cons, ActOn.bind_of_ok hfirst, ActOn.bind_of_ok ih]
      rfl

/-- A mishap at the turn of a target ends the whole, whatever was compiled before. -/
theorem Compiled.compileAll_of_error {done : List Target} (rest : List Target) {rs : List Result}
    (hdone : Compiled c mode done rs desk h desk' h')
    (hstop : (c.compile mode t desk' h').1.1 = .error m) :
    (c.compileAll mode (done ++ t :: rest) desk h).1.1 = .error m := by
  unfold Compiler.compileAll
  induction hdone with
  | nil =>
      rw [List.nil_append, List.mapM_cons]
      exact ActOn.bind_of_error _ hstop
  | cons hfirst _ ih =>
      rw [List.cons_append, List.mapM_cons, ActOn.bind_of_ok hfirst]
      exact ActOn.bind_of_error _ (ih hstop)

theorem compiled_or_first_error (c : Compiler) (mode : Mode) (ts : List Target) (desk : Desk)
    (h : Host) :
    (∃ rs desk' h', Compiled c mode ts rs desk h desk' h') ∨
      ∃ done t rest rs desk₁ h₁ m, ts = done ++ t :: rest ∧
        Compiled c mode done rs desk h desk₁ h₁ ∧ (c.compile mode t desk₁ h₁).1.1 = .error m := by
  induction ts generalizing desk h with
  | nil => exact Or.inl ⟨[], desk, h, .nil⟩
  | cons t ts ih =>
      rcases hrun : c.compile mode t desk h with ⟨⟨m | r, desk₁⟩, h₁⟩
      · exact Or.inr ⟨[], t, ts, [], desk, h, m, rfl, .nil, by rw [hrun]⟩
      · rcases ih desk₁ h₁ with ⟨rs, desk', h', hrest⟩ |
          ⟨done, t', rest, rs, desk₂, h₂, m, rfl, hdone, hstop⟩
        · exact Or.inl ⟨r :: rs, desk', h', .cons hrun hrest⟩
        · exact Or.inr ⟨t :: done, t', rest, r :: rs, desk₂, h₂, m, rfl, .cons hrun hdone, hstop⟩

/-- What a batch starts from. -/
def Desk.emptied (desk : Desk) : Desk := { desk with store := {} }

/-- The host that a batch starts on. -/
def emptied (h : Host) : Host := { h with output := h.output.clear }

theorem batch_apply (c : Compiler) (mode : Mode) (ts : List Target) (desk : Desk) (h : Host) :
    c.batch mode ts desk h = c.compileAll mode ts desk.emptied (emptied h) := rfl

/-- **A target that fails does not stop a batch.**  Where all targets are sources and the settings can
be read, a batch has one result for each target, in order and with its own target, or it ends at the
first target where something of `Stops` happens; a numeral in a log that is too long always does
end it. -/
theorem batch_returns_or_stops (hc : c.HasSettings)
    (hts : ∀ t ∈ ts, Flavor.isSource t.path.suffix = true) :
    ((∃ rs desk' h', c.batch mode ts desk h = ((.ok rs, desk'), h') ∧ rs.map (·.target) = ts) ∨
      ∃ done t rest rs desk₁ h₁ m, ts = done ++ t :: rest ∧
        Compiled c mode done rs desk.emptied (emptied h) desk₁ h₁ ∧ Stops c t desk₁ h₁ m ∧
        (c.batch mode ts desk h).1.1 = .error m) ∧
    ∀ done t rest rs desk₁ h₁ log line e, ts = done ++ t :: rest →
      Compiled c mode done rs desk.emptied (emptied h) desk₁ h₁ → ReadsLog c t desk₁ h₁ log →
      line ∈ lines log → HasLongNumeral line e →
      ∃ e', (c.batch mode ts desk h).1.1 = .error (.refused (.longNumeral e')) := by
  rw [batch_apply]
  constructor
  · rcases compiled_or_first_error c mode ts desk.emptied (emptied h) with
      ⟨rs, desk', h', hall⟩ | ⟨done, t, rest, rs, desk₁, h₁, m, rfl, hdone, hstop⟩
    · exact Or.inl ⟨rs, desk', h', hall.compileAll_eq, hall.targets_eq⟩
    · have ht : Flavor.isSource t.path.suffix = true := hts t (by simp)
      rcases hrun : c.compile mode t desk₁ h₁ with ⟨⟨result, desk₂⟩, h₂⟩
      have hstopped := hstop
      rw [hrun] at hstopped
      cases hstopped
      exact Or.inr ⟨done, t, rest, rs, desk₁, h₁, m, rfl, hdone, stops_of_compile hc ht hrun,
        hdone.compileAll_of_error _ hstop⟩
  · rintro done t rest rs desk₁ h₁ log line e rfl hdone hlog hline hlong
    obtain ⟨e', hstop⟩ := compile_of_longNumeral mode hlog hline hlong
    exact ⟨e', hdone.compileAll_of_error _ hstop⟩

/-! ### Two targets -/

theorem readsLog_plainHost (desk : Desk) (log : Text) :
    ReadsLog plainCompiler plainTarget desk (emptied (plainHost true log)) log := by
  let e : Environment := ⟨.mql5, "/me", none, false, none, false⟩
  have hprepare : Act.tryConfigured (plainCompiler.prepare plainTarget.flavor desk.reads)
      (emptied (plainHost true log)) = (.ok (.ok e), emptied (plainHost true log)) := rfl
  have hlog : ∃ h₂, plainCompiler.logOf e plainTarget (.ofText "/a.log")
      (emptied (plainHost true log)) =
        (.ok (.ok (Encoding.decode .utf16 (Utf16.encode log))), h₂) := ⟨_, rfl⟩
  rw [Utf16.decode_encode] at hlog
  obtain ⟨h₂, hlog⟩ := hlog
  exact ⟨e, _, _, h₂, hprepare, rfl, hlog⟩

/-- A result that counts too many errors to be read. -/
def endlessCount : Text := counted (List.replicate 4301 '9')

theorem hasLongNumeral_endlessCount :
    endlessCount ∈ lines endlessCount ∧ HasLongNumeral endlessCount ⟨4301⟩ := by
  have hdigits : ∀ c ∈ List.replicate 4301 '9', c.isDigit = true := by
    intro c hc
    rw [List.eq_of_mem_replicate hc]
    rfl
  have hlong : Text.maxDigits < (List.replicate 4301 '9').length := by
    rw [List.length_replicate]
    decide
  refine ⟨?_, ?_⟩
  · unfold endlessCount
    rw [lines_counted hdigits]
    exact List.mem_singleton_self _
  · have hnumeral := hasLongNumeral_counted hdigits hlong
    rwa [List.length_replicate] at hnumeral

theorem hasSettings_plainCompiler : plainCompiler.HasSettings := fun _ _ => ⟨_, _, rfl⟩

/-- Of two targets of which one fails, both have results; a count that is too long leaves none. -/
theorem batch_returns_or_stops_of_two :
    (∃ rs desk' h', plainCompiler.batch .check [plainTarget, plainTarget] {}
        (plainHost true "Result: 0 errors") = ((.ok rs, desk'), h') ∧
      rs.map (·.target) = [plainTarget, plainTarget]) ∧
    ∃ e, (plainCompiler.batch .check [plainTarget, plainTarget] {}
      (plainHost true endlessCount)).1.1 = .error (.refused (.longNumeral e)) := by
  have hsources : ∀ t ∈ [plainTarget, plainTarget], Flavor.isSource t.path.suffix = true := by decide
  have hreturns : (plainCompiler.batch .check [plainTarget, plainTarget] {}
      (plainHost true "Result: 0 errors")).1.1.toOption.isSome = true := by decide +kernel
  constructor
  · have hbatch := @batch_returns_or_stops plainCompiler .check [plainTarget, plainTarget] {}
      (plainHost true "Result: 0 errors") hasSettings_plainCompiler hsources
    rcases hbatch.1 with hall | ⟨_, _, _, _, _, _, m, -, -, -, hstop⟩
    · exact hall
    · rw [hstop] at hreturns
      cases hreturns
  · exact (batch_returns_or_stops hasSettings_plainCompiler hsources).2 [] plainTarget [plainTarget]
      [] _ _ _ _ _ rfl .nil (readsLog_plainHost _ _) hasLongNumeral_endlessCount.1
      hasLongNumeral_endlessCount.2

/-- A batch does not always return. -/
theorem not_batch_of_endlessCount : ¬ ∃ rs desk' h',
    plainCompiler.batch .check [plainTarget, plainTarget] {} (plainHost true endlessCount) =
      ((.ok rs, desk'), h') := by
  rintro ⟨rs, desk', h', hrun⟩
  obtain ⟨e, hstop⟩ := compile_of_longNumeral .check
    (readsLog_plainHost ({} : Desk).emptied endlessCount) hasLongNumeral_endlessCount.1
    hasLongNumeral_endlessCount.2
  have herror := Compiled.nil.compileAll_of_error [plainTarget] hstop
  rw [List.nil_append, ← batch_apply, hrun] at herror
  cases herror

end MetaDesk.Compile
