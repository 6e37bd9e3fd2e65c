import MetaDesk.Compile.Batch
import MetaDesk.Proofs.Host.Act

/-! # The turn of a target

`Turn` lists everything that can happen when a target is compiled, with the result, what is published
and the host afterwards.  Every run of `Compiler.compile` is one of these (`turn_of_compile`), so what
holds of a compile is proved by going through them. -/

namespace MetaDesk.Compile

open CompilerLog

/-- The result of a target that could not be compiled. -/
def Result.ofFailure (t : Target) (f : Failure) : Result :=
  { target := t, hasError := true, failure := some f }

/-- The result of a target whose log was read. -/
def Result.ofReport (t : Target) (report : Report) : Result where
  target := t
  shown := report.text
  diagnostics := Diagnostic.groupByFile report.diagnostics
  hasError := report.hasError

/-- The settings were read once more. -/
def Desk.counted (desk : Desk) : Desk := { desk with reads := desk.reads + 1 }

/-- What a report says is published. -/
def Desk.published (desk : Desk) (report : Report) : Desk :=
  { desk with
    store := desk.store.replaceAll (Diagnostic.groupByFile report.diagnostics)
    links := report.links }

/-- The host after a failure was told. -/
def told (f : Failure) (t : Target) (h : Host) : Host := (Act.report f t.path.text h).2

/-- The host after a report was shown. -/
def shown (mode : Mode) (t : Target) (report : Report) (h : Host) : Host :=
  { h with
    output := (h.output.appendLine (Compiler.header mode t h.stamp h.elapsed)).append report.text }

theorem countRead_apply (desk : Desk) (h : Host) :
    Compiler.countRead desk h = ((.ok desk.reads, desk.counted), h) := rfl

theorem logPath_of_ok {t : Target} {log : Path} (hlog : t.log = .ok log) (h : Host) :
    Compiler.logPath t h = (.ok log, h) := by
  unfold Compiler.logPath
  rw [hlog]
  rfl

theorem logPath_of_error {t : Target} {r : Refusal} (hlog : t.log = .error r) (h : Host) :
    Compiler.logPath t h = (.error (.refused r), h) := by
  unfold Compiler.logPath
  rw [hlog]
  rfl

theorem parse_of_ok {mode : Mode} {log : Text} {report : Report} (hread : read mode log = .ok report)
    (h : Host) : Compiler.parse mode log h = (.ok report, h) := by
  unfold Compiler.parse
  rw [hread]
  rfl

theorem parse_of_error {mode : Mode} {log : Text} {e : LongNumeral}
    (hread : read mode log = .error e) (h : Host) :
    Compiler.parse mode log h = (.error (.refused (.longNumeral e)), h) := by
  unfold Compiler.parse
  rw [hread]
  rfl

theorem told_notices (f : Failure) (t : Target) (h : Host) :
    (told f t h).notices = h.notices ++ f.notice?.toList := rfl

theorem told_spawns (f : Failure) (t : Target) (h : Host) : (told f t h).spawns = h.spawns := rfl

theorem told_disk (f : Failure) (t : Target) (h : Host) : (told f t h).disk = h.disk := rfl

theorem shown_notices (mode : Mode) (t : Target) (report : Report) (h : Host) :
    (shown mode t report h).notices = h.notices := rfl

/-- The environment of a target was sought, with this outcome. -/
def Prepares (c : Compiler) (t : Target) (desk : Desk) (h : Host)
    (result : Except Mishap (Except Failure Environment)) (h₁ : Host) : Prop :=
  Act.tryConfigured (c.prepare t.flavor desk.reads) h = (result, h₁)

/-- The log of a target was sought, with this outcome. -/
def Logs (c : Compiler) (t : Target) (desk : Desk) (h : Host)
    (result : Except Mishap (Except Failure Text)) (h₂ : Host) : Prop :=
  ∃ e h₁ log, Prepares c t desk h (.ok (.ok e)) h₁ ∧ t.log = .ok log ∧
    c.logOf e t log h₁ = (result, h₂)

variable {c : Compiler} {mode : Mode} {t : Target} {desk desk' : Desk} {h h' h₁ h₂ : Host}

/-- The search for the environment has one outcome. -/
theorem Prepares.unique {found found' : Except Mishap (Except Failure Environment)} {h₁' : Host}
    (hfound : Prepares c t desk h found h₁) (hfound' : Prepares c t desk h found' h₁') :
    found = found' ∧ h₁ = h₁' :=
  Prod.mk.inj (hfound.symm.trans hfound')

/-- The search for the log has one outcome. -/
theorem Logs.unique {found found' : Except Mishap (Except Failure Text)} {h₂' : Host}
    (hfound : Logs c t desk h found h₂) (hfound' : Logs c t desk h found' h₂') :
    found = found' ∧ h₂ = h₂' := by
  obtain ⟨e, h₁, log, hprepare, hlog, hlogOf⟩ := hfound
  obtain ⟨e', h₁', log', hprepare', hlog', hlogOf'⟩ := hfound'
  obtain ⟨he, rfl⟩ := hprepare.unique hprepare'
  cases he
  cases hlog.symm.trans hlog'
  exact Prod.mk.inj (hlogOf.symm.trans hlogOf')

/-- What can happen when a target is compiled. -/
inductive Turn (c : Compiler) (mode : Mode) (t : Target) (desk : Desk) (h : Host) :
    Except Mishap Result → Desk → Host → Prop where
  /-- The environment cannot be sought. -/
  | unprepared {m : Mishap} {h₁ : Host} (hprepare : Prepares c t desk h (.error m) h₁) :
      Turn c mode t desk h (.error m) desk.counted h₁
  /-- The configuration does not do. -/
  | misset {f : Failure} {h₁ : Host} (hprepare : Prepares c t desk h (.ok (.error f)) h₁) :
      Turn c mode t desk h (.ok (.ofFailure t f)) desk.counted (told f t h₁)
  /-- The target has no name for its log. -/
  | nameless {e : Environment} {r : Refusal} {h₁ : Host}
      (hprepare : Prepares c t desk h (.ok (.ok e)) h₁) (hlog : t.log = .error r) :
      Turn c mode t desk h (.error (.refused r)) desk.counted h₁
  /-- The log cannot be sought. -/
  | stopped {m : Mishap} {h₂ : Host} (hlogs : Logs c t desk h (.error m) h₂) :
      Turn c mode t desk h (.error m) desk.counted h₂
  /-- There is no log. -/
  | missing {f : Failure} {h₂ : Host} (hlogs : Logs c t desk h (.ok (.error f)) h₂) :
      Turn c mode t desk h (.ok (.ofFailure t f)) desk.counted (told f t h₂)
  /-- The log has a numeral that is too long. -/
  | unreadable {log : Text} {e : LongNumeral} {h₂ : Host}
      (hlogs : Logs c t desk h (.ok (.ok log)) h₂) (hread : read mode log = .error e) :
      Turn c mode t desk h (.error (.refused (.longNumeral e))) desk.counted h₂
  /-- What the log says is published. -/
  | published {log : Text} {report : Report} {h₂ : Host}
      (hlogs : Logs c t desk h (.ok (.ok log)) h₂) (hread : read mode log = .ok report) :
      Turn c mode t desk h (.ok (.ofReport t report)) (desk.counted.published report)
        (shown mode t report h₂)

/-- Every compile is one of these turns. -/
theorem turn_of_compile {result : Except Mishap Result}
    (hrun : c.compile mode t desk h = ((result, desk'), h')) :
    Turn c mode t desk h result desk' h' := by
  unfold Compiler.compile at hrun
  rw [ActOn.bind_of_ok (countRead_apply desk h)] at hrun
  rcases hprepare : Act.tryConfigured (c.prepare t.flavor desk.reads) h with ⟨m | f | e, h₁⟩
  · rw [ActOn.bind_lift_of_error hprepare] at hrun
    cases hrun
    exact .unprepared hprepare
  · rw [ActOn.bind_lift_of_ok hprepare] at hrun
    cases hrun
    exact .misset hprepare
  · rw [ActOn.bind_lift_of_ok hprepare] at hrun
    dsimp only at hrun
    cases hlog : t.log with
    | error r =>
        rw [ActOn.bind_lift_of_error (logPath_of_error hlog h₁)] at hrun
        cases hrun
        exact .nameless hprepare hlog
    | ok log =>
        rw [ActOn.bind_lift_of_ok (logPath_of_ok hlog h₁)] at hrun
        rcases hlogOf : c.logOf e t log h₁ with ⟨m | f | text, h₂⟩ <;>
          have hlogs : Logs c t desk h _ h₂ := ⟨e, h₁, log, hprepare, hlog, hlogOf⟩
        · rw [ActOn.bind_lift_of_error hlogOf] at hrun
          cases hrun
          exact .stopped hlogs
        · rw [ActOn.bind_lift_of_ok hlogOf] at hrun
          cases hrun
          exact .missing hlogs
        · rw [ActOn.bind_lift_of_ok hlogOf] at hrun
          dsimp only at hrun
          cases hread : read mode text with
          | error e =>
              rw [ActOn.bind_lift_of_error (parse_of_error hread h₂)] at hrun
              cases hrun
              exact .unreadable hlogs hread
          | ok report =>
              rw [ActOn.bind_lift_of_ok (parse_of_ok hread h₂)] at hrun
              cases hrun
              exact .published hlogs hread

end MetaDesk.Compile
