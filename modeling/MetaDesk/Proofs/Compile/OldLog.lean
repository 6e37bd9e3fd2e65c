import MetaDesk.Proofs.Compile.Outcome
import MetaDesk.Proofs.Disk.Differing

/-! # A log of an earlier compile

Two hosts that differ only in the log that an earlier compile left are told apart by nothing that a
compile does (`compile_ignores_oldLog`).  Preparing asks both the same questions and gets the same
answers, since no setting names the log (`prepare_alike`), and then the log is taken away before
anything else is done.  From there on the hosts are equal (`logOf_withDisk`). -/

namespace MetaDesk

/-- The host with another disk. -/
def Host.withDisk (h : Host) (d : Disk) : Host := { h with disk := d }

theorem Host.withDisk_disk (h : Host) (d : Disk) : (h.withDisk d).disk = d := rfl

theorem Host.withDisk_here (h : Host) (d : Disk) : (h.withDisk d).here = h.here := rfl

namespace Act

variable {α β : Type}

/-- The action changes nothing, and ends in the same way on the host with another disk. -/
def Alike (h : Host) (d : Disk) (act : Act α) : Prop :=
  ∃ result, act h = (result, h) ∧ act (h.withDisk d) = (result, h.withDisk d)

namespace Alike

variable {h : Host} {d : Disk}

theorem pure (a : α) : Alike h d (Pure.pure a : Act α) := ⟨.ok a, rfl, rfl⟩

theorem throw (m : Mishap) : Alike h d (MonadExcept.throw m : Act α) := ⟨.error m, rfl, rfl⟩

theorem bind {act : Act α} {f : α → Act β} (hact : Alike h d act) (hf : ∀ a, Alike h d (f a)) :
    Alike h d (act >>= f) := by
  obtain ⟨result, hfirst, hsecond⟩ := hact
  cases result with
  | error m => exact ⟨.error m, bind_of_error f hfirst, bind_of_error f hsecond⟩
  | ok a =>
      obtain ⟨last, hfirst', hsecond'⟩ := hf a
      exact ⟨last, by rw [bind_of_ok hfirst, hfirst'], by rw [bind_of_ok hsecond, hsecond']⟩

/-- Questions about a path have the same answer when the disks give the same one. -/
theorem pathExists {p : Path} (hsame : h.disk.exists? h.here p = d.exists? h.here p) :
    Alike h d (pathExists p) := by
  unfold Act.pathExists
  by_cases hnull : hasNull p = true
  · rw [if_pos hnull]
    exact pure false
  rw [if_neg hnull]
  rw [Bool.not_eq_true] at hnull
  have hfirst := ask_apply hnull Disk.exists? h
  have hsecond := ask_apply hnull Disk.exists? (h.withDisk d)
  rw [hsame] at hfirst
  rw [Host.withDisk_disk, Host.withDisk_here] at hsecond
  cases hanswer : d.exists? h.here p with
  | error e =>
      rw [hanswer] at hfirst hsecond
      exact ⟨_, hfirst, hsecond⟩
  | ok b =>
      rw [hanswer] at hfirst hsecond
      exact ⟨_, hfirst, hsecond⟩

theorem tryConfigured {act : Act α} (hact : Alike h d act) : Alike h d (tryConfigured act) := by
  obtain ⟨result, hfirst, hsecond⟩ := hact
  refine ⟨(Act.tryConfigured act h).1, ?_, ?_⟩
  · exact Prod.ext rfl ((tryConfigured_host act h).trans (by rw [hfirst]))
  · refine Prod.ext ?_ ((tryConfigured_host act _).trans (by rw [hsecond]))
    unfold Act.tryConfigured
    rw [hfirst, hsecond]
    cases result with
    | ok a => rfl
    | error m => cases m <;> first | rfl | (dsimp only; split <;> rfl)

end Alike

end Act

namespace Compile

open CompilerLog
open Act (Alike)

variable {c : Compiler} {mode : Mode} {t : Target} {e : Environment} {desk : Desk} {h : Host}
  {d : Disk} {log : Path} {place : Place}

/-- Neither the compiler nor the include folder is at the place that a path leads to. -/
def Environment.NamesOther (e : Environment) (h : Host) (p : Path) : Prop :=
  ∀ path, path = e.compiler ∨ e.includes = some path →
    ∀ place, h.disk.find false h.here p = .ok place → h.disk.find true h.here (.ofText path) ≠ .ok place

/-- On another disk only the log that an earlier compile of the target left differs, if there is one,
and the settings neither depend on it nor name it. -/
structure DiffersInOldLog (c : Compiler) (t : Target) (desk : Desk) (h : Host) (d : Disk)
    (log : Path) : Prop where
  log_eq : t.log = .ok log
  disks : Disk.DifferAt h.here log h.disk d
  settings : ∃ found, c.settings desk.reads h = (found, h) ∧
    c.settings desk.reads (h.withDisk d) = (found, h.withDisk d) ∧
    ∀ s e, found = .ok s → Environment.ofSettings h.homes c.workspace c.platform s t.flavor = .ok e →
      e.NamesOther h log

/-! ### Preparing -/

theorem check_alike (hdisks : Disk.SameBut place h.disk d)
    (hfind : h.disk.find false h.here log = .ok place) (hnames : e.NamesOther h log) :
    Alike h d e.check := by
  have hpath : ∀ path, path = e.compiler ∨ e.includes = some path →
      Alike h d (Act.pathExists (.ofText path)) := fun path hpath =>
    Alike.pathExists (hdisks.exists?_eq (hnames path hpath place hfind))
  unfold Environment.check
  extract_lets setting settingOfIncludes lookForIncludes shown compilerFound lookForCompiler
  have hincludes : ∀ u, Alike h d (lookForIncludes u) := by
    intro u
    unfold lookForIncludes
    cases hfolder : e.includes with
    | none => exact Alike.pure _
    | some folder =>
        refine (hpath folder (Or.inr hfolder)).bind fun isThere => ?_
        split
        · exact Alike.throw _
        · exact Alike.pure _
  have hfound : ∀ isThere, Alike h d (compilerFound isThere) := by
    intro isThere
    unfold compilerFound
    split
    · exact (Alike.throw _).bind hincludes
    · exact hincludes ()
  have hcompiler : ∀ u, Alike h d (lookForCompiler u) := by
    intro u
    unfold lookForCompiler
    split
    · exact (Alike.pure false).bind hfound
    · exact (hpath _ (Or.inl rfl)).bind hfound
  split
  · split
    · exact (Alike.throw _).bind hcompiler
    · exact hcompiler ()
  · exact hcompiler ()

/-- Preparing gives the same on both hosts. -/
theorem prepare_alike (hold : DiffersInOldLog c t desk h d log)
    (hdisks : Disk.SameBut place h.disk d) (hfind : h.disk.find false h.here log = .ok place) :
    Alike h d (c.prepare t.flavor desk.reads) := by
  obtain ⟨found, hfirst, hsecond, hnames⟩ := hold.settings
  unfold Compiler.prepare
  cases found with
  | error m => exact ⟨.error m, Act.bind_of_error _ hfirst, Act.bind_of_error _ hsecond⟩
  | ok s =>
      have hrest : Alike h d (do
          let e ← Act.orRefuse
            (Environment.ofSettings h.homes c.workspace c.platform s t.flavor)
          e.check
          return e) := by
        cases hplace : Environment.ofSettings h.homes c.workspace c.platform s t.flavor with
        | error r => exact ⟨.error (.refused r), rfl, rfl⟩
        | ok e =>
            obtain ⟨result, hlast, hlast'⟩ :=
              (check_alike hdisks hfind (hnames s e rfl hplace)).bind fun _ => Alike.pure e
            exact ⟨result, (Act.bind_of_ok rfl).trans hlast, (Act.bind_of_ok rfl).trans hlast'⟩
      obtain ⟨result, hlast, hlast'⟩ := hrest
      refine ⟨result, ?_, ?_⟩
      · rw [Act.bind_of_ok hfirst, Act.bind_of_ok (Act.get_apply h)]
        exact hlast
      · rw [Act.bind_of_ok hsecond, Act.bind_of_ok (Act.get_apply _)]
        exact hlast'

/-! ### Taking the old log away -/

theorem change_of_ok {p : Path} (hp : Act.hasNull p = false)
    {f : Disk → Place → Path → Except Errno Disk} (hf : f h.disk h.here p = .ok d) :
    Act.change p f h = (.ok (), h.withDisk d) := by
  have hask := Act.ask_apply hp f h
  rw [hf] at hask
  unfold Act.change
  rw [Act.bind_of_ok hask]
  rfl

theorem change_of_error {p : Path} (hp : Act.hasNull p = false)
    {f : Disk → Place → Path → Except Errno Disk} {e : Errno} (hf : f h.disk h.here p = .error e) :
    Act.change p f h = (.error (.system ⟨e, p.text⟩), h) := by
  have hask := Act.ask_apply hp f h
  rw [hf] at hask
  unfold Act.change
  exact Act.bind_of_error _ hask

/-- Whether there was an old log or not, there is none afterwards, and nothing was said. -/
theorem removeStale_apply (hlog : Act.hasNull log = false)
    (hfile : h.disk.HasAtMostFile place) (hfind : h.disk.find false h.here log = .ok place) :
    removeStale log h = (.ok (), h.withDisk (h.disk.remove place)) := by
  unfold removeStale Act.takeAway
  rcases hfile.unlink hfind with hunlink | ⟨hunlink, hnothing⟩
  · rw [Act.bind_of_ok (Act.trySystem_of_ok (change_of_ok hlog hunlink))]
    rfl
  · rw [Act.bind_of_ok (Act.trySystem_of_system (change_of_error hlog hunlink)), hnothing]
    rfl

theorem removeStale_of_null (hlog : Act.hasNull log = true) (h : Host) :
    removeStale log h = (.error (.refused .nullInPath), h) := by
  unfold removeStale Act.takeAway Act.change Act.ask
  rw [hlog]
  rfl

/-- Once the old log is taken away the hosts are equal. -/
theorem logOf_withDisk (hlog : Act.hasNull log = false) (hdisks : Disk.SameBut place h.disk d)
    (hfind : h.disk.find false h.here log = .ok place) :
    c.logOf e t log (h.withDisk d) = c.logOf e t log h := by
  have hfirst := removeStale_apply hlog hdisks.first hfind
  have hsecond : removeStale log (h.withDisk d) = (.ok (), h.withDisk (d.remove place)) :=
    removeStale_apply (h := h.withDisk d) hlog hdisks.second (hdisks.find_eq_ok hfind)
  unfold Compiler.logOf
  rw [Act.bind_of_ok hfirst, Act.bind_of_ok hsecond, hdisks.others]

theorem logOf_of_null (hlog : Act.hasNull log = true) (h : Host) :
    c.logOf e t log h = (.error (.refused .nullInPath), h) := by
  unfold Compiler.logOf
  exact Act.bind_of_error _ (removeStale_of_null hlog h)

/-! ### Whole compiles -/

theorem compile_of_error {h₁ : Host} {m : Mishap} (hprepare : Prepares c t desk h (.error m) h₁) :
    c.compile mode t desk h = ((.error m, desk.counted), h₁) := by
  unfold Compiler.compile
  rw [ActOn.bind_of_ok (countRead_apply desk h), ActOn.bind_lift_of_error hprepare]

theorem compile_of_misset {h₁ : Host} {f : Failure} (hprepare : Prepares c t desk h (.ok (.error f)) h₁) :
    c.compile mode t desk h = ((.ok (.ofFailure t f), desk.counted), told f t h₁) := by
  unfold Compiler.compile
  rw [ActOn.bind_of_ok (countRead_apply desk h), ActOn.bind_lift_of_ok hprepare]
  rfl

/-- After preparing it matters only what getting the log comes to. -/
theorem compile_congr {h' h₁ h₁' : Host} (hprepare : Prepares c t desk h (.ok (.ok e)) h₁)
    (hprepare' : Prepares c t desk h' (.ok (.ok e)) h₁') (hlog : t.log = .ok log)
    (hsame : c.logOf e t log h₁' = c.logOf e t log h₁) :
    c.compile mode t desk h' = c.compile mode t desk h := by
  unfold Compiler.compile
  rw [ActOn.bind_of_ok (countRead_apply desk h), ActOn.bind_of_ok (countRead_apply desk h'),
    ActOn.bind_lift_of_ok hprepare, ActOn.bind_lift_of_ok hprepare']
  dsimp only
  rw [ActOn.bind_lift_of_ok (logPath_of_ok hlog h₁), ActOn.bind_lift_of_ok (logPath_of_ok hlog h₁')]
  rcases hlogOf : c.logOf e t log h₁ with ⟨m | found, h₂⟩ <;> rw [hlogOf] at hsame
  · rw [ActOn.bind_lift_of_error hlogOf, ActOn.bind_lift_of_error hsame]
  · rw [ActOn.bind_lift_of_ok hlogOf, ActOn.bind_lift_of_ok hsame]

theorem compile_of_nullLog {h₁ : Host} (hprepare : Prepares c t desk h (.ok (.ok e)) h₁)
    (hlog : t.log = .ok log) (hnull : Act.hasNull log = true) :
    c.compile mode t desk h = ((.error (.refused .nullInPath), desk.counted), h₁) := by
  unfold Compiler.compile
  rw [ActOn.bind_of_ok (countRead_apply desk h), ActOn.bind_lift_of_ok hprepare]
  dsimp only
  rw [ActOn.bind_lift_of_ok (logPath_of_ok hlog h₁), ActOn.bind_lift_of_error (logOf_of_null hnull h₁)]

/-- **A log of an earlier compile does not matter.**  On two hosts that differ only in the log that is
there before, a compile has the same result, publishes the same, and does the same on the host: what is
shown, started, waited for and told.  Unless it ends with a failure of the configuration, before the log
was taken away, the disks are equal afterwards. -/
theorem compile_ignores_oldLog (hold : DiffersInOldLog c t desk h d log) :
    ∃ outcome desk' h' d', c.compile mode t desk h = ((outcome, desk'), h') ∧
      c.compile mode t desk (h.withDisk d) = ((outcome, desk'), h'.withDisk d') ∧
      ∀ r, outcome = .ok r → (∀ f, r.failure = some f → f.category ≠ .configuration) →
        d' = h'.disk := by
  have hdisks := hold.disks
  unfold Disk.DifferAt at hdisks
  cases hfind : h.disk.find false h.here log with
  | error e =>
      rw [hfind] at hdisks
      subst hdisks
      exact ⟨_, _, _, _, rfl, rfl, fun _ _ _ => rfl⟩
  | ok place =>
      rw [hfind] at hdisks
      obtain ⟨prepared, hprepare, hprepare'⟩ := (prepare_alike hold hdisks hfind).tryConfigured
      rcases prepared with m | f | e
      · refine ⟨_, _, _, d, compile_of_error hprepare, compile_of_error hprepare', ?_⟩
        rintro r ⟨⟩
      · refine ⟨_, _, _, d, compile_of_misset hprepare, compile_of_misset hprepare', ?_⟩
        rintro r ⟨⟩ hother
        exact absurd (Act.tryConfigured_eq_error hprepare).2 (hother f rfl)
      · by_cases hnull : Act.hasNull log = true
        · refine ⟨_, _, _, d, compile_of_nullLog hprepare hold.log_eq hnull,
            compile_of_nullLog hprepare' hold.log_eq hnull, ?_⟩
          rintro r ⟨⟩
        · rw [Bool.not_eq_true] at hnull
          have hsame : c.compile mode t desk (h.withDisk d) = c.compile mode t desk h :=
            compile_congr hprepare hprepare' hold.log_eq (logOf_withDisk hnull hdisks hfind)
          exact ⟨_, _, _, _, rfl, hsame, fun _ _ _ => rfl⟩

/-- A host where a compiler leaves no log. -/
def silentHost : Host := { plainHost true [] with programs := [{}] }

/-- A disk with the log of an earlier compile. -/
def diskWithOldLog : Disk :=
  ⟨silentHost.disk.entries ++ [(["a.log".toList], .file (Utf16.encode "Result: 0 errors"))]⟩

theorem differsInOldLog_silentHost :
    DiffersInOldLog plainCompiler plainTarget {} silentHost diskWithOldLog (.ofText "/a.log") where
  log_eq := rfl
  disks := ⟨rfl, ⟨none, rfl⟩, ⟨some _, rfl⟩⟩
  settings := by
    have hplace : Environment.ofSettings silentHost.homes [] none
        { compilers := { executable5 := "/me" } } .mql5 =
          .ok ⟨.mql5, "/me", none, false, none, false⟩ := by decide +kernel
    have hlog : silentHost.disk.find false silentHost.here (.ofText "/a.log") =
        .ok ["a.log".toList] := by decide +kernel
    have hcompiler : silentHost.disk.find true silentHost.here (.ofText "/me") ≠
        .ok ["a.log".toList] := by decide +kernel
    refine ⟨_, rfl, rfl, ?_⟩
    rintro s e ⟨⟩ he path hpath place hfind
    obtain rfl := Except.ok.inj (hplace.symm.trans he)
    obtain rfl := Except.ok.inj (hlog.symm.trans hfind)
    rcases hpath with rfl | hnone
    · exact hcompiler
    · cases hnone

/-- The earlier log is not taken for a new one: the compile fails in both cases, and then both disks
are the same. -/
theorem compile_ignores_oldLog_of_silentHost :
    ∃ r desk' h', plainCompiler.compile .check plainTarget {} silentHost = ((.ok r, desk'), h') ∧
      plainCompiler.compile .check plainTarget {} (silentHost.withDisk diskWithOldLog) =
        ((.ok r, desk'), h') ∧ r.failure.map (·.category) = some .logUnavailable := by
  have hrun : (plainCompiler.compile .check plainTarget {} silentHost).1.1.toOption.map
      (fun r => r.failure.map (·.category)) = some (some .logUnavailable) := by decide +kernel
  obtain ⟨r, desk₁, h₁, hfirst, hcategory⟩ := ActOn.eq_ok_of_toOption hrun
  obtain ⟨outcome, desk', h', d', hfirst', hsecond, hdisks⟩ :=
    @compile_ignores_oldLog plainCompiler .check plainTarget {} silentHost diskWithOldLog
      (.ofText "/a.log") differsInOldLog_silentHost
  rw [hfirst] at hfirst'
  cases hfirst'
  have hother : ∀ f, r.failure = some f → f.category ≠ .configuration := by
    intro f hf hconfiguration
    rw [hf, Option.map_some, hconfiguration] at hcategory
    cases hcategory
  obtain rfl := hdisks r rfl hother
  exact ⟨r, desk₁, h₁, hfirst, hsecond, hcategory⟩

end Compile

end MetaDesk
