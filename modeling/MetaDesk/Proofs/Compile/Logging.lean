import MetaDesk.Compile.Batch
import MetaDesk.Proofs.Launch.Running

/-! # How getting the log of a target can end

The log of an earlier compile is taken away, the compiler is run, and its log is waited for, read and
perhaps taken away.  Errors of the system in any of this become a warning or a missing log.  What is
left are the mishaps of the run itself, a command that is refused among them, and a name of the log that
is no name of a file (`logOf_eq_error`).  Nothing of it adds a notice. -/

namespace MetaDesk.Compile

open Act (Quiet NullIn ofSystem)
open Launch (LastRefused Overflows Refused)

variable {E : Mishap → Prop} {e : Environment} {h h' : Host} {m : Mishap}

theorem removeStale_quiet (log : Path) : Quiet (NullIn log) (removeStale log) := by
  unfold removeStale
  refine (Quiet.trySystem (Quiet.change log _)).bind fun removed => ?_
  cases removed with
  | ok u => exact Quiet.pure _
  | error e =>
      dsimp only
      split
      · exact Quiet.note _ _ _
      · exact Quiet.pure _

/-! ### Running -/

theorem translated_quiet (w : Launch.Wine) (label path : Text) :
    Quiet Refused (translated w label path) := by
  unfold translated
  refine (Launch.translate_quiet w path).bind fun translation => ?_
  cases translation with
  | ok t => exact Quiet.pure _
  | error why => exact (Quiet.report rfl _).bind fun _ => Quiet.pure _

theorem translated_eq_error {w : Launch.Wine} {label path : Text}
    (hrun : translated w label path h = (.error m, h')) : Refused m ∧ LastRefused h' := by
  unfold translated at hrun
  rcases Act.bind_eq_error hrun with htranslate | ⟨translation, h₁, -, hlast⟩
  · exact Launch.translate_eq_error htranslate
  · cases translation with
    | ok t => cases hlast
    | error why => cases hlast

theorem runTranslated_quiet (w : Launch.Wine) (e : Environment) (source log : Text) :
    Quiet (fun m => Refused m ∨ Overflows w m) (runTranslated w e source log) := by
  have htranslated : ∀ label path,
      Quiet (fun m => Refused m ∨ Overflows w m) (translated w label path) :=
    fun label path => (translated_quiet w label path).mono fun _ hm => Or.inl hm
  unfold runTranslated
  refine (htranslated _ _).bind fun compiler => (htranslated _ _).bind fun source =>
    (htranslated _ _).bind fun log => Quiet.bind ?_ fun includes =>
    Launch.runUnderWine_quiet w _ _ _
  cases e.includes with
  | none => exact Quiet.pure _
  | some folder => exact (htranslated _ folder).bind fun _ => Quiet.pure _

/-- A run under Wine ends when one of its commands is refused, or when there is no end to its time. -/
theorem runTranslated_eq_error {w : Launch.Wine} {source log : Text}
    (hrun : runTranslated w e source log h = (.error m, h')) :
    (Refused m ∧ LastRefused h') ∨ Overflows w m := by
  unfold runTranslated at hrun
  rcases Act.bind_eq_error hrun with hcompiler | ⟨compiler, h₁, -, hrun⟩
  · exact Or.inl (translated_eq_error hcompiler)
  rcases Act.bind_eq_error hrun with hsource | ⟨source', h₂, -, hrun⟩
  · exact Or.inl (translated_eq_error hsource)
  rcases Act.bind_eq_error hrun with hlog | ⟨log', h₃, -, hrun⟩
  · exact Or.inl (translated_eq_error hlog)
  rcases Act.bind_eq_error hrun with hincludes | ⟨includes, h₄, -, hrun⟩
  · cases hfolder : e.includes with
    | none =>
        rw [hfolder] at hincludes
        cases hincludes
    | some folder =>
        rw [hfolder] at hincludes
        rcases Act.bind_eq_error hincludes with hinclude | ⟨name, h₅, -, hlast⟩
        · exact Or.inl (translated_eq_error hinclude)
        · cases hlast
  · exact Launch.runUnderWine_eq_error hrun

/-- The mishaps of a run in an environment. -/
def RunEnds (e : Environment) (m : Mishap) : Prop :=
  Refused m ∨ (e.wine = none ∧ m = .unending) ∨ ∃ w, e.wine = some w ∧ Overflows w m

theorem run_quiet (platform : Option Text) (e : Environment) (source log : Path) :
    Quiet (RunEnds e) (run platform e source log) := by
  unfold run
  cases hwine : e.wine with
  | none =>
      exact (Launch.runDirect_quiet platform _ _).mono fun m hm =>
        hm.imp id fun hm => Or.inl ⟨hwine, hm⟩
  | some w =>
      exact (runTranslated_quiet w e _ _).mono fun m hm => hm.imp id fun hm => Or.inr ⟨w, hwine, hm⟩

theorem tell_quiet (o : Launch.Outcome) : Quiet E (tell o) := by
  have hremark : Quiet E (if o.status = .timedOut then
      Act.remark ("[Wine] " ++ o.launchError.getD "None" ++ ". Process killed.") else pure ()) := by
    split
    · exact Quiet.remark _
    · exact Quiet.pure _
  unfold tell
  dsimp only
  split
  · exact (Quiet.display _).bind fun _ => hremark
  · exact hremark

/-! ### Reading -/

theorem waitFor_quiet (log : Path) (interval : Binary64) (waited attempts : ℕ) :
    Quiet ofSystem (waitFor log interval waited attempts) := by
  induction attempts generalizing waited with
  | zero => exact (Quiet.pathExists log).bind fun isThere => Quiet.pure _
  | succ attempts ih =>
      rw [waitFor]
      refine (Quiet.pathExists log).bind fun isThere => ?_
      split
      · exact Quiet.pure _
      · exact (Quiet.sleep interval).bind fun _ => ih _

theorem awaitLog_quiet (p : Patience) (log : Path) :
    Quiet (fun m => ofSystem m ∨ NullIn log m) (awaitLog p log) := by
  have hread : Quiet (fun m => ofSystem m ∨ NullIn log m)
      (do return some (Encoding.decode .utf16 (← Act.bytesOf log))) :=
    (Quiet.ask log _).bind fun _ => Quiet.pure _
  unfold awaitLog
  refine ((waitFor_quiet log _ _ _).mono fun m hm => Or.inl hm).bind fun waited => ?_
  cases waited with
  | none => exact Quiet.pure _
  | some waited =>
      dsimp only
      split
      · exact (Quiet.sleep _).bind fun _ => hread
      · exact hread

theorem readLog_quiet (p : Patience) (log : Path) : Quiet (NullIn log) (readLog p log) := by
  unfold readLog
  refine (Quiet.trySystem (awaitLog_quiet p log)).bind fun found => ?_
  cases found with
  | ok text => exact Quiet.pure _
  | error e => exact (Quiet.note _ _ _).bind fun _ => Quiet.pure _

theorem removeRead_quiet (log : Path) : Quiet (NullIn log) (removeRead log) := by
  unfold removeRead
  refine (Quiet.trySystem (Quiet.change log _)).bind fun removed => ?_
  cases removed with
  | ok u => exact Quiet.pure _
  | error e => exact Quiet.remark _

/-- What comes after the run: the mishaps are only about the name of the log. -/
theorem afterRun_quiet (c : Compiler) (e : Environment) (log : Path) (outcome : Launch.Outcome) :
    Quiet (NullIn log) (do
      tell outcome
      match ← readLog c.patience log with
      | none => return .error (.logUnavailable log.text outcome.detail)
      | some text =>
        if e.deletesLog then removeRead log
        return .ok text : Act (Except Failure Text)) := by
  refine (tell_quiet outcome).bind fun _ => (readLog_quiet c.patience log).bind fun found => ?_
  cases found with
  | none => exact Quiet.pure _
  | some text =>
      dsimp only
      split
      · exact (removeRead_quiet log).bind fun _ => Quiet.pure _
      · exact Quiet.pure _

/-- Getting a log ends without one only with the run or over the name of the log. -/
theorem logOf_quiet (c : Compiler) (e : Environment) (t : Target) (log : Path) :
    Quiet (fun m => NullIn log m ∨ RunEnds e m) (c.logOf e t log) :=
  ((removeStale_quiet log).mono fun _ hm => Or.inl hm).bind fun _ =>
    ((run_quiet c.platform e t.path log).mono fun _ hm => Or.inr hm).bind fun outcome =>
    (afterRun_quiet c e log outcome).mono fun _ hm => Or.inl hm

theorem removeStale_programs {log : Path} {h h' : Host} {result : Except Mishap Unit}
    (hrun : removeStale log h = (result, h')) : h'.programs = h.programs := by
  have hkeeps : Act.Keeps (fun h₁ => h₁.programs = h.programs) (removeStale log) := by
    unfold removeStale
    have htake : Act.Keeps (fun h₁ => h₁.programs = h.programs) (Act.takeAway log) :=
      (Act.Keeps.ask log _).bind fun _ => Act.Keeps.modify fun _ hprograms => hprograms
    refine htake.trySystem.bind fun removed => ?_
    cases removed with
    | ok u => exact Act.Keeps.pure _
    | error e =>
        dsimp only
        split
        · exact Act.Keeps.modify fun _ hprograms => hprograms
        · exact Act.Keeps.pure _
  have hlast := hkeeps h rfl
  rwa [hrun] at hlast

/-- What getting a log does not survive, besides a command that is refused. -/
inductive LogEnds (e : Environment) (log : Path) (h : Host) : Mishap → Prop where
  /-- The name of the log is no name of a file. -/
  | null (hlog : Act.hasNull log = true) : LogEnds e log h (.refused .nullInPath)
  /-- The compiler runs without Wine and never ends. -/
  | unending {p : Program} {rest : List Program} (hwine : e.wine = none)
      (hprograms : h.programs = p :: rest) (herror : p.error = none) (hhangs : p.hangs = true) :
      LogEnds e log h .unending
  /-- The longest run under Wine is too long to be told in seconds. -/
  | overflow {w : Launch.Wine} (hwine : e.wine = some w) (hendless : w.isEndless = true) :
      LogEnds e log h .overflow

/-- Why a run ends without an outcome. -/
theorem run_eq_error {platform : Option Text} {source log : Path}
    (hrun : run platform e source log h = (.error m, h')) :
    (Refused m ∧ LastRefused h') ∨ LogEnds e log h m := by
  unfold run at hrun
  cases hwine : e.wine with
  | none =>
      rw [hwine] at hrun
      refine (Launch.runDirect_eq_error hrun).imp id ?_
      rintro ⟨rfl, p, rest, hprograms, herror, hhangs⟩
      exact .unending hwine hprograms herror hhangs
  | some w =>
      rw [hwine] at hrun
      refine (runTranslated_eq_error hrun).imp id ?_
      rintro ⟨hendless, rfl⟩
      exact .overflow hwine hendless

/-- Why getting a log ends without one. -/
theorem logOf_eq_error {c : Compiler} {t : Target} {log : Path}
    (hrun : c.logOf e t log h = (.error m, h')) :
    (Refused m ∧ LastRefused h') ∨ LogEnds e log h m := by
  have hnull : NullIn log m → LogEnds e log h m := by
    rintro ⟨hlog, rfl⟩
    exact .null hlog
  unfold Compiler.logOf at hrun
  rcases Act.bind_eq_error hrun with hstale | ⟨_, h₁, hstale, hafter⟩
  · exact Or.inr (hnull ((removeStale_quiet log).ends_of_run hstale))
  rcases Act.bind_eq_error hafter with hcompiler | ⟨outcome, h₂, -, hlast⟩
  · refine (run_eq_error hcompiler).imp id fun hends => ?_
    cases hends with
    | null hlog => exact .null hlog
    | unending hwine hprograms herror hhangs =>
        exact .unending hwine (removeStale_programs hstale ▸ hprograms) herror hhangs
    | overflow hwine hendless => exact .overflow hwine hendless
  · exact Or.inr (hnull ((afterRun_quiet c e log outcome).ends_of_run hlast))

end MetaDesk.Compile
