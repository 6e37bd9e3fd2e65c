import MetaDesk.Compile.Batch
import MetaDesk.Proofs.Host.Asking

/-! # How preparing a compile can end

Before the compiler is run the settings are read and what they name is looked for.  This asks the
host and changes nothing.  It ends with a failure of the configuration, which is part of the result
of the target, or because a setting holds a path that is none (`prepare_eq_error`). -/

namespace MetaDesk.Compile

open Act (Asks)

/-- What ends the search for what an environment names: a failure of the configuration, or a path of
the environment that the system cannot look up. -/
def CheckEnds (e : Environment) (h : Host) (m : Mishap) : Prop :=
  (∃ f, m = .failed f ∧ f.category = .configuration) ∨
    ∃ path, (path = e.compiler ∨ e.includes = some path) ∧ Asks.Unseen h (.ofText path) m

theorem checkEnds_misset {e : Environment} {h : Host} (message setting path : Text) :
    CheckEnds e h (Environment.misset message setting path) :=
  Or.inl ⟨_, rfl, rfl⟩

theorem check_asks (e : Environment) (h : Host) : Asks (CheckEnds e h) h e.check := by
  unfold Environment.check
  extract_lets setting settingOfIncludes lookForIncludes shown compilerFound lookForCompiler
  have hincludes : ∀ u, Asks (CheckEnds e h) h (lookForIncludes u) := by
    intro u
    unfold lookForIncludes
    cases hfolder : e.includes with
    | none => exact Asks.pure _
    | some folder =>
        have hlook : Asks (CheckEnds e h) h (Act.pathExists (.ofText folder)) :=
          (Asks.pathExists _).mono fun m hm => Or.inr ⟨folder, Or.inr hfolder, hm⟩
        refine hlook.bind fun isThere => ?_
        split
        · exact Asks.throw (checkEnds_misset _ _ _)
        · exact Asks.pure _
  have hfound : ∀ isThere, Asks (CheckEnds e h) h (compilerFound isThere) := by
    intro isThere
    unfold compilerFound
    split
    · exact (Asks.throw (checkEnds_misset _ _ _)).bind hincludes
    · exact hincludes ()
  have hcompiler : ∀ u, Asks (CheckEnds e h) h (lookForCompiler u) := by
    intro u
    unfold lookForCompiler
    split
    · exact (Asks.pure false).bind hfound
    · exact ((Asks.pathExists _).mono fun m hm => Or.inr ⟨_, Or.inl rfl, hm⟩).bind hfound
  split
  · split
    · exact (Asks.throw (checkEnds_misset _ _ _)).bind hcompiler
    · exact hcompiler ()
  · exact hcompiler ()

/-- What preparing does not survive, once the settings are read. -/
inductive PrepareEnds (c : Compiler) (f : Flavor) (s : Settings) (h : Host) : Mishap → Prop where
  /-- A setting holds a path that is none. -/
  | place {r : Refusal}
      (hplace : Environment.ofSettings h.homes c.workspace c.platform s f = .error r) :
      PrepareEnds c f s h (.refused r)
  /-- The system cannot look up what a setting names. -/
  | unseen {e : Environment} {path : Text} {m : Mishap}
      (hplace : Environment.ofSettings h.homes c.workspace c.platform s f = .ok e)
      (hpath : path = e.compiler ∨ e.includes = some path)
      (hunseen : Asks.Unseen h (.ofText path) m) : PrepareEnds c f s h m

variable {c : Compiler} {f : Flavor} {reads : ℕ} {s : Settings} {h h₁ h' : Host} {m : Mishap}

/-- Why preparing ends without an environment. -/
theorem prepare_eq_error (hsettings : c.settings reads h = (.ok s, h₁))
    (hrun : c.prepare f reads h = (.error m, h')) :
    (∃ failure, m = .failed failure ∧ failure.category = .configuration) ∨
      PrepareEnds c f s h₁ m := by
  unfold Compiler.prepare at hrun
  rw [Act.bind_of_ok hsettings, Act.bind_of_ok (Act.get_apply h₁)] at hrun
  cases hplace : Environment.ofSettings h₁.homes c.workspace c.platform s f with
  | error r =>
      rw [hplace] at hrun
      cases hrun
      exact Or.inr (.place hplace)
  | ok e =>
      rw [hplace] at hrun
      rcases Act.bind_eq_error hrun with hnone | ⟨e', h₂, hsome, hafter⟩
      · cases hnone
      cases hsome
      rcases Act.bind_eq_error hafter with hcheck | ⟨_, h₂, -, hlast⟩
      · rcases (check_asks e h₁).ends_of_run hcheck with hfailed | ⟨path, hpath, hunseen⟩
        · exact Or.inl hfailed
        · exact Or.inr (.unseen hplace hpath hunseen)
      · cases hlast

/-- Apart from reading the settings, preparing changes nothing. -/
theorem host_of_prepare {result : Except Mishap Environment}
    (hrun : c.prepare f reads h = (result, h')) : h' = (c.settings reads h).2 := by
  unfold Compiler.prepare at hrun
  rw [Act.bind_apply] at hrun
  rcases hsettings : c.settings reads h with ⟨m | s, h₁⟩ <;> rw [hsettings] at hrun
  · cases hrun
    rfl
  · dsimp only at hrun
    have hkeeps : ∀ e : Environment, Act.Keeps (· = h₁) e.check := by
      rintro e _ rfl
      exact (check_asks e _).host
    have hrest := ((Act.Keeps.get (P := (· = h₁))).bind fun host =>
      (Act.Keeps.orRefuse (Environment.ofSettings host.homes c.workspace c.platform s f)).bind
        fun e => (hkeeps e).bind fun _ => Act.Keeps.pure e) h₁ rfl
    exact (congrArg Prod.snd hrun).symm.trans hrest

end MetaDesk.Compile
