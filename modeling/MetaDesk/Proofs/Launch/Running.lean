import MetaDesk.Launch.Script
import MetaDesk.Proofs.Host.Quiet

/-! # How a run of the compiler can end

A command with a null character is refused, and that ends what was to be done with its process; it is
then the last one in the record (`LastRefused`).  All else that goes wrong with a process is part of the
result.  So a run gives an outcome unless a command is refused, or it is a direct one of a program that
does not end, or one under Wine whose time limit is too large for a number of seconds
(`runDirect_eq_error`, `runUnderWine_eq_error`).  None of this adds a notice. -/

namespace MetaDesk.Launch

open Act (Quiet never)

variable {E : Mishap → Prop} {command : Command} {bottle : Option (Option Text)} {h h' : Host}
  {m : Mishap} {w : Wine} {path : Text}

/-! ### Starting -/

/-- The record of a start on a host. -/
def recordOf (command : Command) (bottle : Option (Option Text)) (h : Host) : Spawn :=
  { command := command, scripts := scriptsIn h, bottle := bottle }

/-- The host on which a process was started, or was to be started. -/
def hostAfter (command : Command) (bottle : Option (Option Text)) (h : Host) : Host :=
  { h with spawns := h.spawns ++ [recordOf command bottle h], programs := h.programs.tail }

/-- What becomes of a process that is started as the next program. -/
def launched (command : Command) (h : Host) : Except SystemError Running :=
  match h.programs with
  | [] => .error { cause := .notFound, path := nameOf command }
  | p :: _ =>
    match p.error with
    | some e => .error { cause := e, path := nameOf command }
    | none => .ok ⟨p, h.spawns.length, lastOf command⟩

theorem start_of_taken (htaken : refuses h command bottle = false) :
    start command bottle h = (.ok (launched command h), hostAfter command bottle h) := by
  unfold start launched
  rw [Act.bind_of_ok (Act.get_apply h), htaken]
  cases h.programs with
  | nil => rfl
  | cons p rest =>
      dsimp only
      cases p.error <;> rfl

theorem start_of_refused (hrefused : refuses h command bottle = true) :
    start command bottle h = (.error (.refused .nullInCommand), hostAfter command bottle h) := by
  unfold start
  rw [Act.bind_of_ok (Act.get_apply h), hrefused]
  rfl

/-- A command was refused. -/
def Refused (m : Mishap) : Prop := m = .refused .nullInCommand

/-- The last command that was to be started is one that the host refuses. -/
def LastRefused (h : Host) : Prop :=
  ∃ last, h.spawns.getLast? = some last ∧ refuses h last.command last.bottle = true

/-- A start that gives no result is that of a command which is refused. -/
theorem start_eq_error (hrun : start command bottle h = (.error m, h')) :
    Refused m ∧ LastRefused h' := by
  cases hrefused : refuses h command bottle with
  | false =>
      rw [start_of_taken hrefused] at hrun
      cases hrun
  | true =>
      rw [start_of_refused hrefused] at hrun
      cases hrun
      exact ⟨rfl, recordOf command bottle h, List.getLast?_concat, hrefused⟩

theorem start_quiet (command : Command) (bottle : Option (Option Text)) :
    Quiet Refused (start command bottle) := by
  constructor
  · intro h
    cases hrefused : refuses h command bottle with
    | false => rw [start_of_taken hrefused]; rfl
    | true => rw [start_of_refused hrefused]; rfl
  · intro h m hm
    exact (start_eq_error (Prod.ext hm rfl)).1

/-- A process that is started is the next program. -/
theorem start_eq_ok {r : Running} (hrun : start command bottle h = (.ok (.ok r), h')) :
    ∃ rest, h.programs = r.program :: rest ∧ r.program.error = none := by
  cases hrefused : refuses h command bottle with
  | true =>
      rw [start_of_refused hrefused] at hrun
      cases hrun
  | false =>
      rw [start_of_taken hrefused, launched] at hrun
      cases hprograms : h.programs with
      | nil =>
          rw [hprograms] at hrun
          cases hrun
      | cons p rest =>
          rw [hprograms] at hrun
          dsimp only at hrun
          cases herror : p.error with
          | some e =>
              rw [herror] at hrun
              cases hrun
          | none =>
              rw [herror] at hrun
              cases hrun
              exact ⟨rest, rfl, herror⟩

/-! ### Collecting and signalling -/

theorem collect_quiet (r : Running) : Quiet E (collect r) := by
  unfold collect
  exact Quiet.bind (Quiet.modify fun _ => rfl) fun _ => Quiet.pure _

theorem collectInTime_quiet (r : Running) : Quiet E (collectInTime r) := by
  unfold collectInTime
  split
  · exact Quiet.pure _
  · exact (collect_quiet r).bind fun _ => Quiet.pure _

theorem hangs_of_collectInTime {r : Running} (hrun : collectInTime r h = (.ok none, h')) :
    r.program.hangs = true := by
  unfold collectInTime at hrun
  split at hrun
  · assumption
  · obtain ⟨c, h₁, -, hrest⟩ := Act.bind_eq_ok hrun
    cases hrest

/-- The host on which a process was told something. -/
def signalled (r : Running) (s : Signal) (h : Host) : Host :=
  { h with
    spawns := h.spawns.modify r.number fun spawn => { spawn with signals := spawn.signals ++ [s] } }

/-- That a process is gone is no mishap. -/
theorem signal_apply (r : Running) (s : Signal) (h : Host) :
    signal r s h = (.ok (), signalled r s h) := by
  have hsend : send r s h = if r.program.isGone
      then (.error (.system { cause := .noProcess, path := [] }), signalled r s h)
      else (.ok (), signalled r s h) := by
    unfold send
    cases r.program.isGone <;> rfl
  unfold signal
  cases hgone : r.program.isGone with
  | true =>
      rw [hgone, if_pos rfl] at hsend
      exact Act.bind_of_ok (Act.trySystem_of_system hsend)
  | false =>
      rw [hgone, if_neg Bool.false_ne_true] at hsend
      exact Act.bind_of_ok (Act.trySystem_of_ok hsend)

theorem signal_quiet (r : Running) (s : Signal) : Quiet E (signal r s) := by
  constructor
  · intro h
    rw [signal_apply]
    rfl
  · intro h m hm
    rw [signal_apply] at hm
    cases hm

theorem terminate_quiet (r : Running) : Quiet E (terminate r) := by
  unfold terminate
  split
  · exact Quiet.pure _
  refine (signal_quiet r _).bind fun _ => ?_
  split
  · exact (Quiet.note _ _ _).bind fun _ => (signal_quiet r _).bind fun _ => Quiet.pure _
  · exact Quiet.pure _

theorem launchFailed_quiet (program : Text) (e : SystemError) :
    Quiet E (launchFailed program e) := by
  unfold launchFailed
  exact (Quiet.note _ _ _).bind fun _ => Quiet.pure _

/-! ### Names of paths -/

/-- Wine can be asked for its name of a path: it is from the root, and on no drive. -/
def isTranslatable (path : Text) : Bool := path.head? = some '/' && !path.isDrivePath

theorem untranslatable?_isSome (path : Text) :
    (Wine.untranslatable? path).isSome = !isTranslatable path := by
  unfold Wine.untranslatable? isTranslatable
  cases path with
  | nil => rfl
  | cons c path =>
      cases hdrive : Text.isDrivePath (c :: path) with
      | true => simp
      | false => by_cases hc : c = '/' <;> simp [hc]

/-- The question for Wine's name of a path. -/
def Wine.query (w : Wine) (path : Text) : Command := .program w.binary ["winepath", "-w", path]

/-- A path has not been translated: the journal says why. -/
def untranslated (path detail : Text) : Act Wine.Translation := do
  let message : Text := "[Wine] Failed to convert path \"" ++ path ++ "\" with winepath: " ++ detail
  Act.complain .translating message
  return .error message

/-- What is done with a process that was asked for its name of a path. -/
def hear (path : Text) : Except SystemError Running → Act Wine.Translation
  | .error e => untranslated path e.message
  | .ok r => do
    match ← collectInTime r with
    | none =>
      signal r .kill
      untranslated path "timed out after 10s"
    | some c =>
      let found := Text.trim (textOf c.stdout)
      if c.code != 0 || found.isEmpty then untranslated path (Wine.complaint c)
      else return .ok found

theorem translate_of_not (w : Wine) (hpath : isTranslatable path = false) :
    ∃ why, w.translate path = pure (.error why) := by
  have hwhy := untranslatable?_isSome path
  rw [hpath] at hwhy
  obtain ⟨why, hwhy⟩ := Option.isSome_iff_exists.mp hwhy
  refine ⟨why, ?_⟩
  unfold Wine.translate
  rw [hwhy]

theorem translate_eq (w : Wine) (hpath : isTranslatable path = true) :
    w.translate path = start (w.query path) w.environment >>= hear path := by
  have hnone : Wine.untranslatable? path = none := by
    rw [← Option.not_isSome_iff_eq_none, untranslatable?_isSome, hpath]
    exact Bool.false_ne_true
  unfold Wine.translate
  rw [hnone]
  rfl

theorem hear_quiet (path : Text) (started : Except SystemError Running) :
    Quiet E (hear path started) := by
  have hnone : ∀ detail, Quiet E (untranslated path detail) := fun _ =>
    (Quiet.note _ _ _).bind fun _ => Quiet.pure _
  cases started with
  | error e => exact hnone _
  | ok r =>
      refine (collectInTime_quiet r).bind fun collected => ?_
      cases collected with
      | none => exact (signal_quiet _ _).bind fun _ => hnone _
      | some c =>
          dsimp only
          split
          · exact hnone _
          · exact Quiet.pure _

theorem translate_quiet (w : Wine) (path : Text) : Quiet Refused (w.translate path) := by
  cases hpath : isTranslatable path with
  | false =>
      obtain ⟨why, hnone⟩ := translate_of_not w hpath
      rw [hnone]
      exact Quiet.pure _
  | true =>
      rw [translate_eq w hpath]
      exact (start_quiet _ _).bind fun started => hear_quiet path started

theorem translate_eq_error (hrun : w.translate path h = (.error m, h')) :
    Refused m ∧ LastRefused h' := by
  cases hpath : isTranslatable path with
  | false =>
      obtain ⟨why, hnone⟩ := translate_of_not w hpath
      rw [hnone] at hrun
      cases hrun
  | true =>
      rw [translate_eq w hpath] at hrun
      rcases Act.bind_eq_error hrun with hstart | ⟨started, h₁, -, hhear⟩
      · exact start_eq_error hstart
      · exact ((hear_quiet (E := never) path started).ends_of_run hhear).elim

/-! ### Direct runs -/

theorem runDirect_quiet (platform : Option Text) (program : Text) (args : List Text) :
    Quiet (fun m => Refused m ∨ m = .unending) (runDirect platform program args) := by
  unfold runDirect
  dsimp only
  refine ((start_quiet _ _).mono fun _ hm => Or.inl hm).bind fun result => ?_
  split
  · exact launchFailed_quiet _ _
  · refine (collectInTime_quiet _).bind fun collected => ?_
    split
    · exact Quiet.pure _
    · exact Quiet.throw (Or.inr rfl)

/-- A direct run ends without an outcome when its command is refused, or when the next program does not
end by itself. -/
theorem runDirect_eq_error {platform : Option Text} {program : Text} {args : List Text}
    (hrun : runDirect platform program args h = (.error m, h')) :
    (Refused m ∧ LastRefused h') ∨
      (m = .unending ∧ ∃ p rest, h.programs = p :: rest ∧ p.error = none ∧ p.hangs = true) := by
  unfold runDirect at hrun
  rcases Act.bind_eq_error hrun with hstart | ⟨started, h₁, hstart, hafter⟩
  · exact Or.inl (start_eq_error hstart)
  cases started with
  | error e => exact ((launchFailed_quiet (E := never) _ e).ends_of_run hafter).elim
  | ok r =>
      obtain ⟨rest, hprograms, herror⟩ := start_eq_ok hstart
      rcases Act.bind_eq_error hafter with hcollect | ⟨collected, h₂, hcollect, hlast⟩
      · exact ((collectInTime_quiet (E := never) r).ends_of_run hcollect).elim
      cases collected with
      | some c => cases hlast
      | none =>
          cases hlast
          exact Or.inr ⟨rfl, r.program, rest, hprograms, herror, hangs_of_collectInTime hcollect⟩

/-! ### The script -/

/-- The host while the script for a command line is there. -/
def withScriptFor (line : Text) (h : Host) : Host :=
  { h with disk := h.disk.put (h.temp.child scriptName).names (.file (scriptBytes line)) }

/-- The host without a script that was put into the temporary folder of another one. -/
def withoutScript (h h' : Host) : Host :=
  { h' with disk := h'.disk.remove (h.temp.child scriptName).names }

theorem LastRefused.withoutScript (hlast : LastRefused h') (h : Host) :
    LastRefused (withoutScript h h') := hlast

/-- The script is there while something is done, and then it is taken away, however that ends. -/
theorem withScript_apply {α : Type} (line : Text) (act : Path → Act α) (h : Host) :
    withScript line act h =
      ((act (h.temp.child scriptName) (withScriptFor line h)).1,
        withoutScript h (act (h.temp.child scriptName) (withScriptFor line h)).2) := by
  let put : Act Unit := modify fun h' =>
    { h' with disk := h'.disk.put (h.temp.child scriptName).names (.file (scriptBytes line)) }
  have hput : put h = (.ok (), withScriptFor line h) := rfl
  unfold withScript
  rw [Act.bind_of_ok (Act.get_apply h)]
  refine (Act.bind_of_ok hput).trans ?_
  rw [Act.bind_apply, Act.tryCatch_apply, Act.bind_apply]
  rcases hrun : act (h.temp.child scriptName) (withScriptFor line h) with ⟨m | a, h'⟩ <;> rfl

theorem withScript_quiet {α : Type} (line : Text) {act : Path → Act α}
    (hact : ∀ script, Quiet E (act script)) : Quiet E (withScript line act) := by
  constructor
  · intro h
    rw [withScript_apply]
    exact (hact _).notices (withScriptFor line h)
  · intro h m hm
    rw [withScript_apply] at hm
    exact (hact _).ends (withScriptFor line h) m hm

/-! ### Runs under Wine -/

/-- Wait for the end of a process that runs the script, or end it. -/
def attend (w : Wine) (r : Running) : Act Outcome := do
  if w.isEndless then throw .overflow
  let collected ← if 0 < w.timeout then collectInTime r else pure none
  match collected with
  | some c => return exited c
  | none =>
    let code ← terminate r
    let message : Text := "Wine process timed out after " ++ w.timeoutSeconds.sixDigits ++ "s"
    Act.complain .launching message
    return { status := .timedOut, exitCode := some code, launchError := some message }

/-- What is done once the script was to be started. -/
def finish (w : Wine) : Except SystemError Running → Act Outcome
  | .error e => launchFailed w.binary e
  | .ok r => attend w r

/-- The start of a script by its path under Wine. -/
def scriptRun (w : Wine) (path : Text) : Command := .program w.binary ["cmd", "/c", path]

/-- The name by which the script is started. -/
def nameOfScript (w : Wine) (translates : Bool) (script : Text) : Act Text :=
  if translates then do return (← w.translate script).toOption.getD script else return script

theorem runUnderWine_eq (w : Wine) (program : Text) (args : List Text) (translates : Bool) :
    runUnderWine w program args translates = withScript (commandLine program args) fun script =>
      nameOfScript w translates script.text >>= fun name =>
        start (scriptRun w name) w.environment >>= finish w := by
  cases translates with
  | false => rfl
  | true =>
      unfold runUnderWine nameOfScript
      congr 1
      funext script
      dsimp only
      rw [if_pos rfl, if_pos rfl, bind_assoc]
      apply bind_congr
      intro answer
      cases answer with
      | ok t =>
          rw [pure_bind, pure_bind]
          apply bind_congr
          rintro (e | r) <;> rfl
      | error why =>
          rw [pure_bind, pure_bind]
          apply bind_congr
          rintro (e | r) <;> rfl

/-- There is no end to the time that a run may take. -/
def Overflows (w : Wine) (m : Mishap) : Prop := w.isEndless = true ∧ m = .overflow

theorem attend_quiet (w : Wine) (r : Running) : Quiet (Overflows w) (attend w r) := by
  unfold attend
  extract_lets message goOn wait
  have hgoOn : ∀ collected, Quiet (Overflows w) (goOn collected) := by
    intro collected
    unfold goOn
    cases collected with
    | some c => exact Quiet.pure _
    | none =>
        exact (terminate_quiet r).bind fun _ => (Quiet.note _ _ _).bind fun _ => Quiet.pure _
  have hwait : ∀ u, Quiet (Overflows w) (wait u) := by
    intro u
    unfold wait
    split
    · exact (collectInTime_quiet r).bind hgoOn
    · exact (Quiet.pure none).bind hgoOn
  split
  · next hendless => exact (Quiet.throw ⟨hendless, rfl⟩).bind hwait
  · exact hwait ()

theorem finish_quiet (w : Wine) (started : Except SystemError Running) :
    Quiet (Overflows w) (finish w started) := by
  cases started with
  | error e => exact launchFailed_quiet _ e
  | ok r => exact attend_quiet w r

theorem nameOfScript_quiet (w : Wine) (translates : Bool) (script : Text) :
    Quiet Refused (nameOfScript w translates script) := by
  cases translates with
  | false => exact Quiet.pure _
  | true => exact (translate_quiet w script).bind fun _ => Quiet.pure _

theorem nameOfScript_eq_error {translates : Bool} {script : Text}
    (hrun : nameOfScript w translates script h = (.error m, h')) : Refused m ∧ LastRefused h' := by
  cases translates with
  | false => cases hrun
  | true =>
      rcases Act.bind_eq_error hrun with htranslate | ⟨answer, h₁, -, hlast⟩
      · exact translate_eq_error htranslate
      · cases hlast

theorem runUnderWine_quiet (w : Wine) (program : Text) (args : List Text) (translates : Bool) :
    Quiet (fun m => Refused m ∨ Overflows w m) (runUnderWine w program args translates) := by
  rw [runUnderWine_eq]
  exact withScript_quiet _ fun script =>
    ((nameOfScript_quiet w translates _).mono fun _ hm => Or.inl hm).bind fun name =>
      ((start_quiet _ _).mono fun _ hm => Or.inl hm).bind fun started =>
        (finish_quiet w started).mono fun _ hm => Or.inr hm

/-- A run under Wine ends without an outcome when a command is refused, or when there is no end to the
time that it may take. -/
theorem runUnderWine_eq_error {program : Text} {args : List Text} {translates : Bool}
    (hrun : runUnderWine w program args translates h = (.error m, h')) :
    (Refused m ∧ LastRefused h') ∨ Overflows w m := by
  rw [runUnderWine_eq, withScript_apply] at hrun
  obtain ⟨hm, rfl⟩ := Prod.mk.inj hrun
  rcases Act.bind_eq_error (Prod.ext hm rfl) with hname | ⟨name, h₁, -, hrest⟩
  · obtain ⟨hrefused, hlast⟩ := nameOfScript_eq_error hname
    exact Or.inl ⟨hrefused, hlast.withoutScript h⟩
  · rcases Act.bind_eq_error hrest with hstart | ⟨started, h₂, -, hfinish⟩
    · obtain ⟨hrefused, hlast⟩ := start_eq_error hstart
      exact Or.inl ⟨hrefused, hlast.withoutScript h⟩
    · exact Or.inr ((finish_quiet w started).ends_of_run hfinish)

end MetaDesk.Launch
