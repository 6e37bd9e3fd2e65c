import MetaDesk.Proofs.Launch.Translating

/-! # The script and the process of a run under Wine

A run under Wine starts at most two processes: one that tells Wine's name of the script, and one that
runs the script.  What they leave behind is said by `Ran`: their records, with what each was told, and
the files of those that were waited for.  How the second one ends, and what it is told meanwhile, is
listed by `ScriptEnds`.  The script is there when either of them is started, and when the run is over
the temporary folder is as it was before, also when one of the two commands is refused
(`run_with_script`). -/

namespace MetaDesk.Launch

variable {command : Command} {bottle : Option (Option Text)} {signals : List Signal} {base : Place}
  {w : Wine} {h h' h'' : Host} {r : Running} {d d' d'' : Disk} {ps qs rest : List Program}
  {xs ys : List Spawn} {program : Text} {args : List Text} {line : Text}

/-! ### The line in the script -/

theorem not_mem_joinWith {c : Char} {sep : Text} {ts : List Text} (hsep : c ∉ sep)
    (hts : ∀ t ∈ ts, c ∉ t) : c ∉ Text.joinWith sep ts := by
  fun_induction Text.joinWith sep ts with
  | case1 => exact List.not_mem_nil
  | case2 t => exact hts t List.mem_cons_self
  | case3 t u ts ih =>
      rw [List.forall_mem_cons] at hts
      rw [List.mem_append, List.mem_append, not_or, not_or]
      exact ⟨⟨hts.1, hsep⟩, ih hts.2⟩

theorem lineFeed_not_mem_commandLine (hprogram : '\n' ∉ program) (hargs : ∀ arg ∈ args, '\n' ∉ arg) :
    '\n' ∉ commandLine program args := by
  have hquoted : '\n' ∉ quoteValue program := by
    unfold quoteValue
    split
    · exact hprogram
    · simpa using hprogram
  exact not_mem_joinWith (by decide) (List.forall_mem_cons.mpr ⟨hquoted, hargs⟩)

theorem scriptBytes_of_not_mem (hline : '\n' ∉ line) :
    scriptBytes line = Utf8.encode ("@echo off\r\n" ++ line ++ "\r\n") := by
  let written (c : Char) : Text := if c = '\n' then "\r\n" else [c]
  have hsame : line.flatMap written = line := by
    induction line with
    | nil => rfl
    | cons c line ih =>
        rw [List.mem_cons, not_or] at hline
        rw [List.flatMap_cons, ih hline.2]
        exact congrArg (· ++ line) (if_neg (Ne.symm hline.1))
  have hwhole : (("@echo off\n" : Text) ++ line ++ "\n").flatMap written =
      "@echo off\r\n" ++ line ++ "\r\n" := by
    rw [List.flatMap_append, List.flatMap_append, hsame]
    rfl
  exact congrArg Utf8.encode hwhole

/-! ### The script in the temporary folder -/

/-- There is no script in the temporary folder yet. -/
def HasNoScript (h : Host) : Prop := h.disk.node? (h.temp.child scriptName).names = none

theorem children_withScriptFor (hnone : HasNoScript h) (line : Text) :
    (withScriptFor line h).disk.children h.temp.names =
      h.disk.children h.temp.names ++ [(scriptName, .file (scriptBytes line))] :=
  Disk.children_put hnone _

theorem scriptsIn_withScriptFor (hnone : HasNoScript h) (line : Text) :
    scriptsIn (withScriptFor line h) = scriptsIn h ++ [scriptBytes line] := by
  have hchildren : (withScriptFor line h).disk.children (withScriptFor line h).temp.names =
      h.disk.children h.temp.names ++ [(scriptName, .file (scriptBytes line))] :=
    children_withScriptFor hnone line
  unfold scriptsIn
  rw [hchildren, List.filterMap_append]
  rfl

/-- Once the script is taken away the folder is as it was before the script was put there. -/
theorem children_remove_script (hnone : HasNoScript h)
    (hd : d.children h.temp.names = (withScriptFor line h).disk.children h.temp.names) :
    (d.remove (h.temp.child scriptName).names).children h.temp.names =
      h.disk.children h.temp.names := by
  have hother := Disk.not_mem_children hnone
  have hremove : (d.remove (h.temp.child scriptName).names).children h.temp.names =
      (d.children h.temp.names).filter fun child => child.1 ≠ scriptName :=
    Disk.children_remove d h.temp.names scriptName
  rw [hremove, hd, children_withScriptFor hnone, List.filter_append, List.filter_eq_self.mpr]
  · simp
  · exact fun child hchild => decide_eq_true (hother child hchild)

/-! ### What programs write -/

/-- The disk after a program was waited for. -/
def writtenBy (base : Place) (p : Program) (d : Disk) : Disk :=
  p.files.foldl (fun d f => d.putFile base f.1 f.2) d

/-- From one disk to another some of these programs were waited for, in order. -/
inductive Written (base : Place) : List Program → Disk → Disk → Prop
  | nil {d : Disk} : Written base [] d d
  | left {p : Program} {ps : List Program} {d d' : Disk} (hrest : Written base ps d d') :
      Written base (p :: ps) d d'
  | awaited {p : Program} {ps : List Program} {d d' : Disk}
      (hrest : Written base ps (writtenBy base p d) d') : Written base (p :: ps) d d'

namespace Written

theorem refl (base : Place) (ps : List Program) (d : Disk) : Written base ps d d := by
  induction ps with
  | nil => exact .nil
  | cons p ps ih => exact .left ih

theorem append (hfirst : Written base ps d d') (hnext : Written base qs d' d'') :
    Written base (ps ++ qs) d d'' := by
  induction hfirst with
  | nil => exact hnext
  | left _ ih => exact .left (ih hnext)
  | awaited _ ih => exact .awaited (ih hnext)

theorem eq_of_no_files (hps : ∀ p ∈ ps, p.files = []) (hwritten : Written base ps d d') : d' = d := by
  induction hwritten with
  | nil => rfl
  | left _ ih => exact ih fun p hp => hps p (List.mem_cons_of_mem _ hp)
  | awaited _ ih =>
      rw [ih fun p hp => hps p (List.mem_cons_of_mem _ hp), writtenBy, hps _ List.mem_cons_self]
      rfl

end Written

/-! ### Processes -/

/-- These processes were started as the next programs, and each was told the signals in its record;
what those wrote that were waited for is on the disk, and nothing else was written. -/
structure Ran (xs : List Spawn) (h h' : Host) : Prop where
  spawns_eq : h'.spawns = h.spawns ++ xs
  programs_eq : h'.programs = h.programs.drop xs.length
  written : Written h.base (h.programs.take xs.length) h.disk h'.disk
  temp_eq : h'.temp = h.temp
  base_eq : h'.base = h.base
  checks_eq : h'.checksCommands = h.checksCommands

/-- The record of a process with what it was told. -/
def told (command : Command) (bottle : Option (Option Text)) (signals : List Signal) (h : Host) :
    Spawn :=
  { recordOf command bottle h with signals := signals }

/-- The program that runs when the next one is started. -/
def runner? (programs : List Program) : Option Program :=
  programs.head?.filter fun p => p.error.isNone

theorem launched_cases (command : Command) (h : Host) :
    (∃ e, launched command h = .error e) ∧ runner? h.programs = none ∨
      ∃ r rest, launched command h = .ok r ∧ h.programs = r.program :: rest ∧
        r.number = h.spawns.length ∧ runner? h.programs = some r.program := by
  unfold launched runner?
  cases h.programs with
  | nil => exact Or.inl ⟨⟨_, rfl⟩, rfl⟩
  | cons p rest =>
      dsimp only
      cases herror : p.error with
      | some e => exact Or.inl ⟨⟨_, rfl⟩, by simp [Option.filter, herror]⟩
      | none => exact Or.inr ⟨_, rest, rfl, rfl, rfl, by simp [Option.filter, herror]⟩

theorem modify_concat {α : Type} (as : List α) (a : α) (f : α → α) :
    (as ++ [a]).modify as.length f = as ++ [f a] := by
  induction as with
  | nil => rfl
  | cons b as ih => exact congrArg (b :: ·) ih

namespace Ran

theorem refl (h : Host) : Ran [] h h := ⟨(List.append_nil _).symm, rfl, .nil, rfl, rfl, rfl⟩

theorem trans (hfirst : Ran xs h h') (hnext : Ran ys h' h'') : Ran (xs ++ ys) h h'' := by
  refine ⟨?_, ?_, ?_, hnext.temp_eq.trans hfirst.temp_eq, hnext.base_eq.trans hfirst.base_eq,
    hnext.checks_eq.trans hfirst.checks_eq⟩
  · rw [hnext.spawns_eq, hfirst.spawns_eq, List.append_assoc]
  · rw [hnext.programs_eq, hfirst.programs_eq, List.drop_drop, List.length_append]
  · have hwritten := hnext.written
    rw [hfirst.programs_eq, hfirst.base_eq] at hwritten
    rw [List.length_append, List.take_add]
    exact hfirst.written.append hwritten

theorem refuses_eq (hran : Ran xs h h') (command : Command) (bottle : Option (Option Text)) :
    refuses h' command bottle = refuses h command bottle := by
  unfold refuses
  rw [hran.checks_eq]

theorem started (command : Command) (bottle : Option (Option Text)) (h : Host) :
    Ran [told command bottle [] h] h (hostAfter command bottle h) :=
  ⟨rfl, List.drop_one.symm, .refl _ _ _, rfl, rfl, rfl⟩

theorem collected (command : Command) (bottle : Option (Option Text))
    (hnext : h.programs = r.program :: rest) (late : List (ℕ × Files)) :
    Ran [told command bottle [] h] h
      { (hostAfter command bottle h).putFiles r.program.files with late := late } := by
  refine ⟨rfl, List.drop_one.symm, ?_, rfl, rfl, rfl⟩
  rw [hnext]
  exact .awaited .nil

theorem noted (hran : Ran xs h h') (journal : List Entry) :
    Ran xs h { h' with journal := journal } :=
  ⟨hran.spawns_eq, hran.programs_eq, hran.written, hran.temp_eq, hran.base_eq, hran.checks_eq⟩

theorem signalled (hran : Ran [told command bottle signals h] h h')
    (hnumber : r.number = h.spawns.length) (s : Signal) :
    Ran [told command bottle (signals ++ [s]) h] h (signalled r s h') := by
  refine ⟨?_, hran.programs_eq, hran.written, hran.temp_eq, hran.base_eq, hran.checks_eq⟩
  unfold Launch.signalled
  dsimp only
  rw [hran.spawns_eq, hnumber, modify_concat]
  rfl

end Ran

/-! ### The process that tells the name -/

theorem hear_ran (path : Text) (command : Command) (bottle : Option (Option Text)) (h : Host) :
    ∃ signals answer h', hear path (launched command h) (hostAfter command bottle h) =
      (.ok answer, h') ∧ Ran [told command bottle signals h] h h' := by
  rcases launched_cases command h with ⟨⟨e, hlaunched⟩, -⟩ |
    ⟨r, rest, hlaunched, hnext, hnumber, -⟩ <;> rw [hlaunched]
  · exact ⟨[], _, _, rfl, (Ran.started command bottle h).noted _⟩
  unfold hear
  dsimp only
  cases hhangs : r.program.hangs with
  | true =>
      rw [Act.bind_of_ok (collectInTime_of_hangs hhangs _)]
      dsimp only
      rw [Act.bind_of_ok (signal_apply r .kill _)]
      exact ⟨_, _, _, rfl, ((Ran.started command bottle h).signalled hnumber .kill).noted _⟩
  | false =>
      rw [Act.bind_of_ok (collectInTime_of_ends hhangs _)]
      dsimp only
      have hran := Ran.collected command bottle hnext (h.late ++ r.program.late)
      split
      · exact ⟨[], _, _, rfl, hran.noted _⟩
      · exact ⟨[], _, _, rfl, hran⟩

theorem translate_ran {path : Text} (hask : w.MayAsk path h) :
    ∃ xs answer h', w.translate path h = (.ok answer, h') ∧ Ran xs h h' ∧
      xs.map (·.command) = w.queries path := by
  unfold Wine.queries
  cases hpath : isTranslatable path with
  | false =>
      obtain ⟨why, hnone⟩ := translate_of_not w hpath
      rw [hnone]
      exact ⟨[], .error why, h, rfl, .refl h, rfl⟩
  | true =>
      rw [translate_eq w hpath, Act.bind_of_ok (start_of_taken (hask hpath))]
      obtain ⟨signals, answer, h', hrun, hran⟩ := hear_ran path (w.query path) w.environment h
      exact ⟨_, answer, h', hrun, hran, rfl⟩

/-! ### The process that runs the script -/

/-- The output of a program arrives in the time that it may take. -/
def InTime (w : Wine) (p : Program) : Prop := 0 < w.timeout ∧ p.hangs = false

/-- What a process is told that is to end. -/
def endSignals (p : Program) : List Signal :=
  if p.hasEnded then [] else .terminate :: if p.ignoresEnd then [.kill] else []

theorem terminate_ran (hran : Ran [told command bottle [] h] h h')
    (hnumber : r.number = h.spawns.length) :
    ∃ code h'', terminate r h' = (.ok code, h'') ∧
      Ran [told command bottle (endSignals r.program) h] h h'' := by
  have hasked := hran.signalled hnumber .terminate
  unfold terminate endSignals
  cases r.program.hasEnded with
  | true => exact ⟨_, h', rfl, hran⟩
  | false =>
      rw [if_neg Bool.false_ne_true, if_neg Bool.false_ne_true,
        Act.bind_of_ok (signal_apply r .terminate h')]
      cases r.program.ignoresEnd with
      | false => exact ⟨_, _, rfl, hasked⟩
      | true =>
          have hwarn : ∀ message, Act.warn .launching message (signalled r .terminate h') =
            (.ok (), (Act.warn .launching message (signalled r .terminate h')).2) := fun _ => rfl
          rw [if_pos rfl, if_pos rfl, Act.bind_of_ok (hwarn _), Act.bind_of_ok (signal_apply r .kill _)]
          exact ⟨_, _, rfl, (hasked.noted _).signalled hnumber .kill⟩

/-- How the run of the script ends with a program to run it, or without one, and what the process is
told meanwhile. -/
inductive ScriptEnds (w : Wine) : Option Program → Except Mishap Outcome → List Signal → Prop
  | launchFailed {o : Outcome} (hstatus : o.status = .launchFailed) : ScriptEnds w none (.ok o) []
  /-- There is no end to the time that the process may take. -/
  | endless {p : Program} (hendless : w.isEndless = true) :
      ScriptEnds w (some p) (.error .overflow) []
  | exited {p : Program} {o : Outcome} (hends : w.isEndless = false) (hintime : InTime w p)
      (hstatus : o.status = .exited) : ScriptEnds w (some p) (.ok o) []
  | timedOut {p : Program} {o : Outcome} (hends : w.isEndless = false) (hlate : ¬ InTime w p)
      (hstatus : o.status = .timedOut) : ScriptEnds w (some p) (.ok o) (endSignals p)

/-- A process that takes too long is ended. -/
def timeOut (w : Wine) (r : Running) : Act Outcome := do
  let code ← terminate r
  let message : Text := "Wine process timed out after " ++ w.timeoutSeconds.sixDigits ++ "s"
  Act.complain .launching message
  return { status := .timedOut, exitCode := some code, launchError := some message }

theorem attend_of_ends (hends : w.isEndless = false) (r : Running) :
    attend w r = ((if 0 < w.timeout then collectInTime r else pure none) >>= fun collected =>
      match collected with
      | some c => pure (exited c)
      | none => timeOut w r) := by
  unfold attend
  rw [hends, if_neg Bool.false_ne_true]
  dsimp only
  split <;> rfl

theorem nothing_of_late (hlate : ¬ InTime w r.program) (h : Host) :
    (if 0 < w.timeout then collectInTime r else pure none) h = (.ok none, h) := by
  split
  · next htime =>
      refine collectInTime_of_hangs ?_ h
      exact Bool.of_not_eq_false fun hhangs => hlate ⟨htime, hhangs⟩
  · rfl

theorem timeOut_ran (w : Wine) (hran : Ran [told command bottle [] h] h h')
    (hnumber : r.number = h.spawns.length) :
    ∃ o h'', timeOut w r h' = (.ok o, h'') ∧ o.status = .timedOut ∧
      Ran [told command bottle (endSignals r.program) h] h h'' := by
  obtain ⟨code, h'', hterminate, hended⟩ := terminate_ran hran hnumber
  unfold timeOut
  rw [Act.bind_of_ok hterminate]
  exact ⟨_, _, rfl, rfl, hended.noted _⟩

theorem attend_ran (w : Wine) (command : Command) (bottle : Option (Option Text))
    (hnext : h.programs = r.program :: rest) (hnumber : r.number = h.spawns.length) :
    ∃ signals result h', attend w r (hostAfter command bottle h) = (result, h') ∧
      Ran [told command bottle signals h] h h' ∧ ScriptEnds w (some r.program) result signals := by
  have hstarted := Ran.started command bottle h
  cases hendless : w.isEndless with
  | true =>
      have hthrow : attend w r (hostAfter command bottle h) =
          (.error .overflow, hostAfter command bottle h) := by
        unfold attend
        rw [hendless]
        rfl
      exact ⟨[], _, _, hthrow, hstarted, .endless hendless⟩
  | false =>
      rw [attend_of_ends hendless]
      by_cases hintime : InTime w r.program
      · have hcollect := collectInTime_of_ends hintime.2 (hostAfter command bottle h)
        rw [if_pos hintime.1, Act.bind_of_ok hcollect]
        exact ⟨[], _, _, rfl, .collected command bottle hnext _, .exited hendless hintime rfl⟩
      · rw [Act.bind_of_ok (nothing_of_late hintime _)]
        obtain ⟨o, h', hrun, hstatus, hran⟩ := timeOut_ran w hstarted hnumber
        exact ⟨_, _, h', hrun, hran, .timedOut hendless hintime hstatus⟩

/-- Whatever becomes of the process that is to run the script, there is one more record. -/
theorem finish_ran (w : Wine) (command : Command) (bottle : Option (Option Text)) (h : Host) :
    ∃ signals result h', finish w (launched command h) (hostAfter command bottle h) = (result, h') ∧
      Ran [told command bottle signals h] h h' ∧
      ScriptEnds w (runner? h.programs) result signals := by
  rcases launched_cases command h with ⟨⟨e, hlaunched⟩, hnone⟩ |
    ⟨r, rest, hlaunched, hnext, hnumber, hrunner⟩
  · rw [hlaunched, hnone]
    exact ⟨[], _, _, rfl, (Ran.started command bottle h).noted _, .launchFailed rfl⟩
  · rw [hlaunched, hrunner]
    exact attend_ran w command bottle hnext hnumber

/-- One outcome comes of it, with the signals that go with it. -/
theorem ScriptEnds.outcome {runner : Option Program} {result : Except Mishap Outcome}
    (hends : ScriptEnds w runner result signals) (hrunner : w.isEndless = true → runner = none) :
    ∃ o, result = .ok o ∧ (o.status = .launchFailed ↔ runner = none) ∧
      (o.status = .timedOut ↔ ∃ p ∈ runner, ¬ InTime w p) ∧
      (o.status = .exited ↔ ∃ p ∈ runner, InTime w p) ∧
      signals = if o.status = .timedOut then runner.toList.flatMap endSignals else [] := by
  cases hends with
  | launchFailed hstatus => exact ⟨_, rfl, by simp [hstatus]⟩
  | endless hendless => cases hrunner hendless
  | exited _ hintime hstatus => exact ⟨_, rfl, by simp [hstatus, hintime]⟩
  | timedOut _ hlate hstatus => exact ⟨_, rfl, by simp [hstatus, hlate]⟩

/-- Without an end to its time no outcome comes of a process that runs, and it is told nothing. -/
theorem ScriptEnds.overflow {runner : Option Program} {result : Except Mishap Outcome}
    (hends : ScriptEnds w runner result signals) (hendless : w.isEndless = true)
    (hrunner : runner ≠ none) : result = .error .overflow ∧ signals = [] := by
  cases hends with
  | launchFailed => exact absurd rfl hrunner
  | endless => exact ⟨rfl, rfl⟩
  | exited hends => cases hendless.symm.trans hends
  | timedOut hends => cases hendless.symm.trans hends

/-! ### The whole run -/

/-- The name that the next program tells, if it is to be asked. -/
def toldName (translates : Bool) (script : Text) (programs : List Program) : Text :=
  if translates then (nameFor? script programs).getD script else script

/-- What is started before the script. -/
def Wine.questions (w : Wine) (translates : Bool) (script : Text) : List Command :=
  if translates then w.queries script else []

/-- The question for the name of the script is not refused, where it is asked. -/
def Wine.MayName (w : Wine) (translates : Bool) (script : Text) (h : Host) : Prop :=
  translates = true → w.MayAsk script h

/-- The name is asked for, if it is to be, and is that which the next program tells. -/
theorem nameOfScript_ran {translates : Bool} {script : Text} (hask : w.MayName translates script h) :
    ∃ xs name h', nameOfScript w translates script h = (.ok name, h') ∧ Ran xs h h' ∧
      xs.map (·.command) = w.questions translates script ∧
      name = toldName translates script h.programs := by
  unfold nameOfScript Wine.questions toldName
  cases translates with
  | false => exact ⟨[], script, h, rfl, .refl h, rfl, rfl⟩
  | true =>
      obtain ⟨xs, answer, h', hrun, hran, hasked⟩ := translate_ran (hask rfl)
      obtain ⟨_, answer', _, hrun', -, -, hanswer, -⟩ := translate_spec (hask rfl)
      rw [hrun] at hrun'
      cases hrun'
      rw [if_pos rfl, Act.bind_of_ok hrun]
      exact ⟨xs, _, h', rfl, hran, hasked, congrArg (·.getD script) hanswer⟩

theorem nameOfScript_of_refused {translates : Bool} {script : Text}
    (hask : ¬ w.MayName translates script h) :
    nameOfScript w translates script h =
        (.error (.refused .nullInCommand), hostAfter (w.query script) w.environment h) ∧
      w.questions translates script = [w.query script] := by
  unfold Wine.MayName at hask
  obtain ⟨rfl, hrefused⟩ := Classical.not_imp.mp hask
  obtain ⟨hrun, hqueries⟩ := translate_of_refused hrefused
  refine ⟨?_, hqueries⟩
  rw [nameOfScript, if_pos rfl]
  exact Act.bind_of_error _ hrun

/-- Whichever of the next programs are waited for, they write nothing into the temporary folder. -/
def Spares (line : Text) (n : ℕ) (h : Host) : Prop :=
  ∀ d, Written h.base (h.programs.take n) (withScriptFor line h).disk d →
    d.children h.temp.names = (withScriptFor line h).disk.children h.temp.names

theorem Spares.of_ran {n : ℕ} (hspares : Spares line n h) (hran : Ran xs (withScriptFor line h) h')
    (hlength : xs.length ≤ n) :
    h'.disk.children h.temp.names = (withScriptFor line h).disk.children h.temp.names := by
  have hsplit : h.programs.take n =
      h.programs.take xs.length ++ (h.programs.drop xs.length).take (n - xs.length) := by
    rw [← List.take_add, Nat.add_sub_of_le hlength]
  refine hspares _ ?_
  rw [hsplit]
  exact hran.written.append (.refl _ _ _)

theorem spares_of_no_files (hprograms : ∀ p ∈ h.programs, p.files = []) (line : Text) (n : ℕ) :
    Spares line n h := by
  intro d hwritten
  rw [hwritten.eq_of_no_files fun p hp => hprograms p (List.mem_of_mem_take hp)]

/-- A run of a command line by a script: some questions are asked, the script is started once, and
then it is gone. -/
structure RunsScript (w : Wine) (line : Text) (translates : Bool) (h h' : Host)
    (questions : List Spawn) (last : Spawn) : Prop where
  children_eq : h'.disk.children h.temp.names = h.disk.children h.temp.names
  spawns_eq : h'.spawns = h.spawns ++ (questions ++ [last])
  questions_eq : questions.map (·.command) =
    w.questions translates (h.temp.child scriptName).text
  command_eq : last.command =
    scriptRun w (toldName translates (h.temp.child scriptName).text h.programs)
  scripts_eq : last.scripts = scriptsIn h ++ [Utf8.encode ("@echo off\r\n" ++ line ++ "\r\n")]

/-- What is seen of a script that is put there, asked about, started and taken away. -/
theorem runsScript_of_ran {translates : Bool} {name : Text} {h₁ h₂ : Host} {questions : List Spawn}
    (hline : '\n' ∉ line) (hnone : HasNoScript h)
    (hspares : Spares line ((w.questions translates (h.temp.child scriptName).text).length + 1) h)
    (hasked : Ran questions (withScriptFor line h) h₁)
    (hquestions : questions.map (·.command) = w.questions translates (h.temp.child scriptName).text)
    (hname : name = toldName translates (h.temp.child scriptName).text h.programs)
    (hran : Ran [told (scriptRun w name) w.environment signals h₁] h₁ h₂) :
    RunsScript w line translates h
      { h₂ with disk := h₂.disk.remove (h.temp.child scriptName).names } questions
      (told (scriptRun w name) w.environment signals h₁) := by
  have hlength : questions.length = (w.questions translates (h.temp.child scriptName).text).length := by
    rw [← hquestions, List.length_map]
  have hcount : (questions ++ [told (scriptRun w name) w.environment signals h₁]).length ≤
      (w.questions translates (h.temp.child scriptName).text).length + 1 := by
    rw [List.length_append, hlength]
    exact Nat.le_refl _
  have hwhole := hasked.trans hran
  refine ⟨children_remove_script hnone (hspares.of_ran hwhole hcount), hwhole.spawns_eq, hquestions,
    congrArg (scriptRun w) hname, ?_⟩
  have hkept := hspares.of_ran hasked (hlength ▸ Nat.le_succ _)
  have hseen : scriptsIn h₁ = scriptsIn (withScriptFor line h) := by
    unfold scriptsIn
    rw [hasked.temp_eq]
    exact congrArg (List.filterMap _) hkept
  rw [← scriptBytes_of_not_mem hline, ← scriptsIn_withScriptFor hnone]
  exact hseen

/-- How the start of the script ends, with what is told to the process.  If it is refused, with that.
Otherwise there is one outcome: the start failed, the output did not arrive in time, or the process
ended; only in the second case is the process told to end, and killed if it does not.  Where there is no
end to the time that a process may take there is no outcome, and the process is left alone. -/
structure EndsScript (w : Wine) (h : Host) (runner : Option Program) (last : Spawn)
    (result : Except Mishap Outcome) : Prop where
  refused : refuses h last.command w.environment = true →
    result = .error (.refused .nullInCommand) ∧ last.signals = []
  outcome : refuses h last.command w.environment = false → (w.isEndless = true → runner = none) →
    ∃ o, result = .ok o ∧ (o.status = .launchFailed ↔ runner = none) ∧
      (o.status = .timedOut ↔ ∃ p ∈ runner, ¬ InTime w p) ∧
      (o.status = .exited ↔ ∃ p ∈ runner, InTime w p) ∧
      last.signals = if o.status = .timedOut then runner.toList.flatMap endSignals else []
  overflow : refuses h last.command w.environment = false → w.isEndless = true → runner ≠ none →
    result = .error .overflow ∧ last.signals = []

/-- Whether or not the start of the script is refused, there is one more record. -/
theorem startScript_ran (w : Wine) (name : Text) (h : Host) :
    ∃ signals result h', (start (scriptRun w name) w.environment >>= finish w) h = (result, h') ∧
      Ran [told (scriptRun w name) w.environment signals h] h h' ∧
      EndsScript w h (runner? h.programs) (told (scriptRun w name) w.environment signals h) result := by
  cases hrefused : refuses h (scriptRun w name) w.environment with
  | true =>
      rw [Act.bind_of_error _ (start_of_refused hrefused)]
      exact ⟨[], _, _, rfl, .started _ _ _, fun _ => ⟨rfl, rfl⟩,
        fun htaken => (Bool.eq_false_iff.mp htaken hrefused).elim,
        fun htaken => (Bool.eq_false_iff.mp htaken hrefused).elim⟩
  | false =>
      rw [Act.bind_of_ok (start_of_taken hrefused)]
      obtain ⟨signals, result, h', hrun, hran, hends⟩ :=
        finish_ran w (scriptRun w name) w.environment h
      exact ⟨signals, result, h', hrun, hran, fun hno => (Bool.eq_false_iff.mp hrefused hno).elim,
        fun _ => hends.outcome, fun _ => hends.overflow⟩

/-- **The script is there exactly while it is needed.**  A run under Wine asks for the name of the
script, if it is to be translated, and then starts it once, while the temporary folder has one more
file, which holds the command line; afterwards the folder is as it was before.  It ends as the start of
the script does (`EndsScript`).  If the question is refused, the run ends with that: the script is not
started, and the folder is again as it was before. -/
theorem run_with_script (w : Wine) (translates : Bool) (hprogram : '\n' ∉ program)
    (hargs : ∀ arg ∈ args, '\n' ∉ arg) (hnone : HasNoScript h)
    (hspares : Spares (commandLine program args)
      ((w.questions translates (h.temp.child scriptName).text).length + 1) h) :
    (w.MayName translates (h.temp.child scriptName).text h →
      ∃ result h' questions last, runUnderWine w program args translates h = (result, h') ∧
        RunsScript w (commandLine program args) translates h h' questions last ∧
        EndsScript w h (runner? (h.programs.drop questions.length)) last result) ∧
    (¬ w.MayName translates (h.temp.child scriptName).text h →
      ∃ h' question, runUnderWine w program args translates h =
          (.error (.refused .nullInCommand), h') ∧
        h'.disk.children h.temp.names = h.disk.children h.temp.names ∧
        h'.spawns = h.spawns ++ [question] ∧ question.signals = [] ∧
        w.questions translates (h.temp.child scriptName).text = [question.command]) := by
  let line := commandLine program args
  let script := h.temp.child scriptName
  have hline : '\n' ∉ line := lineFeed_not_mem_commandLine hprogram hargs
  constructor
  · intro hask
    obtain ⟨questions, name, h₁, hname, hasked, hquestions, htold⟩ :=
      nameOfScript_ran (h := withScriptFor line h) hask
    obtain ⟨signals, result, h₂, hstart, hran, hends⟩ := startScript_ran w name h₁
    have hrun : runUnderWine w program args translates h = (result, withoutScript h h₂) := by
      rw [runUnderWine_eq, withScript_apply, Act.bind_of_ok hname, hstart]
    have hprograms : h₁.programs = h.programs.drop questions.length := hasked.programs_eq
    have hsame := hasked.refuses_eq (scriptRun w name) w.environment
    refine ⟨result, _, questions, _, hrun,
      runsScript_of_ran hline hnone hspares hasked hquestions htold hran, ?_⟩
    rw [hprograms] at hends
    exact ⟨fun hno => hends.refused (hsame.trans hno), fun hyes => hends.outcome (hsame.trans hyes),
      fun hyes => hends.overflow (hsame.trans hyes)⟩
  · intro hask
    obtain ⟨hname, hquestions⟩ := nameOfScript_of_refused (h := withScriptFor line h) hask
    have hran := Ran.started (w.query script.text) w.environment (withScriptFor line h)
    have hone : [told (w.query script.text) w.environment [] (withScriptFor line h)].length ≤
        (w.questions translates script.text).length + 1 := Nat.le_add_left _ _
    have hrun : runUnderWine w program args translates h = (.error (.refused .nullInCommand),
        withoutScript h (hostAfter (w.query script.text) w.environment (withScriptFor line h))) := by
      rw [runUnderWine_eq, withScript_apply, Act.bind_of_error _ hname]
    exact ⟨_, _, hrun, children_remove_script hnone (hspares.of_ran hran hone), hran.spawns_eq, rfl,
      hquestions⟩

/-- A host with a file in its temporary folder, where Wine tells the name of the script and the process
that runs it neither ends by itself nor when asked to. -/
def stubbornHost : Host :=
  { disk := ⟨[(["tmp"], .folder), (["tmp", "a"], .file [1])]⟩
    programs := [{ stdout := Utf8.encode "Z:s\n" }, { hangs := true, ignoresEnd := true }] }

/-- The process is told to end and then killed, and the folder is as it was before. -/
theorem run_with_script_of_stubbornHost : ∃ o h' question last,
    runUnderWine {} "Z:\\m" [] true stubbornHost = (.ok o, h') ∧ o.status = .timedOut ∧
      h'.disk.children ["tmp"] = [(("a" : Text), .file [1])] ∧ h'.spawns = [question, last] ∧
      last.command = .program "wine64" ["cmd", "/c", "Z:s"] ∧
      last.scripts = [[1], Utf8.encode "@echo off\r\n\"Z:\\m\"\r\n"] ∧
      last.signals = [.terminate, .kill] := by
  have hnone : HasNoScript stubbornHost := by
    unfold HasNoScript
    decide +kernel
  have hspares : Spares (commandLine "Z:\\m" []) ((Wine.questions {} true
      (stubbornHost.temp.child scriptName).text).length + 1) stubbornHost :=
    spares_of_no_files (by decide) _ _
  have hask : Wine.MayName {} true (stubbornHost.temp.child scriptName).text stubbornHost := by
    intro _ _
    decide +kernel
  obtain ⟨result, h', questions, last, hrun, hscript, hend⟩ :=
    (run_with_script {} true (by decide) (List.forall_mem_nil _) hnone hspares).1 hask
  have hends : Wine.isEndless {} = false := by decide +kernel
  have hone : Wine.questions {} true (stubbornHost.temp.child scriptName).text =
      [.program "wine64" ["winepath", "-w", "/tmp/mql_compile_*.bat"]] := by decide +kernel
  have hasked := hscript.questions_eq
  rw [hone] at hasked
  obtain ⟨question, rfl, -⟩ := List.map_eq_singleton_iff.mp hasked
  have hcommand := hscript.command_eq
  have htaken : refuses stubbornHost last.command (Wine.environment {}) = false := by
    rw [hcommand]
    decide +kernel
  obtain ⟨o, rfl, -, htimedOut, -, hsignals⟩ :=
    hend.outcome htaken fun hendless => absurd hendless (ne_true_of_eq_false hends)
  have hstatus : o.status = .timedOut := htimedOut.mpr ⟨_, rfl, by simp [InTime]⟩
  rw [if_pos hstatus] at hsignals
  refine ⟨o, h', question, last, hrun, hstatus, hscript.children_eq.trans (by decide +kernel),
    hscript.spawns_eq, hcommand.trans (by decide +kernel),
    hscript.scripts_eq.trans (by decide +kernel), hsignals⟩

/-- A name of the script with a null character is one that it cannot be started by. -/
example : (runUnderWine {} "Z:\\m" [] true
    { programs := [{ stdout := Utf8.encode "Z:\x00a" }, {}] }).1.toOption = none := by decide +kernel

/-- Wine with a time limit that is too large for a number of seconds. -/
def endlessWine : Wine := { timeout := Nat.pow 10 400 }

/-- Then not even a process that ends at once has an outcome. -/
theorem no_outcome_of_endlessWine :
    ¬ ∃ o h', runUnderWine endlessWine "Z:\\m" [] false { programs := [{}] } = (.ok o, h') := by
  rintro ⟨o, h', hrun⟩
  have hnone : (runUnderWine endlessWine "Z:\\m" [] false { programs := [{}] }).1.toOption.isSome =
      false := by decide +kernel
  rw [hrun] at hnone
  cases hnone

end MetaDesk.Launch
