import MetaDesk.Launch.Script
import MetaDesk.Proofs.Disk.Tree
import MetaDesk.Proofs.Launch.Running

/-! # What is started to translate a path and to run the compiler

`Starts` says of two states of the host which processes were started in between and what was shown.
Each process that is started is the next program, whether or not it can be run.

Asking Wine for its name of a path starts one process, and none if the path is not from the root or
is one on a drive; the answer is the name that this process tells, if it ends well and tells one
(`translate_spec`).  A run under Wine asks for the name of the script, and then starts the script
once (`runUnderWine_spec`).  Neither shows anything.  A question that has a null character is refused,
and nothing comes after it (`translate_of_refused`, `runUnderWine_of_refused`). -/

namespace MetaDesk.Launch

variable {h h' h₀ h₁ h₂ : Host} {xs ys : List Spawn} {shown more : Text}

/-! ### Starts -/

/-- The record of a start as it was written, before the process was told anything. -/
def atStart (s : Spawn) : Spawn := { s with signals := [] }

/-- From one state of the host to another these processes were started, and this was shown; there is
no new notice. -/
structure Starts (xs : List Spawn) (shown : Text) (h h' : Host) : Prop where
  spawns_eq : h'.spawns.map atStart = h.spawns.map atStart ++ xs
  programs_eq : h'.programs = h.programs.drop xs.length
  output_eq : h'.output.text = h.output.text ++ shown
  notices_eq : h'.notices = h.notices
  temp_eq : h'.temp = h.temp
  checks_eq : h'.checksCommands = h.checksCommands

namespace Starts

theorem refl (h : Host) : Starts [] [] h h :=
  ⟨(List.append_nil _).symm, rfl, (List.append_nil _).symm, rfl, rfl, rfl⟩

theorem trans (hfirst : Starts xs shown h₀ h₁) (hnext : Starts ys more h₁ h₂) :
    Starts (xs ++ ys) (shown ++ more) h₀ h₂ := by
  refine ⟨?_, ?_, ?_, hnext.notices_eq.trans hfirst.notices_eq, hnext.temp_eq.trans hfirst.temp_eq,
    hnext.checks_eq.trans hfirst.checks_eq⟩
  · rw [hnext.spawns_eq, hfirst.spawns_eq, List.append_assoc]
  · rw [hnext.programs_eq, hfirst.programs_eq, List.drop_drop, List.length_append]
  · rw [hnext.output_eq, hfirst.output_eq, List.append_assoc]

/-- A change that starts nothing and shows nothing. -/
theorem idle (hstarts : Starts xs shown h₀ h₁)
    (hspawns : h₂.spawns.map atStart = h₁.spawns.map atStart) (hprograms : h₂.programs = h₁.programs)
    (houtput : h₂.output = h₁.output) (hnotices : h₂.notices = h₁.notices)
    (htemp : h₂.temp = h₁.temp) (hchecks : h₂.checksCommands = h₁.checksCommands) :
    Starts xs shown h₀ h₂ :=
  ⟨hspawns.trans hstarts.spawns_eq, hprograms.trans hstarts.programs_eq,
    (congrArg Output.text houtput).trans hstarts.output_eq, hnotices.trans hstarts.notices_eq,
    htemp.trans hstarts.temp_eq, hchecks.trans hstarts.checks_eq⟩

theorem refuses_eq (hstarts : Starts xs shown h₀ h₁) (command : Command)
    (bottle : Option (Option Text)) : refuses h₁ command bottle = refuses h₀ command bottle := by
  unfold refuses
  rw [hstarts.checks_eq]

end Starts

theorem map_atStart_modify (spawns : List Spawn) (n : ℕ) (signals : Spawn → List Signal) :
    (spawns.modify n fun s => { s with signals := signals s }).map atStart =
      spawns.map atStart := by
  refine List.ext_getElem? fun i => ?_
  rw [List.getElem?_map, List.getElem?_map, List.getElem?_modify]
  cases spawns[i]? with
  | none => rfl
  | some s => by_cases hi : n = i <;> simp [hi, atStart]

/-! ### Steps -/

theorem signalled_starts (r : Running) (s : Signal) (hstarts : Starts xs shown h₀ h) :
    Starts xs shown h₀ (signalled r s h) :=
  hstarts.idle (map_atStart_modify _ _ _) rfl rfl rfl rfl rfl

theorem collect_starts (r : Running) : Act.Keeps (Starts xs shown h₀) (collect r) :=
  fun _ hstarts => hstarts.idle rfl rfl rfl rfl rfl rfl

theorem collectInTime_starts (r : Running) :
    Act.Keeps (Starts xs shown h₀) (collectInTime r) := by
  unfold collectInTime
  split
  · exact Act.Keeps.pure none
  · exact (collect_starts r).bind fun c => Act.Keeps.pure _

theorem hostAfter_starts (command : Command) (bottle : Option (Option Text)) (h : Host) :
    Starts [recordOf command bottle h] [] h (hostAfter command bottle h) := by
  refine ⟨?_, List.drop_one.symm, (List.append_nil _).symm, rfl, rfl, rfl⟩
  unfold hostAfter
  rw [List.map_append]
  rfl

/-! ### Names of paths -/

/-- The processes that are started to translate a path. -/
def Wine.queries (w : Wine) (path : Text) : List Command :=
  if isTranslatable path then [w.query path] else []

/-- The question for Wine's name of a path is not refused, where it is asked. -/
def Wine.MayAsk (w : Wine) (path : Text) (h : Host) : Prop :=
  isTranslatable path = true → refuses h (w.query path) w.environment = false

instance {w : Wine} {path : Text} : Decidable (w.MayAsk path h) :=
  inferInstanceAs (Decidable (_ → _))

theorem Wine.not_mayAsk_iff {w : Wine} {path : Text} : ¬ w.MayAsk path h ↔
    isTranslatable path = true ∧ refuses h (w.query path) w.environment = true := by
  unfold Wine.MayAsk
  rw [Classical.not_imp, Bool.not_eq_false]

/-- What a program writes when it is asked for its name of a path, without blanks around it. -/
def answerOf (path : Text) (p : Program) : Text := Text.trim (textOf (Running.stdout ⟨p, 0, path⟩))

/-- The name of a path that a program tells: it can be run, ends by itself and with zero, and writes
something. -/
def nameBy? (path : Text) (p : Program) : Option Text :=
  if p.error = none ∧ p.hangs = false ∧ p.code.getD 0 = 0 ∧ answerOf path p ≠ [] then
    some (answerOf path p)
  else none

/-- The name of a path that is found with the next program. -/
def nameFor? (path : Text) (programs : List Program) : Option Text :=
  if isTranslatable path then programs.head?.bind (nameBy? path) else none

/-- What is not translated starts nothing and shows nothing. -/
theorem untranslated_starts (path detail : Text) (hstarts : Starts xs shown h₀ h) :
    ∃ why h', untranslated path detail h = (.ok (.error why), h') ∧ Starts xs shown h₀ h' ∧
      h'.disk = h.disk :=
  ⟨_, _, rfl, hstarts.idle rfl rfl rfl rfl rfl rfl, rfl⟩

theorem collectInTime_of_hangs {r : Running} (hhangs : r.program.hangs = true) (h : Host) :
    collectInTime r h = (.ok none, h) := by
  unfold collectInTime
  rw [if_pos hhangs]
  rfl

theorem collectInTime_of_ends {r : Running} (hhangs : r.program.hangs = false) (h : Host) :
    collectInTime r h = (.ok (some ⟨r.stdout, r.program.stderr, r.program.code.getD 0⟩),
      { h.putFiles r.program.files with late := h.late ++ r.program.late }) := by
  unfold collectInTime
  rw [if_neg (ne_true_of_eq_false hhangs)]
  rfl

/-- A process that runs tells the name by what it writes. -/
theorem hear_running {path : Text} {r : Running} (hlast : r.last = path)
    (herror : r.program.error = none) (hstarts : Starts xs shown h₀ h) :
    ∃ answer h', hear path (.ok r) h = (.ok answer, h') ∧ Starts xs shown h₀ h' ∧
      answer.toOption = nameBy? path r.program ∧ (r.program.files = [] → h'.disk = h.disk) := by
  subst hlast
  unfold hear
  dsimp only
  cases hhangs : r.program.hangs with
  | true =>
      have hname : nameBy? r.last r.program = none := if_neg (by simp [hhangs])
      rw [Act.bind_of_ok (collectInTime_of_hangs hhangs h), hname]
      dsimp only
      rw [Act.bind_of_ok (signal_apply r .kill h)]
      obtain ⟨why, h', hrun, hstarts', hdisk⟩ := untranslated_starts r.last _
        (signalled_starts r .kill hstarts)
      exact ⟨.error why, h', hrun, hstarts', rfl, fun _ => hdisk⟩
  | false =>
      have hcollect := collectInTime_of_ends hhangs h
      have hcollected := collectInTime_starts r h hstarts
      rw [hcollect] at hcollected
      have hdisk : r.program.files = [] → (h.putFiles r.program.files).disk = h.disk := by
        intro hnone
        rw [hnone]
        rfl
      rw [Act.bind_of_ok hcollect]
      dsimp only
      split
      · next hbad =>
          have hname : nameBy? r.last r.program = none := by
            refine if_neg fun hgood => ?_
            obtain ⟨-, -, hcode, hsaid⟩ := hgood
            have hnothing : Text.trim (textOf r.stdout) = [] := by simpa [hcode] using hbad
            exact hsaid hnothing
          rw [hname]
          obtain ⟨why, h', hrun, hstarts', hsame⟩ := untranslated_starts r.last _ hcollected
          exact ⟨.error why, h', hrun, hstarts', rfl, fun hnone => hsame.trans (hdisk hnone)⟩
      · next hgood =>
          have hname : nameBy? r.last r.program = some (answerOf r.last r.program) := by
            obtain ⟨hcode, hsaid⟩ : r.program.code.getD 0 = 0 ∧ Text.trim (textOf r.stdout) ≠ [] := by
              simpa using hgood
            exact if_pos ⟨herror, hhangs, hcode, hsaid⟩
          rw [hname]
          exact ⟨.ok _, _, rfl, hcollected, rfl, hdisk⟩

/-- **Translating a path.**  If Wine can be asked, one process is started, and the answer is the name
that it tells; otherwise none is started and there is no name. -/
theorem translate_spec {w : Wine} {path : Text} (hask : w.MayAsk path h) :
    ∃ started answer h', w.translate path h = (.ok answer, h') ∧ Starts started [] h h' ∧
      started.map (·.command) = w.queries path ∧ answer.toOption = nameFor? path h.programs ∧
      ((∀ p ∈ h.programs.head?, p.files = []) → h'.disk = h.disk) := by
  unfold Wine.queries nameFor?
  cases hpath : isTranslatable path with
  | false =>
      obtain ⟨why, hnone⟩ := translate_of_not w hpath
      rw [hnone]
      exact ⟨[], .error why, h, rfl, .refl h, rfl, rfl, fun _ => rfl⟩
  | true =>
      have hstarts := hostAfter_starts (w.query path) w.environment h
      rw [translate_eq w hpath, Act.bind_of_ok (start_of_taken (hask hpath))]
      unfold launched
      cases hprograms : h.programs with
      | nil =>
          obtain ⟨why, h', hrun, hstarts', hdisk⟩ := untranslated_starts path _ hstarts
          exact ⟨_, .error why, h', hrun, hstarts', rfl, rfl, fun _ => hdisk⟩
      | cons p rest =>
          dsimp only
          cases herror : p.error with
          | some e =>
              have hname : nameBy? path p = none := if_neg (by simp [herror])
              obtain ⟨why, h', hrun, hstarts', hdisk⟩ := untranslated_starts path _ hstarts
              exact ⟨_, .error why, h', hrun, hstarts', rfl, hname.symm, fun _ => hdisk⟩
          | none =>
              obtain ⟨answer, h', hrun, hstarts', hname, hdisk⟩ := hear_running
                (r := ⟨p, h.spawns.length, path⟩) rfl herror hstarts
              exact ⟨_, answer, h', hrun, hstarts', rfl, hname, fun hfiles => hdisk (hfiles p rfl)⟩

theorem translate_of_refused {w : Wine} {path : Text} (hask : ¬ w.MayAsk path h) :
    w.translate path h =
        (.error (.refused .nullInCommand), hostAfter (w.query path) w.environment h) ∧
      w.queries path = [w.query path] := by
  obtain ⟨hpath, hrefused⟩ := Wine.not_mayAsk_iff.mp hask
  refine ⟨?_, if_pos hpath⟩
  rw [translate_eq w hpath]
  exact Act.bind_of_error _ (start_of_refused hrefused)

/-! ### The script -/

end MetaDesk.Launch
