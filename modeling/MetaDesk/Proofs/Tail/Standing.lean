import MetaDesk.Proofs.Tail.Telling

/-! # What the parts of a tailer keep

`Stands tailing Q t h` says that the tailer is tailing or not, that its watch, if one is alive, is
on the file of its session, and that `Q` holds of its clock and the host.  Making and beginning a
watch, emptying the log, looking, polling and settling keep it. -/

namespace MetaDesk.Tail

variable {t t' : Tailer} {s s' : Session} {h h' : Host} {tailing : Bool} {Q : Clock → Host → Prop}

/-- A watch is alive only while the tailer is tailing, and is on the file of the session. -/
def Tailer.WatchesSession (t : Tailer) : Prop :=
  ∀ w, t.watch = some w → t.isTailing = true ∧ t.session.map Session.file = some w.file

/-- Where a tailer stands: tailing or not, with its watch as it should be, and with `Q` of its clock
and the host. -/
structure Stands (tailing : Bool) (Q : Clock → Host → Prop) (t : Tailer) (h : Host) : Prop where
  isTailing_eq : t.isTailing = tailing
  watches : t.WatchesSession
  rest : Q t.clock h

/-- Notes that are written on the host do not matter. -/
def AllowsNotes (Q : Clock → Host → Prop) : Prop := ∀ c h h', Adds h 0 0 h' → Q c h → Q c h'

namespace Stands

theorem lift {α : Type} {act : Act α} (hQ : AllowsNotes Q) (hact : IsPlain act) :
    ActOn.Keeps (Stands tailing Q) (monadLift act) := fun t h hst =>
  ⟨hst.isTailing_eq, hst.watches, hQ t.clock h _ (hact h) hst.rest⟩

theorem showLine {line : Text} (hQ : AllowsNotes Q) (hnote : IsNote line) :
    ActOn.Keeps (Stands tailing Q) (showLine line) := lift hQ (IsPlain.display hnote)

theorem unwatched (hst : Stands tailing Q t h) (hwatch : t'.watch = none)
    (htailing : t'.isTailing = t.isTailing) (hclock : t'.clock = t.clock) :
    Stands tailing Q t' h := by
  refine ⟨htailing.trans hst.isTailing_eq, ?_, hclock ▸ hst.rest⟩
  intro w hw
  rw [hwatch] at hw
  cases hw

theorem watch_eq_none (hst : Stands false Q t h) : t.watch = none := by
  cases hwatch : t.watch with
  | none => rfl
  | some w =>
      obtain ⟨htailing, -⟩ := hst.watches w hwatch
      rw [hst.isTailing_eq] at htailing
      cases htailing

theorem rewatch {w w' : Watch} (hst : Stands tailing Q t h) (hw : t.watch = some w)
    (hfile : w'.file = w.file) : Stands tailing Q { t with watch := some w' } h := by
  refine ⟨hst.isTailing_eq, ?_, hst.rest⟩
  rintro _ ⟨⟩
  rw [hfile]
  exact hst.watches w hw

theorem resume {next : Option Session} (hst : Stands tailing Q t h)
    (hfile : next.map Session.file = t.session.map Session.file) :
    Stands tailing Q { t with session := next } h := by
  refine ⟨hst.isTailing_eq, ?_, hst.rest⟩
  intro w hw
  obtain ⟨htailing, hfile'⟩ := hst.watches w hw
  exact ⟨htailing, hfile.trans hfile'⟩

end Stands

/-! ### Watches -/

/-- All that letting a watch begin can do. -/
theorem beginWatch_cases (t : Tailer) (h : Host) :
    Adds h 0 0 (beginWatch t h).2 ∧ ((beginWatch t h).1.2 = t ∨
      (beginWatch t h).1.2 = { t with watch := none } ∨
      ∃ w, t.watch = some w ∧
        (beginWatch t h).1.2 = { t with watch := some { file := w.file, hasBegun := true } }) := by
  unfold beginWatch
  rw [ActOn.bind_of_ok (ActOn.getThe_apply t h)]
  rcases hwatch : t.watch with _ | ⟨file, _ | _, told⟩
  · exact ⟨Adds.refl h, Or.inl rfl⟩
  · obtain ⟨course, h₁, hrun, houtput⟩ : ∃ course h₁, Act.watch file h = (.ok course, h₁) ∧
        h₁.output = h.output := ⟨_, _, rfl, rfl⟩
    have hadds : Adds h 0 0 h₁ := ⟨[], by rw [houtput, List.append_nil], rfl, rfl⟩
    dsimp only
    rw [ActOn.bind_lift_of_ok hrun]
    cases course with
    | tells => exact ⟨hadds, Or.inr (Or.inr ⟨_, rfl, rfl⟩)⟩
    | ends => exact ⟨hadds, Or.inr (Or.inl rfl)⟩
    | fails why =>
        dsimp only
        rw [ActOn.bind_of_ok (change_apply _ t h₁)]
        exact ⟨hadds.trans (IsPlain.report _ _ h₁), Or.inr (Or.inl rfl)⟩
  · exact ⟨Adds.refl h, Or.inl rfl⟩

theorem makeWatch_stands : ActOn.Keeps (Stands true Q) makeWatch := by
  intro t h hst
  obtain ⟨hhost, hsame | ⟨s, hs, hmade⟩⟩ := makeWatch_cases t h
  · rw [hsame, hhost]
    exact hst
  · rw [hmade, hhost]
    refine ⟨hst.isTailing_eq, ?_, hst.rest⟩
    rintro _ ⟨⟩
    exact ⟨hst.isTailing_eq, congrArg (Option.map Session.file) hs⟩

theorem beginWatch_stands (hQ : AllowsNotes Q) : ActOn.Keeps (Stands tailing Q) beginWatch := by
  intro t h hst
  obtain ⟨hadds, hcases⟩ := beginWatch_cases t h
  have hst' : Stands tailing Q t (beginWatch t h).2 :=
    ⟨hst.isTailing_eq, hst.watches, hQ t.clock h _ hadds hst.rest⟩
  rcases hcases with hsame | hgone | ⟨w, hw, hbegun⟩
  · rw [hsame]
    exact hst'
  · rw [hgone]
    exact hst'.unwatched rfl rfl rfl
  · rw [hbegun]
    exact hst'.rewatch hw rfl

theorem clearLog_stands (hQ : AllowsNotes Q) (session : Session) :
    ActOn.Keeps (Stands tailing Q) (clearLog session) := by
  have hput : IsPlain (Act.trySystem (Act.putBytes session.file [])) :=
    (IsPlain.of_keeps_disk fun P hP => Act.Keeps.change (P := P) hP session.file _).trySystem
  unfold clearLog
  refine (Stands.lift hQ hput).bind fun result => ?_
  cases result with
  | error e => exact Stands.lift hQ (IsPlain.display rfl)
  | ok =>
      have hreset : ∀ session : Option Session,
          (session.map Session.reset).map Session.file = session.map Session.file := by
        rintro (_ | session) <;> rfl
      exact (ActOn.Keeps.modifyThe fun t h hst => hst.resume (hreset t.session)).bind fun _ =>
        Stands.showLine hQ rfl

/-! ### Looking -/

theorem check_file {found : Change} (hcheck : s.check h = (.ok (found, s'), h')) :
    s'.file = s.file := by
  cases Session.checks_of_check hcheck <;> rfl

section Clock

variable {C : Clock → Prop}

/-- Whatever happens on the host, the tailer stands as before. -/
theorem Stands.onHost {α : Type} (act : Act α) :
    ActOn.Keeps (Stands tailing fun c _ => C c) (monadLift act) := fun _ _ hst =>
  ⟨hst.isTailing_eq, hst.watches, hst.rest⟩

theorem tailing_of_current (hcurrent : (if t.isTailing then t.session else none) = some s) :
    t.isTailing = true ∧ t.session = some s := by
  split at hcurrent
  · next htailing => exact ⟨htailing, hcurrent⟩
  · cases hcurrent

theorem look_stands : ActOn.Keeps (Stands tailing fun c _ => C c) (look (pure ())) := by
  intro t h hst
  unfold look
  rw [ActOn.bind_of_ok (current?_apply t h)]
  cases hcurrent : if t.isTailing then t.session else none with
  | none => exact hst
  | some session =>
      obtain ⟨-, hs⟩ := tailing_of_current hcurrent
      dsimp only
      rcases htry : Act.trySystem session.check h with ⟨m | e | ⟨found, next⟩, h₁⟩
      · rw [ActOn.bind_lift_of_error htry]
        exact ⟨hst.isTailing_eq, hst.watches, hst.rest⟩
      · rw [ActOn.bind_lift_of_ok htry]
        exact ⟨hst.isTailing_eq, hst.watches, hst.rest⟩
      · have hfile := check_file (Act.trySystem_eq_ok htry)
        have hmeanwhile : systemErrorOf? (pure ()) { t with session := some next } h₁ =
            ((.ok none, { t with session := some next }), h₁) := rfl
        have hst' : Stands tailing (fun c _ => C c) { t with session := some next } h₁ := by
          refine Stands.resume ⟨hst.isTailing_eq, hst.watches, hst.rest⟩ ?_
          rw [hs]
          exact congrArg some hfile
        rw [ActOn.bind_lift_of_ok htry]
        dsimp only
        rw [ActOn.bind_of_ok (ActOn.getThe_apply t h₁), ActOn.bind_of_ok (change_apply _ t h₁),
          ActOn.bind_of_ok hmeanwhile]
        dsimp only
        rw [ActOn.bind_of_ok (ActOn.getThe_apply _ h₁)]
        split
        · rw [tell_apply]
          exact ⟨hst'.isTailing_eq, hst'.watches, hst'.rest⟩
        · exact hst'

/-- Turning to another day watches its journal, if it is there. -/
theorem turnDay_stands (session : Session) :
    ActOn.Keeps (Stands true fun c _ => C c) (turnDay session) := by
  unfold turnDay
  refine ActOn.Keeps.bind (fun _ _ hst => hst) fun host => ?_
  dsimp only
  split
  · exact (Stands.onHost _).bind fun _ =>
      (ActOn.Keeps.modifyThe fun t h hst => hst.unwatched rfl rfl rfl).bind fun _ =>
      makeWatch_stands
  · exact ActOn.Keeps.pure ()

theorem poll_stands : ActOn.Keeps (Stands tailing fun c _ => C c) poll := by
  intro t h hst
  unfold poll
  rw [ActOn.bind_of_ok (current?_apply t h)]
  cases hcurrent : if t.isTailing then t.session else none with
  | none => exact hst
  | some session =>
      obtain rfl : tailing = true :=
        hst.isTailing_eq.symm.trans (tailing_of_current hcurrent).1
      have hlast : ActOn.Keeps (Stands true fun c _ => C c) (do makeWatch; look (pure ())) :=
        makeWatch_stands.bind fun _ => look_stands
      refine (ActOn.Keeps.getThe.bind fun t₁ => ?_) t h hst
      dsimp only
      split
      · exact (turnDay_stands session).bind fun _ => hlast
      · exact hlast

end Clock

/-! ### The background -/

/-- What stands without regard to the clock. -/
abbrev StandsAnyhow (tailing : Bool) : Tailer → Host → Prop := Stands tailing fun _ _ => True

theorem StandsAnyhow.setClock (clock : Tailer → Clock) :
    ActOn.Keeps (StandsAnyhow tailing) (change fun t => { t with clock := clock t }) :=
  ActOn.Keeps.modifyThe fun _ _ hst => ⟨hst.isTailing_eq, hst.watches, trivial⟩

theorem await_stands : ActOn.Keeps (StandsAnyhow tailing) await := by
  unfold await
  refine ActOn.Keeps.getThe.bind fun t => ?_
  split
  · exact (StandsAnyhow.setClock _).bind fun _ => Stands.onHost _
  · exact StandsAnyhow.setClock _

theorem mishapOf?_apply (act : Tailing Unit) (t : Tailer) (h : Host) :
    mishapOf? act t h = match act t h with
      | ((.ok _, t'), h') => ((.ok none, t'), h')
      | ((.error m, t'), h') => ((.ok (some m), t'), h') := by
  simp only [mishapOf?, tryCatch, tryCatchThe, MonadExceptOf.tryCatch, ExceptT.tryCatch, ExceptT.mk,
    bind, StateT.bind, ExceptT.bind, ExceptT.bindCont]
  rcases act t h with ⟨⟨_ | _, _⟩, _⟩ <;> rfl

theorem heedClock_stands : ActOn.Keeps (StandsAnyhow tailing) heedClock := by
  unfold heedClock
  have hpoll : ActOn.Keeps (StandsAnyhow tailing) (mishapOf? poll) := by
    intro t h hst
    have hlast := poll_stands t h hst
    rw [mishapOf?_apply]
    rcases hrun : poll t h with ⟨⟨m | _, t'⟩, h'⟩ <;> rw [hrun] at hlast <;> exact hlast
  refine hpoll.bind fun result => ?_
  cases result with
  | none => exact await_stands
  | some m => exact StandsAnyhow.setClock _

theorem looks_stand (l : List ℕ) : ActOn.Keeps (StandsAnyhow tailing)
    (forIn l PUnit.unit fun _ _ => do
      look (pure ())
      return ForInStep.yield PUnit.unit) := by
  induction l with
  | nil => exact ActOn.Keeps.pure _
  | cons n l ih =>
      rw [List.forIn_cons]
      refine (look_stands.bind fun _ => ActOn.Keeps.pure _).bind fun step => ?_
      cases step with
      | done _ => exact ActOn.Keeps.pure _
      | yield _ => exact ih

theorem heedWatch_stands : ActOn.Keeps (StandsAnyhow tailing) heedWatch := by
  intro t h hst
  unfold heedWatch
  rw [ActOn.bind_of_ok (ActOn.getThe_apply t h)]
  cases hwatch : t.watch with
  | none => exact hst
  | some w =>
      dsimp only
      rw [ActOn.bind_of_ok (change_apply _ t h)]
      have hlooks : ActOn.Keeps (StandsAnyhow tailing) (do for _ in List.range w.told do
          look (pure ())) := (looks_stand _).bind fun _ => ActOn.Keeps.pure ()
      exact hlooks _ h (hst.rewatch hwatch rfl)

theorem beginMade_stands : ActOn.Keeps (StandsAnyhow tailing) beginMade := by
  unfold beginMade
  refine (beginWatch_stands fun _ _ _ _ _ => trivial).bind fun _ => ?_
  refine ActOn.Keeps.getThe.bind fun t => ?_
  split
  · exact await_stands
  · exact ActOn.Keeps.pure ()

theorem heed_stands : ActOn.Keeps (StandsAnyhow tailing) heed := by
  unfold heed
  refine ActOn.Keeps.getThe.bind fun t => ?_
  split
  · exact heedWatch_stands.bind fun _ => heedClock_stands
  · exact heedClock_stands.bind fun _ => heedWatch_stands
  · exact heedWatch_stands

/-- Letting begin what was made and heeding what was told neither starts nor stops the tailer. -/
theorem settle_stands : ActOn.Keeps (StandsAnyhow tailing) settle := by
  unfold settle
  exact beginMade_stands.bind fun _ => heed_stands.bind fun _ => beginMade_stands

/-- A change that the watch tells of leaves it on its file. -/
theorem notify_stands : ActOn.Keeps (Stands tailing Q) notify := by
  refine ActOn.Keeps.modifyThe fun t h hst => ?_
  cases hwatch : t.watch with
  | none => exact hst.unwatched rfl rfl rfl
  | some w =>
      refine hst.rewatch hwatch ?_
      dsimp only
      split <;> rfl

theorem tick_stands : ActOn.Keeps (StandsAnyhow tailing) tick := by
  refine ActOn.Keeps.modifyThe fun t h hst => ?_
  split
  · exact ⟨hst.isTailing_eq, hst.watches, trivial⟩
  · exact hst

end MetaDesk.Tail
