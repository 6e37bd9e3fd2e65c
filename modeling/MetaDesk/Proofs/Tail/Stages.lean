import MetaDesk.Proofs.Tail.Standing

/-! # What a stop and a start lead to

A call that stops or starts a tailer goes through stages: `Stage before clock ended tailing t h`
says where the tailer stands and what was written since the call began, one banner if the tailer is
tailing by now, and `ended` markers.  A stop leads to the stage of an idle tailer (`stop_leads`).
A start goes on from there, and whichever of its ways it takes, it ends as a tailer that is tailing
or as one that is not, and says which (`start_leads`). -/

namespace MetaDesk.Tail

variable {t t' : Tailer} {session : Session} {h h' before : Host} {clock : Clock} {ended : ℕ}

/-! ### A stop -/

/-- A stroke of the clock has ended with a mishap. -/
def Clock.isBroken : Clock → Bool
  | .broken _ => true
  | _ => false

theorem stop_of_sound (hclock : t.clock.isBroken = false) :
    stop t h = ((.ok (), { t with isTailing := false, watch := none, clock := .off }),
      if t.isTailing then h.shows (stopMarker ++ ['\n']) else h) := by
  have hlast : ∀ t₁ : Tailer, (do
      change fun t => { t with clock := .off }
      if t.isTailing then showLine stopMarker : Tailing Unit) t₁ h =
        ((.ok (), { t₁ with clock := .off }),
          if t.isTailing then h.shows (stopMarker ++ ['\n']) else h) := by
    intro t₁
    rw [ActOn.bind_of_ok (change_apply _ t₁ h)]
    split <;> rfl
  unfold stop
  rw [ActOn.bind_of_ok (ActOn.getThe_apply t h), ActOn.bind_of_ok (change_apply _ t h)]
  cases hbefore : t.clock with
  | broken m =>
      rw [hbefore] at hclock
      cases hclock
  | off => exact hlast _
  | made => exact hlast _
  | ticking => exact hlast _
  | struck late => exact hlast _

theorem stop_of_broken {m : Mishap} (hclock : t.clock = .broken m) :
    stop t h = ((.error m, { t with isTailing := false, watch := none }), h) := by
  unfold stop
  rw [ActOn.bind_of_ok (ActOn.getThe_apply t h), ActOn.bind_of_ok (change_apply _ t h), hclock]
  rfl

/-- How many markers a stop writes. -/
def Tailer.endings (t : Tailer) : ℕ := (t.isTailing && !t.clock.isBroken).toNat

/-! ### Stages -/

/-- What a call has written that began at `before` when the clock was `clock`: a banner if the
tailer is tailing, and so many markers.  The clock is as it was, or sound. -/
structure Written (before : Host) (clock : Clock) (ended : ℕ) (tailing : Bool) (c : Clock)
    (h : Host) : Prop where
  adds : Adds before tailing.toNat ended h
  clock_eq : c = clock ∨ c.isBroken = false

theorem Written.allowsNotes {tailing : Bool} : AllowsNotes (Written before clock ended tailing) :=
  fun _ _ _ hnotes hwritten => ⟨hwritten.adds.trans hnotes, hwritten.clock_eq⟩

/-- Where such a call stands. -/
abbrev Stage (before : Host) (clock : Clock) (ended : ℕ) (tailing : Bool) : Tailer → Host → Prop :=
  Stands tailing (Written before clock ended tailing)

/-- A stop leads to an idle tailer, whether it tells the end or not. -/
theorem stop_leads (t : Tailer) (h : Host) :
    ActOn.Leads (fun t₁ h₁ => t₁ = t ∧ h₁ = h) (fun _ => Stage h t.clock t.endings false) stop := by
  rintro t h ⟨rfl, rfl⟩
  cases hbroken : t.clock.isBroken with
  | false =>
      rw [stop_of_sound hbroken]
      refine ⟨rfl, by rintro _ ⟨⟩, ?_, Or.inr rfl⟩
      unfold Tailer.endings
      rw [hbroken]
      cases t.isTailing with
      | false => exact Adds.refl h
      | true => exact Adds.marker h
  | true =>
      obtain ⟨m, hm⟩ : ∃ m, t.clock = .broken m := by
        cases hclock : t.clock with
        | broken m => exact ⟨m, rfl⟩
        | _ =>
          rw [hclock] at hbroken
          cases hbroken
      rw [stop_of_broken hm]
      refine ⟨rfl, by rintro _ ⟨⟩, ?_, Or.inl rfl⟩
      unfold Tailer.endings
      rw [hbroken, Bool.not_true, Bool.and_false]
      exact Adds.refl h

/-- The end of a call that says whether the tailer is tailing. -/
def SaysSo (before : Host) (clock : Clock) (ended : ℕ) (r : Except Mishap Bool) (t : Tailer)
    (h : Host) : Prop :=
  Stage before clock ended t.isTailing t h ∧ ∀ b, r = .ok b → b = t.isTailing

theorem Stage.self {tailing : Bool} (hstage : Stage before clock ended tailing t h) :
    Stage before clock ended t.isTailing t h := by
  obtain rfl := hstage.isTailing_eq
  exact hstage

theorem Stage.saysSo {tailing : Bool} {r : Except Mishap Bool}
    (hstage : Stage before clock ended tailing t h) (hr : ∀ b, r = .ok b → b = tailing) :
    SaysSo before clock ended r t h :=
  ⟨hstage.self, fun b hb => (hr b hb).trans hstage.isTailing_eq.symm⟩

/-! ### A start -/

theorem showLine_note {line : Text} (hnote : IsNote line) (t : Tailer) (h : Host) :
    ∃ h', showLine line t h = ((.ok (), t), h') ∧ Adds h 0 0 h' :=
  ⟨_, showLine_apply line t h, Adds.note hnote h⟩

theorem announce_adds (session : Session) (t : Tailer) (h : Host) :
    ∃ h', announce session t h = ((.ok (), t), h') ∧ Adds h 1 0 h' := by
  have hmode : IsNote ("[Info] Mode: " ++ Text.upper session.mode.name) := rfl
  have hfile : IsNote ("[Info] Tailing: " ++ session.file.text) := rfl
  have hrun : showLine ("--- Starting " ++ titleOf session.mode ++ " Tail ---") t h =
      ((.ok (), t), h.shows (bannerOf session.mode)) := showLine_apply _ t h
  obtain ⟨h₁, hrun₁, hadds₁⟩ := showLine_note hmode t (h.shows (bannerOf session.mode))
  obtain ⟨h₂, hrun₂, hadds₂⟩ := showLine_note hfile t h₁
  have hadds : Adds h 1 0 h₂ := ((Adds.banner h session.mode).trans hadds₁).trans hadds₂
  unfold announce
  rw [ActOn.bind_of_ok hrun, ActOn.bind_of_ok hrun₁, ActOn.bind_of_ok hrun₂]
  split
  · have hprint : IsNote
        "[Info] For real-time logs, use PrintLive() instead of Print() in your EA" := rfl
    have hinclude : IsNote ("[Info] Add: #include <" ++ libraryName ++ ">") := rfl
    obtain ⟨h₃, hrun₃, hadds₃⟩ := showLine_note hprint t h₂
    obtain ⟨h₄, hrun₄, hadds₄⟩ := showLine_note hinclude t h₃
    rw [ActOn.bind_of_ok hrun₃]
    exact ⟨h₄, hrun₄, (hadds.trans hadds₃).trans hadds₄⟩
  · exact ⟨h₂, rfl, hadds⟩

theorem isThere_stage {tailing : Bool} (p : Path) : ActOn.Keeps (Stage before clock ended tailing)
    (monadLift (Act.pathExists p)) :=
  Stands.lift Written.allowsNotes (IsPlain.of_keeps fun _ => Act.Keeps.pathExists p)

/-- Following a session makes a tailer that is tailing, with one banner more. -/
theorem follow_leads (session : Session) :
    ActOn.Leads (Stage before clock ended false) (fun _ => Stage before clock ended true)
      (follow session) := by
  intro t h hst
  obtain ⟨h₁, hannounce, hadds⟩ := announce_adds session { t with
    mode := some session.mode, session := some session, sessions := t.sessions + 1 } h
  have hnote : ∀ message, IsNote (Failure.warningLine message) := fun _ => rfl
  have hfinish := fun message => finish_keeps (P := Stage before clock ended true) session message
    (isThere_stage session.file)
    (Stands.lift Written.allowsNotes (IsPlain.display (hnote message))) makeWatch_stands
    (ActOn.Keeps.modifyThe fun _ _ hst =>
      ⟨hst.isTailing_eq, hst.watches, hst.rest.adds, Or.inr rfl⟩)
  unfold follow
  rw [ActOn.bind_of_ok (change_apply _ t h), ActOn.bind_of_ok hannounce,
    ActOn.bind_of_ok (change_apply _ _ h₁)]
  dsimp only
  refine ActOn.Keeps.bind (P := Stage before clock ended true) (isThere_stage session.file)
    (fun isThere => ?_) _ h₁ ⟨rfl, ?_, ?_, hst.rest.clock_eq⟩
  · split
    · exact makeWatch_stands.bind fun _ => (beginWatch_stands Written.allowsNotes).bind fun _ =>
        (clearLog_stands Written.allowsNotes session).bind fun _ => hfinish _
    · exact hfinish _
  · intro w hw
    cases hst.watch_eq_none.symm.trans hw
  · exact hst.rest.adds.trans hadds

/-- The library is there, or is deployed, or is done without, and the tailer is still idle. -/
theorem withLibrary_stage {s : Setup} (hs : s.IsPlain) (base : Path) :
    ActOn.Keeps (Stage before clock ended false) (withLibrary s base) := by
  unfold withLibrary
  refine (isThere_stage _).bind fun isThere => ?_
  split
  · exact ActOn.Keeps.pure _
  · refine (Stands.lift Written.allowsNotes (hs.ask _)).bind fun choice => ?_
    cases choice with
    | install =>
        refine (Stands.lift Written.allowsNotes (s.library.deploy_isPlain base)).bind
          fun deployed => ?_
        split
        · exact ActOn.Keeps.pure none
        · have hnote : IsNote ("[Info] " ++ libraryName ++ " installed. Add `#include <"
              ++ libraryName ++ ">` to your EA and use PrintLive() for real-time output.") := rfl
          exact (Stands.showLine Written.allowsNotes hnote).bind fun _ => ActOn.Keeps.pure _
    | useStandard =>
        exact (ActOn.Keeps.modifyThe fun t h hst =>
          ⟨hst.isTailing_eq, hst.watches, hst.rest⟩).bind fun _ => ActOn.Keeps.pure _
    | cancel => exact ActOn.Keeps.pure none

/-- From where the tailer is idle on, the rest of a call says whether it is tailing in the end. -/
abbrev Answers (before : Host) (clock : Clock) (ended : ℕ) (act : Tailing Bool) : Prop :=
  ActOn.Leads (Stage before clock ended false) (SaysSo before clock ended) act

theorem Stage.saysSo_of_error (m : Mishap) (t : Tailer) (h : Host)
    (hst : Stage before clock ended false t h) : SaysSo before clock ended (.error m) t h :=
  hst.saysSo (by rintro b ⟨⟩)

theorem giveUp_answers : Answers before clock ended (pure false) := by
  refine ActOn.Leads.pure fun t h hst => hst.saysSo ?_
  rintro b ⟨⟩
  rfl

theorem plain_answers {α : Type} {act : Act α} {next : α → Tailing Bool} (hact : IsPlain act)
    (hnext : ∀ a, Answers before clock ended (next a)) :
    Answers before clock ended (monadLift act >>= next) :=
  ActOn.Leads.bind_keeps (Stands.lift Written.allowsNotes hact) Stage.saysSo_of_error hnext

theorem change_answers {f : Tailer → Tailer} {next : Unit → Tailing Bool}
    (hf : ∀ t h, Stage before clock ended false t h → Stage before clock ended false (f t) h)
    (hnext : Answers before clock ended (next ())) :
    Answers before clock ended (change f >>= next) :=
  ActOn.Leads.bind_keeps (ActOn.Keeps.modifyThe hf) Stage.saysSo_of_error fun _ => hnext

theorem orReport_answers {α : Type} {act : Act α} {next : α → Tailing Bool} (hact : IsPlain act)
    (hnext : ∀ a, Answers before clock ended (next a)) :
    Answers before clock ended (orReport act next) := by
  unfold orReport
  refine plain_answers hact.tryConfigured fun result => ?_
  cases result with
  | ok a => exact hnext a
  | error f => exact plain_answers (IsPlain.report f _) fun _ => giveUp_answers

/-- A session that is opened is followed, and then the tailer is tailing and says so. -/
theorem openAndFollow_answers (base : Path) (mode : TailMode) (f : Flavor) :
    Answers before clock ended (orReport (openSession base mode f) fun session => do
      follow session
      return true) := by
  refine orReport_answers (openSession_isPlain base mode f) fun session => ?_
  refine (follow_leads session).bind (fun m t h hst => hst.saysSo (by rintro b ⟨⟩)) fun _ => ?_
  refine ActOn.Leads.pure fun t h hst => hst.saysSo ?_
  rintro b ⟨⟩
  rfl

theorem Stage.of_idle (hidle : t.isTailing = false) (hwatches : t.WatchesSession) (h : Host) :
    Stage h t.clock t.endings false t h := by
  refine ⟨hidle, hwatches, ?_, Or.inl rfl⟩
  unfold Tailer.endings
  rw [hidle]
  exact Adds.refl h

/-- **What a start does.**  It ends the session before, if there is one, and whichever way it takes
then, it says whether the tailer is tailing, and has written a banner if it is. -/
theorem start_leads {s : Setup} (hs : s.IsPlain) (asked : Option TailMode)
    (hwatches : t.WatchesSession) :
    ActOn.Leads (fun t₁ h₁ => t₁ = t ∧ h₁ = h) (SaysSo h t.clock t.endings) (start s asked) := by
  unfold start
  refine ActOn.Leads.bind (R := fun r t₁ h₁ => r = .ok t ∧ t₁ = t ∧ h₁ = h)
    (by rintro t₁ h₁ ⟨rfl, rfl⟩; exact ⟨rfl, rfl, rfl⟩) (by rintro m t₁ h₁ ⟨⟨⟩, -⟩) fun now => ?_
  extract_lets afterStop
  have hafterStop : Answers h t.clock t.endings (afterStop ()) := by
    refine plain_answers hs.settings fun settings => ?_
    extract_lets afterAsked
    have hafterAsked : Answers h t.clock t.endings (afterAsked ()) := by
      refine ActOn.Leads.bind_keeps ActOn.Keeps.getThe Stage.saysSo_of_error fun t₁ => ?_
      refine change_answers (fun _ _ hst => ⟨hst.isTailing_eq, hst.watches, hst.rest⟩) ?_
      refine plain_answers hs.detect fun detected => ?_
      refine change_answers (fun _ _ hst => ⟨hst.isTailing_eq, hst.watches, hst.rest⟩) ?_
      refine orReport_answers (resolveBase_isPlain hs _ _) fun base => ?_
      refine change_answers (fun _ _ hst => ⟨hst.isTailing_eq, hst.watches, hst.rest⟩) ?_
      refine ActOn.Leads.bind_keeps ?_ Stage.saysSo_of_error fun mode? => ?_
      · split
        · exact withLibrary_stage hs base
        · exact ActOn.Keeps.pure _
      · cases mode? with
        | none => exact giveUp_answers
        | some mode => exact openAndFollow_answers base mode _
    split
    · exact change_answers (fun _ _ hst => ⟨hst.isTailing_eq, hst.watches, hst.rest⟩) hafterAsked
    · exact hafterAsked
  rintro t h ⟨hnow, rfl, rfl⟩
  obtain rfl : t = now := (Except.ok.inj hnow).symm
  split
  · exact ActOn.Leads.bind (stop_leads t h) Stage.saysSo_of_error (fun _ => hafterStop) t h
      ⟨rfl, rfl⟩
  · next hidle =>
      exact hafterStop t h (Stage.of_idle (eq_false_of_ne_true hidle) hwatches h)

/-- Toggling stops a tailer that is tailing and starts one that is idle. -/
theorem toggle_leads {s : Setup} (hs : s.IsPlain) (hwatches : t.WatchesSession) :
    ActOn.Leads (fun t₁ h₁ => t₁ = t ∧ h₁ = h) (SaysSo h t.clock t.endings) (toggle s) := by
  rintro t h ⟨rfl, rfl⟩
  unfold toggle
  rw [ActOn.bind_of_ok (ActOn.getThe_apply t h)]
  split
  · exact ActOn.Leads.bind (stop_leads t h) Stage.saysSo_of_error (fun _ => giveUp_answers) t h
      ⟨rfl, rfl⟩
  · exact start_leads hs none hwatches t h ⟨rfl, rfl⟩

end MetaDesk.Tail
