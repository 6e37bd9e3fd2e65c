import MetaDesk.Proofs.Tail.Looking
import MetaDesk.Tail.Start

/-! # The session that a tailer starts with

A tailer that has started follows a session whose decoder is new: a live log from its start, which
was emptied if that was possible, and a journal from its end (`start_eq_true`). -/

namespace MetaDesk.Tail

variable {t t' : Tailer} {session : Session} {h h' : Host}

theorem sizeOf?_keeps {P : Host → Prop} (p : Path) : Act.Keeps P (Session.sizeOf? p) := by
  unfold Session.sizeOf?
  refine (Act.Keeps.ask p _).trySystem.bind fun result => ?_
  cases result with
  | ok n => exact Act.Keeps.pure _
  | error e =>
      dsimp only
      split
      · exact Act.Keeps.pure _
      · exact Act.Keeps.throw _

theorem display_keeps {P : Host → Prop} (hP : ∀ h o, P h → P { h with output := o })
    (f : Output → Output) : Act.Keeps P (Act.display f) := fun h hh => hP h _ hh

theorem showLine_keeps {P : Tailer → Host → Prop}
    (hP : ∀ t h o, P t h → P t { h with output := o }) (line : Text) :
    ActOn.Keeps P (showLine line) :=
  ActOn.Keeps.lift fun t => display_keeps (hP t) _

theorem announce_keeps {P : Tailer → Host → Prop}
    (hP : ∀ t h o, P t h → P t { h with output := o }) (session : Session) :
    ActOn.Keeps P (announce session) := by
  have hshow := fun line => showLine_keeps hP line
  unfold announce
  refine (hshow _).bind fun _ => (hshow _).bind fun _ => (hshow _).bind fun _ => ?_
  split
  · exact (hshow _).bind fun _ => hshow _
  · exact ActOn.Keeps.pure _

/-- All that making a watch can do. -/
theorem makeWatch_cases (t : Tailer) (h : Host) :
    (makeWatch t h).2 = h ∧ ((makeWatch t h).1.2 = t ∨
      ∃ s, t.session = some s ∧
        (makeWatch t h).1.2 = { t with watch := some { file := s.file } }) := by
  unfold makeWatch
  rw [ActOn.bind_of_ok (ActOn.getThe_apply t h)]
  cases hwatch : t.watch with
  | some w => exact ⟨rfl, Or.inl rfl⟩
  | none =>
      cases hsession : t.session with
      | none => exact ⟨rfl, Or.inl rfl⟩
      | some s =>
          have hhost := Act.host_eq (fun _ => Act.Keeps.pathExists s.file) h
          dsimp only
          rcases hthere : Act.pathExists s.file h with ⟨m | isThere, h₁⟩ <;>
            rw [hthere] at hhost <;> obtain rfl : h₁ = h := hhost
          · rw [ActOn.bind_lift_of_error hthere]
            exact ⟨rfl, Or.inl rfl⟩
          · rw [ActOn.bind_lift_of_ok hthere]
            cases isThere with
            | false => exact ⟨rfl, Or.inl rfl⟩
            | true =>
                refine ⟨rfl, Or.inr ⟨s, rfl, ?_⟩⟩
                rw [← hsession]
                rfl

theorem makeWatch_keeps {P : Tailer → Host → Prop}
    (hP : ∀ t h watch, P t h → P { t with watch := watch } h) : ActOn.Keeps P makeWatch := by
  intro t h ht
  obtain ⟨hhost, hsame | ⟨s, -, hmade⟩⟩ := makeWatch_cases t h
  · rw [hsame, hhost]
    exact ht
  · rw [hmade, hhost]
    exact hP t h _ ht

theorem beginWatch_keeps {P : Tailer → Host → Prop}
    (hP : ∀ t h watch h', P t h → P { t with watch := watch } h') : ActOn.Keeps P beginWatch := by
  have hset : ∀ watch, ActOn.Keeps P (change fun t => { t with watch := watch }) :=
    fun watch => ActOn.Keeps.modifyThe fun t h ht => hP t h _ h ht
  have hhost : ∀ {α : Type} (act : Act α), ActOn.Keeps P (monadLift act) :=
    fun act => ActOn.Keeps.lift fun t h ht => hP t h t.watch _ ht
  unfold beginWatch
  refine ActOn.Keeps.getThe.bind fun t => ?_
  split
  · refine (hhost _).bind fun course => ?_
    cases course with
    | tells => exact hset _
    | ends => exact hset _
    | fails why => exact (hset _).bind fun _ => hhost _
  · exact ActOn.Keeps.pure _

theorem clearLog_keeps {P : Tailer → Host → Prop}
    (hreset : ∀ t h, P t h → P { t with session := t.session.map Session.reset } h)
    (hhost : ∀ t h h', P t h → P t h') (session : Session) : ActOn.Keeps P (clearLog session) := by
  have hact : ∀ {α : Type} (act : Act α), ActOn.Keeps P (monadLift act) :=
    fun act => ActOn.Keeps.lift fun t h ht => hhost t h _ ht
  unfold clearLog
  refine (hact _).bind fun result => ?_
  cases result with
  | ok => exact (ActOn.Keeps.modifyThe hreset).bind fun _ => hact _
  | error e => exact hact _

/-- The last part of a start: look whether the log is there, watch it, and make the clock. -/
theorem finish_keeps {P : Tailer → Host → Prop} (session : Session) (message : Text)
    (hthere : ActOn.Keeps P (monadLift (Act.pathExists session.file)))
    (hwarn : ActOn.Keeps P (monadLift (Act.display fun o => o.warning message)))
    (hwatch : ActOn.Keeps P makeWatch)
    (hclock : ActOn.Keeps P (change fun t => { t with clock := .made })) :
    ActOn.Keeps P (do
      let isThere ← (Act.pathExists session.file : Act Bool)
      if !isThere then
        (Act.display fun o => o.warning message : Act Unit)
        makeWatch
        change fun t => { t with clock := .made }
      else
        makeWatch
        change fun t => { t with clock := .made }) := by
  refine hthere.bind fun isThere => ?_
  split
  · exact hwarn.bind fun _ => hwatch.bind fun _ => hclock
  · exact hwatch.bind fun _ => hclock

theorem follow_eq_ok (hrun : follow session t h = ((.ok (), t'), h')) :
    t'.isTailing = true ∧ t'.mode = some session.mode ∧
      (session.mode = .live ∧ (t'.session = some session ∨ t'.session = some session.reset) ∨
        t'.session = some session ∧ h'.disk = h.disk ∧ h'.here = h.here) := by
  unfold follow at hrun
  rw [ActOn.bind_of_ok (change_apply _ _ _)] at hrun
  obtain ⟨_, t₁, h₁, hannounce, hrest⟩ := ActOn.bind_eq_ok hrun
  obtain ⟨ht₁, hdisk, hhere⟩ : t₁ = _ ∧ h₁.disk = h.disk ∧ h₁.here = h.here :=
    (announce_keeps (P := fun t₁ h₁ => t₁ = _ ∧ h₁.disk = h.disk ∧ h₁.here = h.here)
      (fun _ _ _ hP => hP) session).of_run ⟨rfl, rfl, rfl⟩ hannounce
  rw [ActOn.bind_of_ok (change_apply _ _ _)] at hrest
  dsimp only at hrest
  by_cases hmode : session.mode = .live
  · let P : Tailer → Host → Prop := fun t₂ _ => t₂.isTailing = true ∧
      t₂.mode = some session.mode ∧ (t₂.session = some session ∨ t₂.session = some session.reset)
    have hfinish := fun message => finish_keeps (P := P) session message
      (ActOn.Keeps.lift fun _ => Act.Keeps.pathExists _)
      (ActOn.Keeps.lift fun _ => display_keeps (fun _ _ hP => hP) _)
      (makeWatch_keeps fun _ _ _ hP => hP) (ActOn.Keeps.modifyThe fun _ _ hP => hP)
    have hreset : ∀ t h, P t h → P { t with session := t.session.map Session.reset } h := by
      rintro t₂ _ ⟨htailing, hmode₂, hs | hs⟩
      · exact ⟨htailing, hmode₂, Or.inr (by rw [hs]; rfl)⟩
      · exact ⟨htailing, hmode₂, Or.inr (by rw [hs]; rfl)⟩
    have hlast : P t' h' := by
      refine ActOn.Keeps.of_run ?_ ?_ hrest
      · refine (ActOn.Keeps.lift fun _ => Act.Keeps.pathExists _).bind fun isThere => ?_
        split
        · exact (makeWatch_keeps fun _ _ _ hP => hP).bind fun _ =>
            (beginWatch_keeps fun _ _ _ _ hP => hP).bind fun _ =>
            (clearLog_keeps hreset (fun _ _ _ hP => hP) session).bind fun _ => hfinish _
        · exact hfinish _
      · rw [ht₁]
        exact ⟨rfl, rfl, Or.inl rfl⟩
    exact ⟨hlast.1, hlast.2.1, Or.inl ⟨hmode, hlast.2.2⟩⟩
  · let P : Tailer → Host → Prop := fun t₂ h₂ => t₂.isTailing = true ∧
      t₂.mode = some session.mode ∧ t₂.session = some session ∧ h₂.disk = h.disk ∧ h₂.here = h.here
    have hfinish := fun message => finish_keeps (P := P) session message
      (ActOn.Keeps.lift fun _ => Act.Keeps.pathExists _)
      (ActOn.Keeps.lift fun _ => display_keeps (fun _ _ hP => hP) _)
      (makeWatch_keeps fun _ _ _ hP => hP) (ActOn.Keeps.modifyThe fun _ _ hP => hP)
    have hlast : P t' h' := by
      refine ActOn.Keeps.of_run ?_ ?_ hrest
      · refine (ActOn.Keeps.lift fun _ => Act.Keeps.pathExists _).bind fun isThere => ?_
        rw [if_neg (by simp [hmode])]
        exact hfinish _
      · rw [ht₁]
        exact ⟨rfl, rfl, rfl, hdisk, hhere⟩
    exact ⟨hlast.1, hlast.2.1, Or.inr hlast.2.2⟩

theorem orReport_eq_true {α : Type} {act : Act α} {next : α → Tailing Bool}
    (hrun : orReport act next t h = ((.ok true, t'), h')) :
    ∃ a h₁, act h = (.ok a, h₁) ∧ next a t h₁ = ((.ok true, t'), h') := by
  unfold orReport at hrun
  obtain ⟨result, h₁, hact, hrest⟩ := ActOn.bind_lift_eq_ok hrun
  cases result with
  | error f =>
      obtain ⟨_, t₂, h₂, -, hfalse⟩ := ActOn.bind_eq_ok hrest
      cases hfalse
  | ok a => exact ⟨a, h₁, Act.tryConfigured_eq_ok hact, hrest⟩

/-- If a start succeeds, a session was opened and followed in the end. -/
def OpensAndFollows (succeeds : Bool) (t' : Tailer) (h' : Host) : Prop :=
  succeeds = true → ∃ base mode flavor session t h h₁,
    openSession base mode flavor h = (.ok session, h₁) ∧ follow session t h₁ = ((.ok (), t'), h')

theorem start_gives (s : Setup) (asked : Option TailMode) :
    ActOn.Gives OpensAndFollows (start s asked) := by
  unfold start
  refine ActOn.Gives.bind fun t => ?_
  extract_lets afterStop
  have hafterStop : ∀ u, ActOn.Gives OpensAndFollows (afterStop u) := by
    intro _
    refine ActOn.Gives.bind fun settings => ?_
    extract_lets afterAsked
    have hafterAsked : ∀ u, ActOn.Gives OpensAndFollows (afterAsked u) := by
      intro _
      refine ActOn.Gives.bind fun chosen => ActOn.Gives.bind fun _ => ?_
      refine ActOn.Gives.bind fun detected => ActOn.Gives.bind fun _ => ?_
      intro t₁ h₁ result t' h' hbase hresult
      subst hresult
      obtain ⟨base, h₂, -, hmode⟩ := orReport_eq_true hbase
      obtain ⟨_, t₃, h₃, -, hmode⟩ := ActOn.bind_eq_ok hmode
      obtain ⟨mode?, t₄, h₄, -, hopen⟩ := ActOn.bind_eq_ok hmode
      cases mode? with
      | none => cases hopen
      | some mode =>
          obtain ⟨session, h₅, hsession, hfollow⟩ := orReport_eq_true hopen
          obtain ⟨_, t₆, h₆, hfollow, hlast⟩ := ActOn.bind_eq_ok hfollow
          cases hlast
          exact ⟨base, mode, _, session, t₄, h₄, h₅, hsession, hfollow⟩
    split
    · exact ActOn.Gives.bind fun _ => hafterAsked ()
    · exact hafterAsked ()
  split
  · exact ActOn.Gives.bind fun _ => hafterStop ()
  · exact hafterStop ()

/-- Where a session begins that a tailer starts with: a live log is read from its start, a journal
from its end. -/
def beginningOf (mode : TailMode) (content : Bytes) : ℕ :=
  match mode with
  | .live => 0
  | .standard => content.length

/-- A session that has read nothing and stands where its mode begins. -/
structure Begins (s : Session) (h : Host) : Prop where
  decoder_eq : s.decoder = freshDecoder s.mode
  offset_eq : ∀ {content}, FileHolds h s.file content → s.offset = beginningOf s.mode content

theorem openLive_begins {base : Path} (hopen : openLive base h = (.ok session, h')) (h'' : Host) :
    session.mode = .live ∧ Begins session h'' := by
  unfold openLive at hopen
  obtain ⟨made, h₁, -, hsession⟩ := Act.bind_eq_ok hopen
  cases made with
  | error e => cases hsession
  | ok =>
      cases hsession
      exact ⟨rfl, rfl, fun _ => rfl⟩

theorem atEnd_begins {file : Path} {mode : TailMode}
    (hend : Session.atEnd file mode h = (.ok session, h')) (hmode : mode = .standard) :
    session.mode = .standard ∧ Begins session h' := by
  have hkeeps : ∀ P : Host → Prop, Act.Keeps P (Session.atEnd file mode) :=
    fun P => (sizeOf?_keeps file).bind fun _ => Act.Keeps.pure _
  have hhost := Act.host_eq hkeeps h
  rw [hend] at hhost
  obtain rfl : h' = h := hhost
  obtain ⟨offset, rfl⟩ := Session.atEnd_eq_ok hend
  refine ⟨hmode, rfl, fun {content} hcontent => ?_⟩
  rw [Session.atEnd_eq hcontent] at hend
  cases hend
  rw [hmode]
  rfl

theorem openJournal_begins {base : Path} {f : Flavor}
    (hopen : openJournal base f h = (.ok session, h')) :
    session.mode = .standard ∧ Begins session h' := by
  unfold openJournal at hopen
  obtain ⟨isThere, h₁, -, hrest⟩ := Act.bind_eq_ok hopen
  cases isThere with
  | false => cases hrest
  | true =>
      simp only [Bool.not_true, Bool.false_eq_true, if_false] at hrest
      rw [Act.bind_of_ok (Act.get_apply h₁)] at hrest
      exact atEnd_begins hrest rfl

/-- What a file holds is a matter of the disk and the working folder. -/
theorem FileHolds.of_disk_eq {p : Path} {content : Bytes} (hfile : FileHolds h p content)
    (hdisk : h'.disk = h.disk) (hhere : h'.here = h.here) : FileHolds h' p content := by
  unfold FileHolds FileIs FileMissing
  rw [hdisk, hhere]
  exact hfile

/-- A session that was opened begins as it should, and for a journal only the disk matters. -/
theorem openSession_begins {base : Path} {mode : TailMode} {f : Flavor} {h'' : Host}
    (hopen : openSession base mode f h = (.ok session, h'))
    (hsame : session.mode = .live ∨ h''.disk = h'.disk ∧ h''.here = h'.here) :
    Begins session h'' := by
  cases mode with
  | live => exact (openLive_begins hopen h'').2
  | standard =>
      obtain ⟨hmode, hdecoder, hoffset⟩ := openJournal_begins hopen
      refine ⟨hdecoder, fun hfile => ?_⟩
      rcases hsame with hlive | ⟨hdisk, hhere⟩
      · rw [hmode] at hlive
        cases hlive
      · exact hoffset (hfile.of_disk_eq hdisk.symm hhere.symm)

/-- **What a tailer that has started follows.**  Its session stands where its mode begins, and has
read nothing yet. -/
theorem start_eq_true {s : Setup} {asked : Option TailMode}
    (hrun : start s asked t h = ((.ok true, t'), h')) :
    t'.isTailing = true ∧
      ∃ session, t'.session = some session ∧ t'.mode = some session.mode ∧ Begins session h' := by
  obtain ⟨base, mode, flavor, session, t₁, h₁, h₂, hopen, hfollow⟩ :=
    start_gives s asked t h true t' h' hrun rfl
  obtain ⟨htailing, hmode, ⟨hlive, hs | hs⟩ | ⟨hs, hsame⟩⟩ := follow_eq_ok hfollow
  · exact ⟨htailing, session, hs, hmode, openSession_begins hopen (Or.inl hlive)⟩
  · refine ⟨htailing, session.reset, hs, hmode, rfl, fun _ => ?_⟩
    rw [show session.reset.mode = .live from hlive]
    rfl
  · exact ⟨htailing, session, hs, hmode, openSession_begins hopen (Or.inr hsame)⟩

end MetaDesk.Tail
