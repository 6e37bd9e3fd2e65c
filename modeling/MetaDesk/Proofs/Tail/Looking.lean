import MetaDesk.Proofs.Tail.Following
import MetaDesk.Tail.Tailer

/-! # One look of a tailer

A tailer that is tailing looks at its log when the watch tells of a change, and from time to time
when the clock strikes.  Either way it does one check of its session and shows what the check has
found (`look_apply`, `poll_apply`); on a new day the clock turns it to another journal first
(`poll_turned`). -/

namespace MetaDesk

/-- The host after a text was shown. -/
def Host.shows (h : Host) (text : Text) : Host := { h with output := h.output.append text }

theorem Host.shows_nil (h : Host) : h.shows [] = h := rfl

end MetaDesk

namespace MetaDesk.Tail

variable {t : Tailer} {s s' : Session} {h : Host} {found : Change}

/-- The line that tells that a log was emptied. -/
def truncationLine : Text := "[Info] Log file truncated. Refreshing..."

/-- What a tailer shows of what a check has found. -/
def Change.shown : Change → Text
  | .grown text _ => text
  | .truncated _ => truncationLine ++ ['\n']
  | _ => []

theorem change_apply (f : Tailer → Tailer) (t : Tailer) (h : Host) :
    change f t h = ((.ok (), f t), h) := rfl

theorem showLine_apply (line : Text) (t : Tailer) (h : Host) :
    showLine line t h = ((.ok (), t), h.shows (line ++ ['\n'])) := rfl

theorem current?_apply (t : Tailer) (h : Host) :
    current? t h = ((.ok (if t.isTailing then t.session else none), t), h) := rfl

theorem current?_of_tailing (htailing : t.isTailing = true) (hs : t.session = some s) :
    current? t h = ((.ok (some s), t), h) := by
  rw [current?_apply, htailing, hs]
  rfl

theorem tell_apply (found : Change) (t : Tailer) (h : Host) :
    tell found t h = ((.ok (), t), h.shows found.shown) := by
  cases found with
  | missing => exact congrArg (Prod.mk _) (Host.shows_nil h).symm
  | unchanged size => exact congrArg (Prod.mk _) (Host.shows_nil h).symm
  | grown text size => rfl
  | truncated size => exact showLine_apply truncationLine t h

/-- **One look is one check.**  What it finds is shown, and the session goes on from there. -/
theorem look_apply (htailing : t.isTailing = true) (hs : t.session = some s)
    (hcheck : s.check h = (.ok (found, s'), h)) :
    look (pure ()) t h =
      ((.ok (), { t with session := some s' }), h.shows found.shown) := by
  let next : Tailer := { t with session := some s' }
  have htry := ActOn.lift_apply (Act.trySystem s.check) t h
  rw [Act.trySystem_of_ok hcheck] at htry
  have hmeanwhile : systemErrorOf? (pure ()) next h = ((.ok none, next), h) := rfl
  unfold look
  rw [ActOn.bind_of_ok (current?_of_tailing htailing hs)]
  dsimp only
  rw [ActOn.bind_of_ok htry]
  dsimp only
  rw [ActOn.bind_of_ok (ActOn.getThe_apply t h), ActOn.bind_of_ok (change_apply _ t h)]
  rw [ActOn.bind_of_ok hmeanwhile]
  dsimp only
  rw [ActOn.bind_of_ok (ActOn.getThe_apply _ h)]
  have htells : (next.isTailing && decide (next.sessions = t.sessions)) = true := by
    rw [show next.isTailing = true from htailing, show next.sessions = t.sessions from rfl]
    simp
  rw [if_pos htells]
  exact tell_apply found next h

/-! ### The clock -/

theorem FileHolds.pathExists {p : Path} {content : Bytes} (hfile : FileHolds h p content) :
    ∃ isThere, Act.pathExists p h = (.ok isThere, h) := by
  unfold Act.pathExists
  rcases hfile with ⟨hp, hlook⟩ | ⟨⟨hp, hlook⟩, -⟩
  · refine ⟨true, ?_⟩
    rw [hp, if_neg Bool.false_ne_true, ask_apply hp, Disk.exists?, hlook]
    rfl
  · refine ⟨false, ?_⟩
    rw [hp, if_neg Bool.false_ne_true, ask_apply hp, Disk.exists?, hlook]
    rfl

/-- Making a watch leaves everything else alone. -/
theorem makeWatch_apply {content : Bytes} (hs : t.session = some s)
    (hfile : FileHolds h s.file content) :
    ∃ watch, makeWatch t h = ((.ok (), { t with watch := watch }), h) := by
  obtain ⟨isThere, hthere⟩ := hfile.pathExists
  have hlift := ActOn.lift_apply (Act.pathExists s.file) t h
  rw [hthere] at hlift
  unfold makeWatch
  rw [ActOn.bind_of_ok (ActOn.getThe_apply t h)]
  cases hwatch : t.watch with
  | some watch =>
      refine ⟨t.watch, ?_⟩
      simp only [hwatch]
      rw [← hwatch]
      rfl
  | none =>
      simp only [hs]
      rw [ActOn.bind_of_ok hlift, ← hs]
      cases isThere with
      | true => exact ⟨some { file := s.file }, rfl⟩
      | false =>
          refine ⟨none, ?_⟩
          rw [← hwatch]
          rfl

/-- A session follows the journal of the day, if it follows a journal at all. -/
def IsUpToDate (t : Tailer) (s : Session) (h : Host) : Prop :=
  t.mode = some .standard → s.file.name = journalName h.today

/-- Without a new day the clock makes the tailer look, as the watch does. -/
theorem poll_apply {content : Bytes} (htailing : t.isTailing = true) (hs : t.session = some s)
    (htoday : IsUpToDate t s h) (hfile : FileHolds h s.file content)
    (hcheck : s.check h = (.ok (found, s'), h)) :
    ∃ watch, poll t h = ((.ok (), { t with session := some s', watch := watch }),
      h.shows found.shown) := by
  obtain ⟨watch, hwatch⟩ := makeWatch_apply hs hfile
  have hlook : look (pure ()) { t with watch := watch } h =
      ((.ok (), { t with session := some s', watch := watch }), h.shows found.shown) :=
    look_apply htailing hs hcheck
  refine ⟨watch, ?_⟩
  unfold poll
  rw [ActOn.bind_of_ok (current?_of_tailing htailing hs)]
  dsimp only
  rw [ActOn.bind_of_ok (ActOn.getThe_apply t h)]
  by_cases hmode : t.mode = some .standard
  · have hturn : turnDay s t h = ((.ok (), t), h) := by
      unfold turnDay
      rw [ActOn.bind_of_ok (ActOn.getThe_host_apply t h)]
      simp only [htoday hmode, bne_self_eq_false, Bool.false_eq_true, if_false]
      rfl
    rw [if_pos hmode, ActOn.bind_of_ok hturn, ActOn.bind_of_ok hwatch]
    exact hlook
  · rw [if_neg hmode, ActOn.bind_of_ok hwatch]
    exact hlook

/-- The line that tells of a new day. -/
def turnLine (d : Day) : Text := "[Info] Day changed. Switching to " ++ journalName d

/-- The journal of the day, beside the one that a session follows. -/
def journalOf (d : Day) (s : Session) : Path := s.file.withName (journalName d)

/-- On a new day the clock turns the tailer to the journal of that day before it looks. -/
theorem poll_turned {content : Bytes} (htailing : t.isTailing = true) (hs : t.session = some s)
    (hmode : t.mode = some .standard) (hturn : s.file.name ≠ journalName h.today)
    (hfile : FileHolds h (journalOf h.today s) content)
    (hcheck : (s.switchTo (journalOf h.today s)).check (h.shows (turnLine h.today ++ ['\n'])) =
      (.ok (found, s'), h.shows (turnLine h.today ++ ['\n']))) :
    ∃ watch, poll t h = ((.ok (), { t with session := some s', watch := watch }),
      (h.shows (turnLine h.today ++ ['\n'])).shows found.shown) := by
  let next := s.switchTo (journalOf h.today s)
  let turned : Tailer := { t with session := some next, watch := none }
  let told := h.shows (turnLine h.today ++ ['\n'])
  have hnext : turned.session = some next := rfl
  have hfile' : FileHolds told next.file content := hfile
  obtain ⟨first, hfirst⟩ := makeWatch_apply hnext hfile'
  have hnext' : ({ turned with watch := first } : Tailer).session = some next := rfl
  obtain ⟨watch, hwatch⟩ := makeWatch_apply hnext' hfile'
  have hturnDay : turnDay s t h = ((.ok (), { turned with watch := first }), told) := by
    unfold turnDay
    rw [ActOn.bind_of_ok (ActOn.getThe_host_apply t h)]
    simp only [bne_iff_ne.mpr hturn, if_true]
    rw [ActOn.bind_of_ok (showLine_apply _ t h), ActOn.bind_of_ok (change_apply _ t _)]
    exact hfirst
  refine ⟨watch, ?_⟩
  unfold poll
  rw [ActOn.bind_of_ok (current?_of_tailing htailing hs)]
  dsimp only
  rw [ActOn.bind_of_ok (ActOn.getThe_apply t h), if_pos hmode, ActOn.bind_of_ok hturnDay,
    ActOn.bind_of_ok hwatch]
  exact look_apply htailing rfl hcheck

end MetaDesk.Tail
