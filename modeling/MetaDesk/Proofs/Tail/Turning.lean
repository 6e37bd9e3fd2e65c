import MetaDesk.Proofs.Tail.Tailing

/-! # The turn of the day

A tailer that follows a journal turns to the next one when the clock strikes on another day.  It does
not look at the old journal again before it turns.  So what was written there since the last look
(`untold`) is not told, neither by the stroke that turns the tailer nor later
(`lost_of_unheeded_line`); everything that was read before has been told, and the new journal is
told from its first byte on, by the turn and by whatever makes the tailer look after it
(`turn_tells`). -/

namespace MetaDesk.Tail

variable {since : ℕ} {t t' t'' : Tailer} {s s' : Session} {h h' h'' : Host} {told shown : Text}
  {content next : Bytes}

/-! ### What was not told -/

/-- The text that was written to a file since a session last read it. -/
def untold (s : Session) (content : Bytes) : Text := (s.take (content.drop s.offset)).1

/-- What was told and what was not are the text of everything since the session began. -/
theorem ReadFrom.told_append_untold (hread : ReadFrom since s content told) :
    told ++ untold s content = textOf s.mode (content.drop since) := by
  obtain ⟨hrest, hoffset⟩ := hread.take_rest
  have htold := hrest.told_eq
  rw [hoffset, List.take_length] at htold
  exact htold

theorem ReadFrom.untold_eq_nil (hread : ReadFrom since s content told)
    (hoffset : s.offset = content.length) : untold s content = [] := by
  have htold := hread.told_append_untold
  rw [hread.told_eq, hoffset, List.take_length] at htold
  exact List.append_right_eq_self.mp htold

/-! ### Keeping to a file -/

theorem IsOnItsWay.heed_keeps {trigger : Trigger} (hway : IsOnItsWay since t h told)
    (hs : t.session = some s) (htoday : trigger = .clock → IsUpToDate t s h)
    (hrun : trigger.heed t h = ((.ok (), t'), h')) :
    t'.mode = t.mode ∧ ∃ s', t'.session = some s' ∧ s'.file = s.file ∧ s'.mode = s.mode := by
  obtain ⟨content, hfile, -⟩ := hway.of_session hs
  obtain ⟨watch, s', found, hheed, hall⟩ := hway.heed_apply hs htoday hfile
  rw [hrun] at hheed
  cases hheed
  exact ⟨rfl, s', rfl, hall.file_eq, hall.mode_eq⟩

/-- On a new day the tailer goes over to the journal of that day and tells all of it. -/
theorem IsOnItsWay.poll_turned (hway : IsOnItsWay since t h told) (hs : t.session = some s)
    (hmode : t.mode = some .standard) (hturn : s.file.name ≠ journalName h.today)
    (hnext : FileHolds h (journalOf h.today s) next) :
    ∃ watch s', poll t h = ((.ok (), { t with session := some s', watch := watch }),
        (h.shows (turnLine h.today ++ ['\n'])).shows (textOf s.mode next)) ∧
      s'.file = journalOf h.today s ∧ s'.mode = s.mode := by
  obtain ⟨watch, s', found, hpoll, hall⟩ := hway.poll_apply hs hmode hturn hnext
  have htold : found.text = textOf s.mode next := hall.told_eq
  rw [htold] at hpoll
  exact ⟨watch, s', hpoll, hall.file_eq, hall.mode_eq⟩

theorem Tails.mode_eq (hrun : Tails since t h told) :
    ∃ s, t.session = some s ∧ t.mode = some s.mode := by
  induction hrun with
  | start hstart _ _ =>
      obtain ⟨-, session, hsession, hmode, -⟩ := start_eq_true hstart
      exact ⟨session, hsession, hmode⟩
  | pass _ _ hs' _ hmode' _ _ ih =>
      obtain ⟨s, hs, hmode⟩ := ih
      exact ⟨s, hs'.trans hs, hmode'.trans hmode⟩
  | heed hrun hs htoday hheed _ ih =>
      obtain ⟨s₁, hs₁, hmode⟩ := ih
      obtain rfl := Option.some.inj (hs₁.symm.trans hs)
      obtain ⟨hmode', s', hs', -, hsame⟩ := hrun.isOnItsWay.heed_keeps hs htoday hheed
      exact ⟨s', hs', by rw [hmode', hmode, hsame]⟩
  | truncate hrun hs hfile hlt htoday hheed ih =>
      obtain ⟨s₁, hs₁, hmode⟩ := ih
      obtain rfl := Option.some.inj (hs₁.symm.trans hs)
      obtain ⟨htailing, -⟩ := hrun.isOnItsWay
      obtain ⟨watch, hheed'⟩ := Trigger.heed_apply _ htailing hs htoday (Or.inl hfile)
        (Session.check_truncated hfile hlt)
      rw [hheed] at hheed'
      cases hheed'
      exact ⟨_, rfl, hmode⟩
  | turn hrun hs hstandard hturn hnext hpoll _ ih =>
      obtain ⟨s₁, hs₁, hmode⟩ := ih
      obtain rfl := Option.some.inj (hs₁.symm.trans hs)
      obtain ⟨watch, s', hpoll', -, hsame⟩ :=
        hrun.isOnItsWay.poll_turned hs hstandard hturn hnext
      rw [hpoll] at hpoll'
      cases hpoll'
      exact ⟨s', rfl, by rw [hmode, hsame]⟩

/-! ### After the turn -/

/-- `GoesOn t h t' h' shown`: from one moment to a later one the log was only added to, the watch
and the clock made the tailer look on the day of its journal, and `shown` was shown. -/
inductive GoesOn : Tailer → Host → Tailer → Host → Text → Prop
  | now (t : Tailer) (h : Host) : GoesOn t h t h []
  | pass {t t' t'' : Tailer} {s : Session} {h h' h'' : Host} {shown : Text} {content more : Bytes} :
      GoesOn t h t' h' shown → t'.session = some s → t''.session = t'.session →
      t''.isTailing = t'.isTailing → t''.mode = t'.mode → FileHolds h' s.file content →
      FileHolds h'' s.file (content ++ more) → GoesOn t h t'' h'' shown
  | heed {trigger : Trigger} {t t' t'' : Tailer} {s : Session} {h h' h'' : Host}
      {shown more : Text} :
      GoesOn t h t' h' shown → t'.session = some s → (trigger = .clock → IsUpToDate t' s h') →
      trigger.heed t' h' = ((.ok (), t''), h'') → h''.output.text = h'.output.text ++ more →
      GoesOn t h t'' h'' (shown ++ more)

theorem GoesOn.tails (hgoes : GoesOn t h t' h' shown) (hrun : Tails since t h told)
    (hs : t.session = some s) : Tails since t' h' (told ++ shown) ∧
      ∃ s', t'.session = some s' ∧ s'.file = s.file ∧ s'.mode = s.mode := by
  induction hgoes with
  | now t h => exact ⟨by rwa [List.append_nil], s, hs, rfl, rfl⟩
  | pass _ hs₁ hs₂ htailing hmode hfile hfile' ih =>
      obtain ⟨hrun', s', hs', hsame⟩ := ih hrun hs
      exact ⟨hrun'.pass hs₁ hs₂ htailing hmode hfile hfile', s', hs₂.trans hs', hsame⟩
  | heed _ hs₁ htoday hheed hshown ih =>
      obtain ⟨hrun', s₂, hs₂, hfile, hmode⟩ := ih hrun hs
      obtain rfl := Option.some.inj (hs₂.symm.trans hs₁)
      obtain ⟨-, s', hs', hfile', hmode'⟩ := hrun'.isOnItsWay.heed_keeps hs₁ htoday hheed
      refine ⟨?_, s', hs', hfile'.trans hfile, hmode'.trans hmode⟩
      rw [← List.append_assoc]
      exact hrun'.heed hs₁ htoday hheed hshown

theorem IsOnItsWay.tells_rest (hway : IsOnItsWay since t h told) (hs : t.session = some s)
    (hfile : FileHolds h s.file content) (trigger : Trigger)
    (htoday : trigger = .clock → IsUpToDate t s h) :
    ∃ t', trigger.heed t h = ((.ok (), t'), h.shows (untold s content)) := by
  obtain ⟨content₁, hfile₁, hread⟩ := hway.of_session hs
  obtain rfl := hfile₁.unique hfile
  obtain ⟨watch, s', found, hheed, hall⟩ := hway.heed_apply hs htoday hfile
  have htold : found.text = untold s content₁ :=
    List.append_cancel_left (hall.told_eq.trans hread.told_append_untold.symm)
  rw [htold] at hheed
  exact ⟨_, hheed⟩

/-- **What a turn of the day tells.**  Of the old journal there has been told all but what is
`untold`, which is nothing if the last look read it to its end.  The stroke that turns the tailer
tells of the turn and then all of the new journal, and nothing else; and at any later moment what
was told is the reading of the new journal from its first byte on, and any look tells the rest. -/
theorem turn_tells (hrun : Tails since t h told) (hs : t.session = some s)
    (hmode : t.mode = some .standard) (hturn : s.file.name ≠ journalName h.today)
    (hnext : FileHolds h (journalOf h.today s) next) :
    (∃ content, FileHolds h s.file content ∧
      told ++ untold s content = textOf .standard (content.drop since) ∧
      (s.offset = content.length → told = textOf .standard (content.drop since))) ∧
    ∃ t' h', poll t h = ((.ok (), t'), h') ∧
      h' = (h.shows (turnLine h.today ++ ['\n'])).shows (textOf .standard next) ∧
      ∀ {t'' : Tailer} {h'' : Host} {shown : Text}, GoesOn t' h' t'' h'' shown →
        ∃ s'' content, t''.session = some s'' ∧ s''.file = journalOf h.today s ∧
          FileHolds h'' s''.file content ∧
          textOf .standard next ++ shown = textOf .standard (content.take s''.offset) ∧
          ∀ trigger : Trigger, (trigger = .clock → IsUpToDate t'' s'' h'') →
            ∃ t₃ rest, trigger.heed t'' h'' = ((.ok (), t₃), h''.shows rest) ∧
              textOf .standard next ++ shown ++ rest = textOf .standard content := by
  obtain ⟨s₁, hs₁, hmode₁⟩ := hrun.mode_eq
  obtain rfl : s₁ = s := Option.some.inj (hs₁.symm.trans hs)
  have hstandard : s₁.mode = .standard := Option.some.inj (hmode₁.symm.trans hmode)
  obtain ⟨watch, next', hpoll, hfile', hmode'⟩ :=
    hrun.isOnItsWay.poll_turned hs hmode hturn hnext
  rw [hstandard] at hpoll hmode'
  refine ⟨?_, _, _, hpoll, rfl, fun {t'' h'' shown} hgoes => ?_⟩
  · obtain ⟨content, hfile, hread⟩ := hrun.isOnItsWay.of_session hs
    have htold := hread.told_append_untold
    rw [hstandard] at htold
    refine ⟨content, hfile, htold, fun hoffset => ?_⟩
    rw [hread.untold_eq_nil hoffset, List.append_nil] at htold
    exact htold
  · have hshown : ((h.shows (turnLine h.today ++ ['\n'])).shows
        (textOf .standard next)).output.text =
          h.output.text ++ (turnLine h.today ++ ['\n']) ++ textOf .standard next := by
      rw [Host.shows_text, Host.shows_text]
    obtain ⟨hrun'', s'', hs'', hfile'', hmode''⟩ :=
      hgoes.tails (hrun.turn hs hmode hturn hnext hpoll hshown) rfl
    obtain ⟨content, hholds, hread⟩ := hrun''.isOnItsWay.of_session hs''
    have htold := hread.told_eq
    have hrest := hread.told_append_untold
    rw [hmode'', hmode', List.drop_zero] at htold hrest
    refine ⟨s'', content, hs'', hfile''.trans hfile', hholds, htold, fun trigger htoday => ?_⟩
    obtain ⟨t₃, hheed⟩ := hrun''.isOnItsWay.tells_rest hs'' hholds trigger htoday
    exact ⟨t₃, _, hheed, hrest⟩

/-! ### Two journals -/

/-- A disk with the journals of two days. -/
def twoJournals (old new : Bytes) : Disk :=
  ⟨(journalDisk old).entries ++
    [(["d".toList, "Logs".toList, "20240201.log".toList], .file new)]⟩

/-- The second of the days. -/
def nextDay : Day := ⟨2024, 2, 1⟩

/-- The host on that day. -/
def nextHost (old new : Bytes) (o : Output) : Host :=
  { disk := twoJournals old new, output := o, today := nextDay }

theorem journal_turns : journal.name ≠ journalName nextDay := by decide +kernel

theorem nextHost_holds (old new : Bytes) (o : Output) :
    FileHolds (nextHost old new o) journal old :=
  Or.inl ⟨by decide, rfl⟩

theorem nextHost_holds_next (old new : Bytes) (o : Output) (hs : s.file = journal) :
    FileHolds (nextHost old new o) (journalOf nextDay s) new := by
  have hnext : journalOf nextDay s = .ofText "/d/Logs/20240201.log" := by
    unfold journalOf
    rw [hs]
    decide +kernel
  rw [hnext]
  exact Or.inl ⟨by decide, rfl⟩

theorem tails_nextHost (more new : Bytes) : ∃ o,
    Tails 2 (journalTailer 2 (freshDecoder .standard)) (nextHost ([0x41, 0x00] ++ more) new o) [] := by
  obtain ⟨o, hrun⟩ := journalTailer_started
  have hstart : Tails 2 _ _ [] := Tails.start hrun rfl (journalDisk_holds [0x41, 0x00] o)
  exact ⟨o, hstart.pass rfl rfl rfl rfl (journalDisk_holds [0x41, 0x00] o)
    (nextHost_holds ([0x41, 0x00] ++ more) new o)⟩

/-- The new journal is told from its first byte on: one character by the turn, and one by a look
after it. -/
theorem turn_tells_of_newJournal : ∃ t h t' h' t'' h'' t₃ rest, Tails 2 t h [] ∧
    poll t h = ((.ok (), t'), h') ∧
    h'.output.text = h.output.text ++ (turnLine h.today ++ ['\n']) ++ "K".toList ∧
    GoesOn t' h' t'' h'' [] ∧ Trigger.watch.heed t'' h'' = ((.ok (), t₃), h''.shows rest) ∧
    "K".toList ++ rest = "KN".toList := by
  obtain ⟨o, hrun⟩ := tails_nextHost [] [0x4B, 0x00]
  let s : Session := { file := journal, mode := .standard, offset := 2 }
  have hturned := turn_tells (s := s) hrun rfl rfl journal_turns (nextHost_holds_next _ _ o rfl)
  obtain ⟨-, t', h', hpoll, rfl, hafter⟩ := hturned
  obtain ⟨s', -, hs', hfile', -⟩ := hafter (GoesOn.now t' _)
  have hholds : ∀ new o, FileHolds (nextHost [0x41, 0x00] new o) s'.file new := fun new o => by
    rw [hfile']
    exact nextHost_holds_next _ _ o rfl
  let o' := (o.append (turnLine nextDay ++ ['\n'])).append "K".toList
  have hmore : GoesOn t' (nextHost [0x41, 0x00] [0x4B, 0x00] o') t'
      (nextHost [0x41, 0x00] [0x4B, 0x00, 0x4E, 0x00] o') [] :=
    (GoesOn.now t' _).pass hs' rfl rfl rfl (hholds [0x4B, 0x00] o')
      (hholds ([0x4B, 0x00] ++ [0x4E, 0x00]) o')
  obtain ⟨s'', content, hs'', hfile'', hcontent, -, hlook⟩ := hafter hmore
  obtain rfl := Option.some.inj (hs''.symm.trans hs')
  obtain rfl := hcontent.unique (hholds _ o')
  obtain ⟨t₃, rest, hheed, hrest⟩ := hlook .watch (by rintro ⟨⟩)
  refine ⟨_, _, t', _, t', _, t₃, rest, hrun, hpoll, ?_, hmore, hheed, hrest⟩
  rw [Host.shows_text, Host.shows_text]
  rfl

/-- A line that was written after the last look at a journal is not told when the tailer turns to
the next one: the stroke only tells of the turn. -/
theorem lost_of_unheeded_line : ∃ t s h t' h' content, Tails 2 t h [] ∧ t.session = some s ∧
    t.mode = some .standard ∧ s.file.name ≠ journalName h.today ∧ FileHolds h s.file content ∧
    textOf .standard (content.drop 2) = "K\n".toList ∧ poll t h = ((.ok (), t'), h') ∧
    h'.output.text = h.output.text ++ (turnLine h.today ++ ['\n']) ∧
    ∃ s', t'.session = some s' ∧ s'.file = journalOf h.today s := by
  obtain ⟨o, hrun⟩ := tails_nextHost [0x4B, 0x00, 0x0A, 0x00] []
  let s : Session := { file := journal, mode := .standard, offset := 2 }
  have hnext := nextHost_holds_next (s := s) ([0x41, 0x00] ++ [0x4B, 0x00, 0x0A, 0x00]) [] o rfl
  obtain ⟨watch, s', hpoll, hfile', -⟩ :=
    hrun.isOnItsWay.poll_turned (s := s) rfl rfl journal_turns hnext
  refine ⟨_, s, _, _, _, _, hrun, rfl, rfl, journal_turns, nextHost_holds _ _ o, rfl, hpoll, ?_,
    s', rfl, hfile'⟩
  rw [Host.shows_text, Host.shows_text]
  exact List.append_nil _

end MetaDesk.Tail
