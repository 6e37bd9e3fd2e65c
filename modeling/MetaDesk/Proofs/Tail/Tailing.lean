import MetaDesk.Proofs.Tail.Starting

/-! # What a tailer shows between its start and its stop

`Tails since t h told` says that the tailer `t` has started and has not stopped, while its log was
written to and the watch and the clock made it look in any order.  `told` is all that it has shown
of its log since it last began anew, which was at the byte `since`: at its start, at a new day, or
when the log was emptied.

Whoever made it look, what was told is the reading of the bytes from `since` on, all at once, so
nothing of the log is lost, shown twice or shown out of order (`told_eq`). -/

namespace MetaDesk.Tail

/-! ### Looking -/

/-- What makes a tailer look. -/
inductive Trigger where
  | watch
  | clock
deriving DecidableEq, Repr

/-- What the tailer does then. -/
def Trigger.heed : Trigger → Tailing Unit
  | .watch => look (pure ())
  | .clock => poll

variable {since : ℕ} {t t' : Tailer} {s s' : Session} {h h' : Host} {told : Text}
  {content : Bytes} {found : Change}

/-- Whatever makes a tailer look, it does one check and shows what that has found. -/
theorem Trigger.heed_apply (trigger : Trigger) (htailing : t.isTailing = true)
    (hs : t.session = some s) (htoday : trigger = .clock → IsUpToDate t s h)
    (hfile : FileHolds h s.file content) (hcheck : s.check h = (.ok (found, s'), h)) :
    ∃ watch, trigger.heed t h =
      ((.ok (), { t with session := some s', watch := watch }), h.shows found.shown) := by
  cases trigger with
  | watch => exact ⟨t.watch, look_apply htailing hs hcheck⟩
  | clock => exact poll_apply htailing hs (htoday rfl) hfile hcheck

theorem Change.shown_eq_text (hfound : found.isTruncation = false) : found.shown = found.text := by
  cases found with
  | truncated size => cases hfound
  | missing => rfl
  | unchanged size => rfl
  | grown text size => rfl

theorem Host.shows_text (h : Host) (text : Text) :
    (h.shows text).output.text = h.output.text ++ text := Output.text_append h.output text

/-! ### Runs -/

/-- `Tails since t h told`: the tailer is on its way, and `told` is what it has shown of its log
since it began at the byte `since`. -/
inductive Tails : ℕ → Tailer → Host → Text → Prop
  | start {setup : Setup} {asked : Option TailMode} {t t' : Tailer} {s : Session} {h h' : Host}
      {content : Bytes} :
      Tail.start setup asked t h = ((.ok true, t'), h') → t'.session = some s →
      FileHolds h' s.file content → Tails (beginningOf s.mode content) t' h' []
  | pass {since : ℕ} {t t' : Tailer} {s : Session} {h h' : Host} {told : Text}
      {content more : Bytes} :
      Tails since t h told → t.session = some s → t'.session = t.session →
      t'.isTailing = t.isTailing → t'.mode = t.mode → FileHolds h s.file content →
      FileHolds h' s.file (content ++ more) → Tails since t' h' told
  | heed {since : ℕ} {trigger : Trigger} {t t' : Tailer} {s : Session} {h h' : Host}
      {told shown : Text} :
      Tails since t h told → t.session = some s → (trigger = .clock → IsUpToDate t s h) →
      trigger.heed t h = ((.ok (), t'), h') → h'.output.text = h.output.text ++ shown →
      Tails since t' h' (told ++ shown)
  | truncate {since : ℕ} {trigger : Trigger} {t t' : Tailer} {s : Session} {h h' h'' : Host}
      {told : Text} {content : Bytes} :
      Tails since t h told → t.session = some s → FileIs h' s.file content →
      content.length < s.offset → (trigger = .clock → IsUpToDate t s h') →
      trigger.heed t h' = ((.ok (), t'), h'') → Tails 0 t' h'' []
  | turn {since : ℕ} {t t' : Tailer} {s : Session} {h h' : Host} {told shown : Text}
      {content : Bytes} :
      Tails since t h told → t.session = some s → t.mode = some .standard →
      s.file.name ≠ journalName h.today → FileHolds h (journalOf h.today s) content →
      poll t h = ((.ok (), t'), h') →
      h'.output.text = h.output.text ++ (turnLine h.today ++ ['\n']) ++ shown →
      Tails 0 t' h' shown

/-- The tailer is tailing, and its session has read the bytes from `since` on and told them. -/
def IsOnItsWay (since : ℕ) (t : Tailer) (h : Host) (told : Text) : Prop :=
  t.isTailing = true ∧ ∃ s content, t.session = some s ∧ FileHolds h s.file content ∧
    ReadFrom since s content told

theorem IsOnItsWay.of_session (hway : IsOnItsWay since t h told) (hs : t.session = some s) :
    ∃ content, FileHolds h s.file content ∧ ReadFrom since s content told := by
  obtain ⟨-, s₁, content, hs₁, hfile, hread⟩ := hway
  obtain rfl : s₁ = s := Option.some.inj (hs₁.symm.trans hs)
  exact ⟨content, hfile, hread⟩

/-- A look at a log that did not become shorter reads all of it and shows what is new. -/
theorem IsOnItsWay.heed_apply {trigger : Trigger} (hway : IsOnItsWay since t h told)
    (hs : t.session = some s) (htoday : trigger = .clock → IsUpToDate t s h)
    (hfile : FileHolds h s.file content) : ∃ watch s' found, trigger.heed t h =
        ((.ok (), { t with session := some s', watch := watch }), h.shows found.text) ∧
      ReadAll since s s' content told found := by
  obtain ⟨content₁, hfile₁, hread⟩ := hway.of_session hs
  obtain rfl := hfile₁.unique hfile
  obtain ⟨found, s', hcheck, hall⟩ := check_readFrom hfile hread
  obtain ⟨watch, hheed⟩ := trigger.heed_apply hway.1 hs htoday hfile hcheck
  rw [Change.shown_eq_text hall.not_truncation] at hheed
  exact ⟨watch, s', found, hheed, hall⟩

theorem IsOnItsWay.poll_apply (hway : IsOnItsWay since t h told) (hs : t.session = some s)
    (hmode : t.mode = some .standard) (hturn : s.file.name ≠ journalName h.today)
    (hfile : FileHolds h (journalOf h.today s) content) : ∃ watch s' found, poll t h =
        ((.ok (), { t with session := some s', watch := watch }),
          (h.shows (turnLine h.today ++ ['\n'])).shows found.text) ∧
      ReadAll 0 (s.switchTo (journalOf h.today s)) s' content [] found := by
  have hfile' : FileHolds (h.shows (turnLine h.today ++ ['\n']))
      (s.switchTo (journalOf h.today s)).file content := hfile
  obtain ⟨found, s', hcheck, hall⟩ :=
    check_readFrom hfile' (ReadFrom.fresh rfl rfl (Nat.zero_le _))
  obtain ⟨watch, hpoll⟩ := poll_turned hway.1 hs hmode hturn hfile hcheck
  rw [Change.shown_eq_text hall.not_truncation] at hpoll
  exact ⟨watch, s', found, hpoll, hall⟩

theorem IsOnItsWay.heed {trigger : Trigger} {shown : Text} (hway : IsOnItsWay since t h told)
    (hs : t.session = some s) (htoday : trigger = .clock → IsUpToDate t s h)
    (hrun : trigger.heed t h = ((.ok (), t'), h'))
    (hshown : h'.output.text = h.output.text ++ shown) :
    IsOnItsWay since t' h' (told ++ shown) := by
  obtain ⟨content, hfile, -⟩ := hway.of_session hs
  obtain ⟨watch, s', found, hheed, hall⟩ := hway.heed_apply hs htoday hfile
  rw [hrun] at hheed
  cases hheed
  rw [Host.shows_text, List.append_cancel_left_eq] at hshown
  subst hshown
  exact ⟨hway.1, s', content, rfl, by rw [hall.file_eq]; exact hfile, hall.readFrom⟩

theorem IsOnItsWay.turn {shown : Text} (hway : IsOnItsWay since t h told) (hs : t.session = some s)
    (hmode : t.mode = some .standard) (hturn : s.file.name ≠ journalName h.today)
    (hfile : FileHolds h (journalOf h.today s) content) (hrun : poll t h = ((.ok (), t'), h'))
    (hshown : h'.output.text = h.output.text ++ (turnLine h.today ++ ['\n']) ++ shown) :
    IsOnItsWay 0 t' h' shown := by
  obtain ⟨watch, s', found, hpoll, hall⟩ := hway.poll_apply hs hmode hturn hfile
  rw [hrun] at hpoll
  cases hpoll
  rw [Host.shows_text, Host.shows_text, List.append_cancel_left_eq] at hshown
  subst hshown
  exact ⟨hway.1, s', content, rfl, by rw [hall.file_eq]; exact hfile, hall.readFrom⟩

theorem Tails.isOnItsWay (hrun : Tails since t h told) : IsOnItsWay since t h told := by
  induction hrun with
  | start hstart hs hfile =>
      obtain ⟨htailing, session, hsession, -, hdecoder, hoffset⟩ := start_eq_true hstart
      obtain rfl := Option.some.inj (hsession.symm.trans hs)
      refine ⟨htailing, session, _, hs, hfile, ReadFrom.fresh hdecoder (hoffset hfile) ?_⟩
      cases session.mode with
      | live => exact Nat.zero_le _
      | standard => exact le_refl _
  | pass _ hs hs' htailing' _ hfile hfile' ih =>
      obtain ⟨htailing, s₁, content, hs₁, hcontent, hread⟩ := ih
      obtain rfl := Option.some.inj (hs₁.symm.trans hs)
      obtain rfl := hfile.unique hcontent
      exact ⟨htailing'.trans htailing, s₁, _, hs'.trans hs, hfile', hread.grow _⟩
  | heed _ hs htoday hheed hshown ih => exact ih.heed hs htoday hheed hshown
  | truncate _ hs hfile hlt htoday hheed ih =>
      obtain ⟨htailing, -⟩ := ih
      obtain ⟨watch, hheed'⟩ := Trigger.heed_apply _ htailing hs htoday (Or.inl hfile)
        (Session.check_truncated hfile hlt)
      rw [hheed] at hheed'
      cases hheed'
      exact ⟨htailing, _, _, rfl, Or.inl hfile, ReadFrom.fresh rfl rfl (Nat.zero_le _)⟩
  | turn _ hs hmode hturn hfile hpoll hshown ih =>
      exact ih.turn hs hmode hturn hfile hpoll hshown

/-- **Tailing loses nothing, repeats nothing and keeps the order.**  Wherever the checks of a
session fell, and whatever made a tailer look, what was told since the decoder was made at the byte
`since` is the reading of the bytes from there up to the offset.  The next check reads up to the
size that it sees, and a file that was emptied is read again from its start. -/
theorem told_eq :
    (∀ {since : ℕ} {s : Session} {h : Host} {told : Text}, Follows since s h told →
      (∃ content, FileHolds h s.file content ∧ s.offset ≤ content.length ∧
        told = textOf s.mode ((content.take s.offset).drop since) ∧
        ∃ found s', s.check h = (.ok (found, s'), h) ∧ s'.offset = content.length ∧
          (∀ n ∈ found.size?, n = content.length) ∧
          told ++ found.text = textOf s.mode (content.drop since)) ∧
      ∀ {h' : Host} {content : Bytes}, FileIs h' s.file content → content.length < s.offset →
        s.check h' = (.ok (.truncated content.length, s.reset), h') ∧
          (Change.truncated content.length).text = [] ∧ s.reset.offset = 0 ∧
          Follows 0 s.reset h' []) ∧
    ∀ {since : ℕ} {t : Tailer} {h : Host} {told : Text}, Tails since t h told →
      ∃ s content, t.session = some s ∧ FileHolds h s.file content ∧ s.offset ≤ content.length ∧
        told = textOf s.mode ((content.take s.offset).drop since) ∧
        ∀ trigger : Trigger, (trigger = .clock → IsUpToDate t s h) →
          ∃ t' s' shown, trigger.heed t h = ((.ok (), t'), h.shows shown) ∧
            t'.session = some s' ∧ s'.offset = content.length ∧
            told ++ shown = textOf s.mode (content.drop since) := by
  refine ⟨fun hrun => ⟨?_, fun hfile hlt => ?_⟩, fun hrun => ?_⟩
  · obtain ⟨content, hfile, hread⟩ := hrun.readFrom
    obtain ⟨found, s', hcheck, hall⟩ := check_readFrom hfile hread
    exact ⟨content, hfile, hread.offset_le, hread.told_eq, found, s', hcheck, hall.offset_eq,
      hall.size_eq, hall.told_eq⟩
  · have hcheck := Session.check_truncated hfile hlt
    exact ⟨hcheck, rfl, rfl, hrun.truncate hfile hlt hcheck⟩
  · obtain ⟨htailing, s, content, hs, hfile, hread⟩ := hrun.isOnItsWay
    refine ⟨s, content, hs, hfile, hread.offset_le, hread.told_eq, fun trigger htoday => ?_⟩
    obtain ⟨found, s', hcheck, hall⟩ := check_readFrom hfile hread
    obtain ⟨watch, hheed⟩ := trigger.heed_apply htailing hs htoday hfile hcheck
    refine ⟨_, s', found.shown, hheed, rfl, hall.offset_eq, ?_⟩
    rw [Change.shown_eq_text hall.not_truncation]
    exact hall.told_eq

/-- A disk with a journal. -/
def journalDisk (content : Bytes) : Disk :=
  ⟨[(["d".toList], .folder), (["d".toList, "Logs".toList], .folder),
    (["d".toList, "Logs".toList, "20240131.log".toList], .file content)]⟩

/-- The journal on it. -/
def journal : Path := .ofText "/d/Logs/20240131.log"

/-- Settings that lead to the journal. -/
def journalSetup : Setup := { settings := pure { compilers := { include5 := "/d" } } }

/-- The tailer that has been started there. -/
def journalTailer (offset : ℕ) (decoder : Decoder) : Tailer :=
  { isTailing := true, chosen := some .standard, mode := some .standard, flavor := some .mql5,
    base := some (.ofText "/d"), sessions := 1, watch := some { file := journal }, clock := .made,
    session := some { file := journal, mode := .standard, offset := offset, decoder := decoder } }

theorem journalTailer_started : ∃ o,
    start journalSetup (some .standard) {} { disk := journalDisk [0x41, 0x00] } =
      ((.ok true, journalTailer 2 (freshDecoder .standard)),
        { disk := journalDisk [0x41, 0x00], output := o }) := ⟨_, rfl⟩

theorem journalDisk_is (content : Bytes) (o : Output) :
    FileIs { disk := journalDisk content, output := o } journal content := by
  have hnull : Act.hasNull journal = false := by decide
  exact ⟨hnull, rfl⟩

theorem journalDisk_holds (content : Bytes) (o : Output) :
    FileHolds { disk := journalDisk content, output := o } journal content :=
  Or.inl (journalDisk_is content o)

/-- A character that is written in two halves is told once it is whole: to a session, and by a
tailer that the watch and the clock made look. -/
theorem told_halves :
    (∃ s told found s', Follows 0 s { disk := journalDisk [0x4B, 0x00] } told ∧
      (s.check { disk := journalDisk [0x4B, 0x00] }).1 = .ok (found, s') ∧
      told ++ found.text = "K".toList) ∧
    ∃ t h told t' shown, Tails 2 t h told ∧
      Trigger.clock.heed t h = ((.ok (), t'), h.shows shown) ∧ told ++ shown = "K".toList := by
  constructor
  · let s : Session := { file := journal, mode := .standard }
    have hstart : Follows s.offset s { disk := journalDisk [] } [] :=
      Follows.start rfl (journalDisk_holds [] {}) (Nat.zero_le _)
    have hhalf : Follows 0 s { disk := journalDisk [0x4B] } [] :=
      hstart.grow (journalDisk_holds [] {}) (journalDisk_holds [0x4B] {})
    have hcheck : s.check { disk := journalDisk [0x4B] } =
        (.ok (.grown [] 1, (s.take [0x4B]).2), { disk := journalDisk [0x4B] }) :=
      Session.check_grown (s := s) (journalDisk_is [0x4B] {}) Nat.one_pos
    have hwhole : Follows 0 (s.take [0x4B]).2 { disk := journalDisk [0x4B, 0x00] } [] :=
      (hhalf.check hcheck).grow (journalDisk_holds [0x4B] {}) (journalDisk_holds [0x4B, 0x00] {})
    obtain ⟨content, hfile, -, -, found, s', hrun, -, -, htold⟩ := (told_eq.1 hwhole).1
    obtain rfl := hfile.unique (journalDisk_holds [0x4B, 0x00] {})
    exact ⟨_, _, found, s', hwhole, by rw [hrun], htold.trans rfl⟩
  · obtain ⟨o, hrun⟩ := journalTailer_started
    let hostOf : Bytes → Host := fun content => { disk := journalDisk content, output := o }
    have hfile : ∀ content, FileHolds (hostOf content) journal content :=
      fun content => journalDisk_holds content o
    let s : Session := { file := journal, mode := .standard, offset := 2 }
    let t := journalTailer 2 (freshDecoder .standard)
    let t' := journalTailer 3 ⟨.utf16, [0x4B]⟩
    have hstart : Tails 2 t (hostOf [0x41, 0x00]) [] :=
      Tails.start hrun rfl (hfile [0x41, 0x00])
    have hhalf : Tails 2 t (hostOf [0x41, 0x00, 0x4B]) [] :=
      hstart.pass rfl rfl rfl rfl (hfile [0x41, 0x00]) (hfile [0x41, 0x00, 0x4B])
    have hcheck := Session.check_grown (s := s) (journalDisk_is [0x41, 0x00, 0x4B] o) (by decide)
    have hlook : Trigger.watch.heed t (hostOf [0x41, 0x00, 0x4B]) =
        ((.ok (), t'), (hostOf [0x41, 0x00, 0x4B]).shows []) :=
      look_apply rfl rfl hcheck
    have hheld : Tails 2 t' ((hostOf [0x41, 0x00, 0x4B]).shows []) [] :=
      hhalf.heed rfl (by rintro ⟨⟩) hlook (Host.shows_text _ [])
    have hwhole : Tails 2 t' (hostOf [0x41, 0x00, 0x4B, 0x00]) [] :=
      hheld.pass rfl rfl rfl rfl (journalDisk_holds [0x41, 0x00, 0x4B] (o.append []))
        (hfile [0x41, 0x00, 0x4B, 0x00])
    obtain ⟨s', content, hs, hcontent, -, -, htold⟩ := told_eq.2 hwhole
    obtain rfl := Option.some.inj hs
    obtain rfl := hcontent.unique (hfile [0x41, 0x00, 0x4B, 0x00])
    have htoday : journal.name = journalName ({} : Host).today := by decide +kernel
    obtain ⟨t'', -, shown, hheed, -, -, hshown⟩ := htold .clock fun _ _ => htoday
    exact ⟨t', _, [], t'', shown, hwhole, hheed, hshown.trans rfl⟩

end MetaDesk.Tail
