import MetaDesk.Proofs.Tail.Turning

/-! # A file that comes back

A check that does not find its file leaves the session as it is: with the place that it had read up
to, and with the bytes that its decoder holds.  What a check tells of a file that is there again
depends on that place (`return_tells`).  A file that is shorter is read again from its start, after
one check that tells nothing.  Of any other file only the bytes after the place are told, and they
are read as if they went on from the bytes of the file that is gone; so the file is told as a whole
only if nothing had been read (`not_whole_of_longer_return`). -/

namespace MetaDesk.Tail

variable {s s' : Session} {h h' h'' : Host} {told : Text} {taken content : Bytes}

/-! ### Sessions on any hosts -/

/-- `Tells s told`: the session has come to be where it is by checks on hosts of any kind, and
`told` is what it has told since its decoder was made. -/
inductive Tells : Session → Text → Prop
  | new (file : Path) (mode : TailMode) (offset : ℕ) :
      Tells { file := file, mode := mode, offset := offset } []
  | atEnd {file : Path} {mode : TailMode} {s : Session} {h h' : Host} :
      Session.atEnd file mode h = (.ok s, h') → Tells s []
  | check {s s' : Session} {h h' : Host} {told : Text} {found : Change} :
      Tells s told → s.check h = (.ok (found, s'), h') → found.isTruncation = false →
      Tells s' (told ++ found.text)
  | truncate {s s' : Session} {h h' : Host} {told : Text} {found : Change} :
      Tells s told → s.check h = (.ok (found, s'), h') → found.isTruncation = true → Tells s' []
  | reset {s : Session} {told : Text} : Tells s told → Tells s.reset []
  | switchTo {s : Session} {told : Text} (file : Path) : Tells s told → Tells (s.switchTo file) []

/-- The decoder of the session has taken in these bytes, of those up to its offset. -/
structure HasTaken (s : Session) (taken : Bytes) (told : Text) : Prop where
  length_le : taken.length ≤ s.offset
  told_eq : told = textOf s.mode taken
  decoder_eq : s.decoder = ((freshDecoder s.mode).feed taken).2

namespace HasTaken

theorem fresh (hdecoder : s.decoder = freshDecoder s.mode) : HasTaken s [] [] :=
  ⟨Nat.zero_le _, rfl, hdecoder⟩

theorem take (htaken : HasTaken s taken told) (bytes : Bytes) :
    HasTaken (s.take bytes).2 (taken ++ bytes) (told ++ (s.take bytes).1) := by
  obtain ⟨htext, hdecoder⟩ := Session.take_after htaken.decoder_eq bytes
  refine ⟨?_, ?_, hdecoder⟩
  · have := htaken.length_le
    rw [Session.take_offset, List.length_append]
    omega
  · rw [htaken.told_eq]
    exact htext

theorem check {found : Change} (htaken : HasTaken s taken told)
    (hcheck : s.check h = (.ok (found, s'), h')) (hnot : found.isTruncation = false) :
    ∃ more, HasTaken s' (taken ++ more) (told ++ found.text) := by
  have hsame : HasTaken s (taken ++ []) (told ++ []) := by
    rwa [List.append_nil, List.append_nil]
  cases Session.checks_of_check hcheck with
  | missing => exact ⟨[], hsame⟩
  | unchanged => exact ⟨[], hsame⟩
  | grown => exact ⟨_, htaken.take _⟩
  | truncated => cases hnot

theorem decoder_fresh (htaken : HasTaken s taken told) (hoffset : s.offset = 0) :
    s.decoder = freshDecoder s.mode := by
  have hnone : taken = [] := by
    have := htaken.length_le
    exact List.eq_nil_of_length_eq_zero (by omega)
  rw [htaken.decoder_eq, hnone]
  rfl

end HasTaken

theorem Tells.hasTaken (hrun : Tells s told) : ∃ taken, HasTaken s taken told := by
  induction hrun with
  | new => exact ⟨[], .fresh rfl⟩
  | atEnd hend =>
      obtain ⟨offset, rfl⟩ := Session.atEnd_eq_ok hend
      exact ⟨[], .fresh rfl⟩
  | check _ hcheck hnot ih =>
      obtain ⟨taken, htaken⟩ := ih
      obtain ⟨more, hmore⟩ := htaken.check hcheck hnot
      exact ⟨_, hmore⟩
  | truncate _ hcheck htruncated _ =>
      cases Session.checks_of_check hcheck with
      | missing => cases htruncated
      | unchanged => cases htruncated
      | grown => cases htruncated
      | truncated => exact ⟨[], .fresh rfl⟩
  | reset => exact ⟨[], .fresh rfl⟩
  | switchTo => exact ⟨[], .fresh rfl⟩

/-! ### Checks of a file that is there -/

theorem Session.take_nil (s : Session) : s.take [] = ([], s) := rfl

theorem check_from_start (hdecoder : s.decoder = freshDecoder s.mode) (hoffset : s.offset = 0)
    (hfile : FileIs h s.file content) : ∃ found s', s.check h = (.ok (found, s'), h) ∧
      found.text = textOf s.mode content ∧ s'.offset = content.length := by
  have hread := ReadFrom.fresh hdecoder hoffset (Nat.zero_le content.length)
  obtain ⟨found, s', hcheck, hall⟩ := check_readFrom (Or.inl hfile) hread
  exact ⟨found, s', hcheck, hall.told_eq, hall.offset_eq⟩

/-- A file that is not shorter than what was read is told from there on, whatever it was before. -/
theorem check_from_offset (hfile : FileIs h s.file content) (hle : s.offset ≤ content.length) :
    ∃ found, s.check h = (.ok (found, (s.take (content.drop s.offset)).2), h) ∧
      found.text = untold s content := by
  rcases lt_or_eq_of_le hle with hlt | heq
  · exact ⟨_, Session.check_grown hfile hlt, rfl⟩
  · have hcheck := Session.check_unchanged hfile heq.symm
    have hnone : s.take (content.drop s.offset) = ([], s) := by
      rw [heq, List.drop_length, Session.take_nil]
    refine ⟨_, by rwa [hnone], ?_⟩
    rw [untold, hnone]
    rfl

/-! ### Coming back -/

/-- **What is told of a file that comes back.**  A check that misses the file changes nothing.  The
next one, of a file that is there again, tells all of it if nothing had been read.  If the new file
is not shorter than what had been read, it tells what is beyond that, as the continuation of the
bytes that its decoder had taken in, and is at the end of the file.  If it is shorter, it tells
nothing and turns the session to the start, and the check after it tells all of the file. -/
theorem return_tells (hrun : Tells s told) (hmissing : s.check h = (.ok (.missing, s'), h'))
    (hback : FileIs h'' s.file content) :
    s' = s ∧ ∃ found s'', s'.check h'' = (.ok (found, s''), h'') ∧
      (s.offset = 0 → found.text = textOf s.mode content ∧ s''.offset = content.length) ∧
      (s.offset ≤ content.length → found.text = untold s content ∧ s''.offset = content.length ∧
        ∃ taken, taken.length ≤ s.offset ∧ told = textOf s.mode taken ∧
          told ++ found.text = textOf s.mode (taken ++ content.drop s.offset)) ∧
      (content.length < s.offset → found.text = [] ∧ s''.offset = 0 ∧
        ∃ found' s₃, s''.check h'' = (.ok (found', s₃), h'') ∧
          found'.text = textOf s.mode content ∧ s₃.offset = content.length) := by
  obtain ⟨taken, htaken⟩ := hrun.hasTaken
  have hsame : s' = s := by
    cases Session.checks_of_check hmissing
    rfl
  subst hsame
  refine ⟨rfl, ?_⟩
  rcases le_or_gt s'.offset content.length with hle | hlt
  · obtain ⟨found, hcheck, htext⟩ := check_from_offset hback hle
    have hoffset : (s'.take (content.drop s'.offset)).2.offset = content.length := by
      rw [Session.take_offset, List.length_drop]
      omega
    have hmore := htaken.take (content.drop s'.offset)
    refine ⟨_, _, hcheck, fun hzero => ⟨?_, hoffset⟩, fun _ => ⟨htext, hoffset, taken,
      htaken.length_le, htaken.told_eq, ?_⟩, fun hlt => absurd hle (by omega)⟩
    · obtain ⟨found', s'', hcheck', htext', -⟩ :=
        check_from_start (htaken.decoder_fresh hzero) hzero hback
      rw [hcheck] at hcheck'
      cases hcheck'
      exact htext'
    · rw [htext]
      exact hmore.told_eq
  · have hagain := check_from_start (s := s'.reset) rfl rfl hback
    exact ⟨_, _, Session.check_truncated hback hlt, fun hzero => absurd hlt (by omega),
      fun hle => absurd hlt (by omega), fun _ => ⟨rfl, rfl, hagain⟩⟩

/-- The folder of the journal without the journal. -/
def emptyLogs : Disk :=
  ⟨[(["d".toList], .folder), (["d".toList, "Logs".toList], .folder)]⟩

theorem emptyLogs_missing : FileMissing { disk := emptyLogs } journal := by
  have hnull : Act.hasNull journal = false := by decide
  exact ⟨hnull, rfl⟩

/-- A session that has told two characters of the journal. -/
def pairSession : Session := { file := journal, mode := .standard, offset := 4 }

theorem pairSession_tells : Tells pairSession "AB".toList := by
  let s : Session := { file := journal, mode := .standard }
  have hfile := journalDisk_is [0x41, 0x00, 0x42, 0x00] {}
  exact (Tells.new journal .standard 0).check (Session.check_grown (s := s) hfile (by decide)) rfl

theorem pairSession_misses : pairSession.check { disk := emptyLogs } =
    (.ok (.missing, pairSession), { disk := emptyLogs }) :=
  Session.check_missing emptyLogs_missing

/-- A file of one character that comes back in the place of one of two is told by the second
check. -/
theorem return_tells_of_shorter : ∃ found s' found' s'', found.text = [] ∧
    pairSession.check { disk := journalDisk [0x4B, 0x00] } =
      (.ok (found, s'), { disk := journalDisk [0x4B, 0x00] }) ∧
    s'.check { disk := journalDisk [0x4B, 0x00] } =
      (.ok (found', s''), { disk := journalDisk [0x4B, 0x00] }) ∧
    found'.text = "K".toList ∧ s''.offset = 2 := by
  have hback : FileIs { disk := journalDisk [0x4B, 0x00] } pairSession.file [0x4B, 0x00] :=
    journalDisk_is [0x4B, 0x00] {}
  obtain ⟨-, found, s', hcheck, -, -, hshorter⟩ :=
    return_tells pairSession_tells pairSession_misses hback
  obtain ⟨hnone, -, found', s'', hcheck', htext, hoffset⟩ := hshorter (by decide)
  exact ⟨found, s', found', s'', hnone, hcheck, hcheck', htext, hoffset⟩

/-- A file that comes back is not always told from its start: of one that is longer than what had
been read only what is beyond that is told. -/
theorem not_whole_of_longer_return :
    ¬ ∀ {s s' : Session} {told : Text} {h h' h'' : Host} {content : Bytes}, Tells s told →
      s.check h = (.ok (.missing, s'), h') → FileIs h'' s.file content →
      ∃ found s'', s'.check h'' = (.ok (found, s''), h'') ∧
        found.text = textOf s.mode content ∧ s''.offset = content.length := by
  intro hclaim
  let content : Bytes := [0x4B, 0x00, 0x4E, 0x00, 0x0A, 0x00]
  have hfile : FileIs { disk := journalDisk content } pairSession.file content :=
    journalDisk_is content {}
  obtain ⟨found, s'', hcheck, htext, -⟩ := hclaim pairSession_tells pairSession_misses hfile
  rw [Session.check_grown hfile (by decide)] at hcheck
  cases hcheck
  exact absurd htext (by decide)

end MetaDesk.Tail
