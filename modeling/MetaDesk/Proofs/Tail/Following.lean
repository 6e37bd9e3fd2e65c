import MetaDesk.Proofs.Host.Act
import MetaDesk.Tail.Session
import Mathlib.Order.Lattice

/-! # Following a file that grows

`Follows since s h told` says that the session `s` was brought to where it is by checks, while the
file was written to in between: its decoder was made at the byte `since`, and `told` are the texts
that were given from then on.  A session that is new, reset or turned to another file has a new
decoder at the start of the file, one that begins at the end of a file has it there, and a check
that finds the file shorter than before makes a new one, again at the start.

What was told is always the reading of the bytes from `since` up to the offset, all at once
(`Follows.told_eq`).  So the reads may fall anywhere, even inside a character. -/

namespace MetaDesk.Tail

/-! ### Files -/

/-- A file with this content is at a path. -/
def FileIs (h : Host) (p : Path) (content : Bytes) : Prop :=
  Act.hasNull p = false ∧ h.disk.look h.here p = .ok (.file content)

/-- Nothing is at a path. -/
def FileMissing (h : Host) (p : Path) : Prop :=
  Act.hasNull p = false ∧ h.disk.look h.here p = .error .notFound

/-- What was written to the file at a path; a file that is not there yet has nothing in it. -/
def FileHolds (h : Host) (p : Path) (content : Bytes) : Prop :=
  FileIs h p content ∨ FileMissing h p ∧ content = []

theorem ask_apply {α : Type} {p : Path} (hp : Act.hasNull p = false)
    (f : Disk → Place → Path → Except Errno α) (h : Host) :
    Act.ask p f h = ((f h.disk h.here p).mapError fun e => .system ⟨e, p.text⟩, h) := by
  unfold Act.ask
  rw [hp]
  simp only [Bool.false_eq_true, if_false]
  rw [Act.bind_of_ok (Act.get_apply h)]
  cases f h.disk h.here p <;> rfl

theorem FileIs.bytesOf {h : Host} {p : Path} {content : Bytes} (hfile : FileIs h p content) :
    Act.bytesOf p h = (.ok content, h) := by
  obtain ⟨hp, hlook⟩ := hfile
  unfold Act.bytesOf
  rw [ask_apply hp, Disk.read, hlook]
  rfl

theorem FileIs.sizeOf? {h : Host} {p : Path} {content : Bytes} (hfile : FileIs h p content) :
    Session.sizeOf? p h = (.ok (some content.length), h) := by
  obtain ⟨hp, hlook⟩ := hfile
  have hsize : Act.fileSize p h = (.ok content.length, h) := by
    unfold Act.fileSize
    rw [ask_apply hp, Disk.size, hlook]
    rfl
  unfold Session.sizeOf?
  rw [Act.bind_of_ok (Act.trySystem_of_ok hsize)]
  rfl

theorem FileMissing.sizeOf? {h : Host} {p : Path} (hfile : FileMissing h p) :
    Session.sizeOf? p h = (.ok none, h) := by
  obtain ⟨hp, hlook⟩ := hfile
  have hsize : Act.fileSize p h = (.error (.system ⟨.notFound, p.text⟩), h) := by
    unfold Act.fileSize
    rw [ask_apply hp, Disk.size, hlook]
    rfl
  unfold Session.sizeOf?
  rw [Act.bind_of_ok (Act.trySystem_of_system hsize)]
  rfl

theorem FileHolds.unique {h : Host} {p : Path} {content content' : Bytes}
    (hfile : FileHolds h p content) (hfile' : FileHolds h p content') : content = content' := by
  rcases hfile with ⟨-, hlook⟩ | ⟨⟨-, hlook⟩, hnil⟩ <;>
    rcases hfile' with ⟨-, hlook'⟩ | ⟨⟨-, hlook'⟩, hnil'⟩ <;> rw [hlook] at hlook' <;> cases hlook'
  · rfl
  · rw [hnil, hnil']

/-! ### Checks -/

/-- The text that a change brings. -/
def Change.text : Change → Text
  | .grown text _ => text
  | _ => []

/-- The size that a check has seen. -/
def Change.size? : Change → Option ℕ
  | .missing => none
  | .unchanged size => some size
  | .grown _ size => some size
  | .truncated size => some size

/-- The check has found that the file became shorter. -/
def Change.isTruncation : Change → Bool
  | .truncated _ => true
  | _ => false

namespace Session

variable {s s' : Session} {h h' : Host} {content : Bytes}

theorem check_missing (hfile : FileMissing h s.file) : s.check h = (.ok (.missing, s), h) := by
  unfold check
  rw [Act.bind_of_ok hfile.sizeOf?]
  rfl

theorem check_grown (hfile : FileIs h s.file content) (hlt : s.offset < content.length) :
    s.check h = (.ok (.grown (s.take (content.drop s.offset)).1 content.length,
      (s.take (content.drop s.offset)).2), h) := by
  have hread : s.readTo content.length h = (.ok (s.take (content.drop s.offset)), h) := by
    unfold readTo
    rw [Act.bind_of_ok hfile.bytesOf, List.take_of_length_le (le_of_eq List.length_drop)]
    rfl
  unfold check
  rw [Act.bind_of_ok hfile.sizeOf?]
  simp only [hlt, if_true]
  rw [Act.bind_of_ok hread]
  rfl

theorem check_unchanged (hfile : FileIs h s.file content) (heq : content.length = s.offset) :
    s.check h = (.ok (.unchanged content.length, s), h) := by
  unfold check
  rw [Act.bind_of_ok hfile.sizeOf?]
  simp only [heq, lt_irrefl, if_false]
  rfl

/-- A file that is shorter than before is read again from its start. -/
theorem check_truncated (hfile : FileIs h s.file content) (hlt : content.length < s.offset) :
    s.check h = (.ok (.truncated content.length, s.reset), h) := by
  have hnot : ¬ s.offset < content.length := by omega
  unfold check
  rw [Act.bind_of_ok hfile.sizeOf?]
  simp only [hnot, hlt, if_true, if_false]
  rfl

/-- `Checks s found s'`: what a check of `s` can find, and how the session goes on. -/
inductive Checks (s : Session) : Change → Session → Prop
  | missing : Checks s .missing s
  | unchanged : Checks s (.unchanged s.offset) s
  | grown {size : ℕ} {bytes : Bytes} : s.offset < size → bytes.length ≤ size - s.offset →
      Checks s (.grown (s.take bytes).1 size) (s.take bytes).2
  | truncated {size : ℕ} : size < s.offset → Checks s (.truncated size) s.reset

theorem readTo_eq_ok {size : ℕ} {text : Text} (hread : s.readTo size h = (.ok (text, s'), h')) :
    ∃ bytes : Bytes, bytes.length ≤ size - s.offset ∧ s.take bytes = (text, s') := by
  unfold readTo at hread
  obtain ⟨bytes, h₁, -, htake⟩ := Act.bind_eq_ok hread
  exact ⟨_, List.length_take_le _ _, Except.ok.inj (Prod.mk.inj htake).1⟩

theorem checks_of_check {found : Change} (hcheck : s.check h = (.ok (found, s'), h')) :
    Checks s found s' := by
  unfold check at hcheck
  obtain ⟨size?, h₁, -, hrest⟩ := Act.bind_eq_ok hcheck
  cases size? with
  | none =>
      cases hrest
      exact .missing
  | some size =>
      dsimp only at hrest
      split at hrest
      · next hlt =>
          obtain ⟨⟨text, s₁⟩, h₂, hread, hlast⟩ := Act.bind_eq_ok hrest
          obtain ⟨bytes, hlength, htake⟩ := readTo_eq_ok hread
          cases hlast
          have hgrown := Checks.grown hlt hlength
          rwa [htake] at hgrown
      · next hnot =>
          split at hrest
          · next hlt =>
              cases hrest
              exact .truncated hlt
          · next hnot' =>
              obtain rfl : size = s.offset := by omega
              cases hrest
              exact .unchanged

/-- A session that begins at the end of a file has a new decoder there. -/
theorem atEnd_eq_ok {file : Path} {mode : TailMode} (hend : atEnd file mode h = (.ok s, h')) :
    ∃ offset, s = { file := file, mode := mode, offset := offset } := by
  unfold atEnd at hend
  obtain ⟨size?, h₁, -, hlast⟩ := Act.bind_eq_ok hend
  cases hlast
  exact ⟨_, rfl⟩

theorem atEnd_eq {file : Path} {mode : TailMode} (hfile : FileHolds h file content) :
    atEnd file mode h = (.ok { file := file, mode := mode, offset := content.length }, h) := by
  unfold atEnd
  rcases hfile with hfile | ⟨hfile, rfl⟩
  · rw [Act.bind_of_ok hfile.sizeOf?]
    rfl
  · rw [Act.bind_of_ok hfile.sizeOf?]
    rfl

end Session

/-! ### Runs -/

/-- A decoder that has read nothing. -/
def freshDecoder (mode : TailMode) : Decoder := ⟨encodingOf mode, []⟩

/-- The text of bytes that are read all at once, without byte order marks.  A character that is not
whole at the end is withheld. -/
def textOf (mode : TailMode) (bytes : Bytes) : Text :=
  Text.dropMarks ((freshDecoder mode).feed bytes).1

/-- What is taken in after some bytes is read as their continuation. -/
theorem Session.take_after {s : Session} {taken : Bytes}
    (hdecoder : s.decoder = ((freshDecoder s.mode).feed taken).2) (bytes : Bytes) :
    textOf s.mode taken ++ (s.take bytes).1 = textOf s.mode (taken ++ bytes) ∧
      (s.take bytes).2.decoder = ((freshDecoder s.mode).feed (taken ++ bytes)).2 := by
  rw [textOf, textOf, Decoder.feed_append, ← hdecoder]
  refine ⟨?_, rfl⟩
  simp [Text.dropMarks, Session.take]

/-- `Follows since s h told`: checks have brought the session to where it is, its decoder was made
at the byte `since`, and `told` are the texts that were given from then on. -/
inductive Follows : ℕ → Session → Host → Text → Prop
  | start {s : Session} {h : Host} {content : Bytes} :
      s.decoder = freshDecoder s.mode → FileHolds h s.file content → s.offset ≤ content.length →
      Follows s.offset s h []
  | atEnd {file : Path} {mode : TailMode} {s : Session} {h h' : Host} {content : Bytes} :
      FileHolds h file content → Session.atEnd file mode h = (.ok s, h') →
      Follows content.length s h' []
  | grow {since : ℕ} {s : Session} {h h' : Host} {told : Text} {content more : Bytes} :
      Follows since s h told → FileHolds h s.file content →
      FileHolds h' s.file (content ++ more) → Follows since s h' told
  | check {since : ℕ} {s s' : Session} {h h' : Host} {told : Text} {found : Change} :
      Follows since s h told → s.check h = (.ok (found, s'), h') →
      Follows since s' h' (told ++ found.text)
  | truncate {since : ℕ} {s s' : Session} {h h' h'' : Host} {told : Text} {found : Change}
      {content : Bytes} :
      Follows since s h told → FileIs h' s.file content → content.length < s.offset →
      s.check h' = (.ok (found, s'), h'') → Follows 0 s' h'' []
  | reset {since : ℕ} {s : Session} {h : Host} {told : Text} :
      Follows since s h told → Follows 0 s.reset h []
  | switchTo {since : ℕ} {s : Session} {h : Host} {told : Text} {file : Path} {content : Bytes} :
      Follows since s h told → FileHolds h file content → Follows 0 (s.switchTo file) h []

/-- The session has read the bytes from `since` up to its offset, and told their text. -/
structure ReadFrom (since : ℕ) (s : Session) (content : Bytes) (told : Text) : Prop where
  since_le : since ≤ s.offset
  offset_le : s.offset ≤ content.length
  told_eq : told = textOf s.mode ((content.take s.offset).drop since)
  decoder_eq : s.decoder = ((freshDecoder s.mode).feed ((content.take s.offset).drop since)).2

namespace ReadFrom

variable {since : ℕ} {s : Session} {content : Bytes} {told : Text}

theorem fresh (hdecoder : s.decoder = freshDecoder s.mode) (hsince : s.offset = since)
    (hle : since ≤ content.length) : ReadFrom since s content [] := by
  have hnone : (content.take s.offset).drop since = [] := by
    rw [List.drop_eq_nil_iff, List.length_take]
    omega
  refine ⟨by omega, by omega, ?_, ?_⟩
  · rw [hnone]
    rfl
  · rw [hnone, hdecoder]
    rfl

theorem grow (hread : ReadFrom since s content told) (more : Bytes) :
    ReadFrom since s (content ++ more) told := by
  have htake : (content ++ more).take s.offset = content.take s.offset :=
    List.take_append_of_le_length hread.offset_le
  refine ⟨hread.since_le, ?_, ?_, ?_⟩
  · have := hread.offset_le
    rw [List.length_append]
    omega
  · rw [htake]
    exact hread.told_eq
  · rw [htake]
    exact hread.decoder_eq

/-- Taking in the rest of the file tells the text of all of it. -/
theorem take_rest (hread : ReadFrom since s content told) :
    ReadFrom since (s.take (content.drop s.offset)).2 content
        (told ++ (s.take (content.drop s.offset)).1) ∧
      (s.take (content.drop s.offset)).2.offset = content.length := by
  have hoffset : (s.take (content.drop s.offset)).2.offset = content.length := by
    have := hread.offset_le
    rw [Session.take_offset, List.length_drop]
    omega
  have hwhole : (content.take content.length).drop since =
      (content.take s.offset).drop since ++ content.drop s.offset := by
    have hsince := hread.since_le
    have hlength : (content.take s.offset).length = s.offset := by
      rw [List.length_take]
      exact min_eq_left hread.offset_le
    conv_lhs => rw [List.take_length, ← List.take_append_drop s.offset content]
    rw [List.drop_append_of_le_length (by omega)]
  have hmode : (s.take (content.drop s.offset)).2.mode = s.mode := rfl
  obtain ⟨htext, hdecoder⟩ := Session.take_after hread.decoder_eq (content.drop s.offset)
  refine ⟨⟨?_, ?_, ?_, ?_⟩, hoffset⟩
  · have := hread.since_le
    have := hread.offset_le
    omega
  · rw [hoffset]
  · rw [hoffset, hwhole, hmode, hread.told_eq]
    exact htext
  · rw [hoffset, hwhole, hmode]
    exact hdecoder

end ReadFrom

variable {since : ℕ} {s : Session} {h : Host} {told : Text}

/-- What a check has found and how the session goes on, when the whole file was read. -/
structure ReadAll (since : ℕ) (s s' : Session) (content : Bytes) (told : Text) (found : Change) :
    Prop where
  file_eq : s'.file = s.file
  mode_eq : s'.mode = s.mode
  offset_eq : s'.offset = content.length
  size_eq : ∀ n ∈ found.size?, n = content.length
  not_truncation : found.isTruncation = false
  told_eq : told ++ found.text = textOf s.mode (content.drop since)
  readFrom : ReadFrom since s' content (told ++ found.text)

theorem ReadFrom.readAll {s' : Session} {content : Bytes} {found : Change}
    (hread : ReadFrom since s' content (told ++ found.text)) (hfile : s'.file = s.file)
    (hmode : s'.mode = s.mode) (hoffset : s'.offset = content.length)
    (hsize : ∀ n ∈ found.size?, n = content.length) (hnot : found.isTruncation = false) :
    ReadAll since s s' content told found := by
  refine ⟨hfile, hmode, hoffset, hsize, hnot, ?_, hread⟩
  rw [hread.told_eq, hoffset, hmode, List.take_length]

/-- One check of a file that did not become shorter: it reads everything that is there. -/
theorem check_readFrom {content : Bytes} (hfile : FileHolds h s.file content)
    (hread : ReadFrom since s content told) : ∃ found s',
      s.check h = (.ok (found, s'), h) ∧ ReadAll since s s' content told found := by
  rcases hfile with hfile | ⟨hfile, rfl⟩
  · rcases lt_or_eq_of_le hread.offset_le with hlt | heq
    · obtain ⟨hnext, hoffset⟩ := hread.take_rest
      have hsize : ∀ n ∈ (Change.grown (s.take (content.drop s.offset)).1 content.length).size?,
          n = content.length := by
        rintro n ⟨⟩
        rfl
      exact ⟨_, _, Session.check_grown hfile hlt, hnext.readAll rfl rfl hoffset hsize rfl⟩
    · have hsize : ∀ n ∈ (Change.unchanged content.length).size?, n = content.length := by
        rintro n ⟨⟩
        rfl
      refine ⟨_, _, Session.check_unchanged hfile heq.symm, ?_⟩
      refine ReadFrom.readAll ?_ rfl rfl heq hsize rfl
      rw [show (Change.unchanged content.length).text = [] from rfl, List.append_nil]
      exact hread
  · have hoffset : s.offset = 0 := Nat.le_zero.mp hread.offset_le
    have hsize : ∀ n ∈ Change.missing.size?, n = 0 := by rintro n ⟨⟩
    refine ⟨_, _, Session.check_missing hfile, ReadFrom.readAll ?_ rfl rfl hoffset hsize rfl⟩
    rw [show Change.missing.text = [] from rfl, List.append_nil]
    exact hread

/-- Every session on its way has told the text of what it has read. -/
theorem Follows.readFrom (hrun : Follows since s h told) :
    ∃ content, FileHolds h s.file content ∧ ReadFrom since s content told := by
  induction hrun with
  | start hdecoder hfile hle => exact ⟨_, hfile, ReadFrom.fresh hdecoder rfl hle⟩
  | atEnd hfile hend =>
      rw [Session.atEnd_eq hfile] at hend
      obtain ⟨hs, rfl⟩ := Prod.mk.inj hend
      obtain rfl := Except.ok.inj hs
      exact ⟨_, hfile, ReadFrom.fresh rfl rfl (le_refl _)⟩
  | grow _ hfile hfile' ih =>
      obtain ⟨content, hcontent, hread⟩ := ih
      obtain rfl := hfile.unique hcontent
      exact ⟨_, hfile', hread.grow _⟩
  | check _ hcheck ih =>
      obtain ⟨content, hfile, hread⟩ := ih
      obtain ⟨found, s', hcheck', hall⟩ := check_readFrom hfile hread
      rw [hcheck] at hcheck'
      obtain ⟨hs, rfl⟩ := Prod.mk.inj hcheck'
      obtain ⟨rfl, rfl⟩ := Prod.mk.inj (Except.ok.inj hs)
      exact ⟨content, hall.file_eq.symm ▸ hfile, hall.readFrom⟩
  | truncate _ hfile hlt hcheck _ =>
      rw [Session.check_truncated hfile hlt] at hcheck
      obtain ⟨hs, rfl⟩ := Prod.mk.inj hcheck
      obtain ⟨-, rfl⟩ := Prod.mk.inj (Except.ok.inj hs)
      exact ⟨_, Or.inl hfile, ReadFrom.fresh rfl rfl (Nat.zero_le _)⟩
  | reset _ ih =>
      obtain ⟨content, hfile, -⟩ := ih
      exact ⟨content, hfile, ReadFrom.fresh rfl rfl (Nat.zero_le _)⟩
  | switchTo _ hfile _ => exact ⟨_, hfile, ReadFrom.fresh rfl rfl (Nat.zero_le _)⟩

end MetaDesk.Tail
