import MetaDesk.Proofs.Bytes.Utf16
import MetaDesk.Proofs.Tail.Tailing

/-! # Following a journal from its end

A session that begins at the end of a journal begins at whatever byte the terminal has got to, with
a new decoder.  Whatever is added to the journal, and wherever the checks fall, what is told is the
reading of the added bytes alone (`tells_end_of_text`).  So it is the end of the text of the journal
if the session begins between two characters.  Within a pair it begins with a replacement character,
and within a unit it is some other text (`not_end_of_cut_unit`). -/

namespace MetaDesk.Tail

variable {file : Path} {before more : Bytes} {s : Session} {h : Host} {told : Text}

/-- `FromEnd file before more s h told`: the session was made at the end of a journal that held
`before`, `more` has been added to it, and `told` was told by the checks that fell in between. -/
inductive FromEnd (file : Path) (before : Bytes) : Bytes → Session → Host → Text → Prop
  | made {s : Session} {h h' : Host} : FileHolds h file before →
      Session.atEnd file .standard h = (.ok s, h') → FromEnd file before [] s h' []
  | added {s : Session} {h h' : Host} {told : Text} {more piece : Bytes} :
      FromEnd file before more s h told → FileHolds h' file (before ++ (more ++ piece)) →
      FromEnd file before (more ++ piece) s h' told
  | check {s s' : Session} {h h' : Host} {told : Text} {more : Bytes} {found : Change} :
      FromEnd file before more s h told → s.check h = (.ok (found, s'), h') →
      FromEnd file before more s' h' (told ++ found.text)

/-- What such a session is at any moment. -/
structure IsFromEnd (file : Path) (before more : Bytes) (s : Session) (h : Host) (told : Text) :
    Prop where
  file_eq : s.file = file
  mode_eq : s.mode = .standard
  holds : FileHolds h file (before ++ more)
  readFrom : ReadFrom before.length s (before ++ more) told

namespace IsFromEnd

theorem added (hat : IsFromEnd file before more s h told) {h' : Host} {piece : Bytes}
    (hfile : FileHolds h' file (before ++ (more ++ piece))) :
    IsFromEnd file before (more ++ piece) s h' told := by
  refine ⟨hat.file_eq, hat.mode_eq, hfile, ?_⟩
  rw [← List.append_assoc]
  exact hat.readFrom.grow piece

theorem check (hat : IsFromEnd file before more s h told) : ∃ found s',
    s.check h = (.ok (found, s'), h) ∧ IsFromEnd file before more s' h (told ++ found.text) ∧
      s'.offset = (before ++ more).length ∧ told ++ found.text = textOf .standard more := by
  have hfile : FileHolds h s.file (before ++ more) := hat.file_eq.symm ▸ hat.holds
  obtain ⟨found, s', hcheck, hall⟩ := check_readFrom hfile hat.readFrom
  have htold := hall.told_eq
  rw [hat.mode_eq, List.drop_left] at htold
  refine ⟨found, s', hcheck, ⟨hall.file_eq.trans hat.file_eq, hall.mode_eq.trans hat.mode_eq,
    hat.holds, hall.readFrom⟩, hall.offset_eq, htold⟩

end IsFromEnd

theorem FromEnd.isFromEnd (hrun : FromEnd file before more s h told) :
    IsFromEnd file before more s h told := by
  induction hrun with
  | made hfile hend =>
      rw [Session.atEnd_eq hfile] at hend
      cases hend
      rw [← List.append_nil before] at hfile
      refine ⟨rfl, rfl, hfile, ?_⟩
      rw [List.append_nil]
      exact ReadFrom.fresh rfl rfl (le_refl _)
  | added _ hfile ih => exact ih.added hfile
  | check _ hcheck ih =>
      obtain ⟨found, s', hcheck', hat, -⟩ := ih.check
      rw [hcheck] at hcheck'
      cases hcheck'
      exact hat

theorem textOf_standard (bytes : Bytes) :
    textOf .standard bytes = Text.dropMarks (Encoding.utf16.read [] bytes).1 := rfl

theorem suffix_dropMarks {t rest : Text} (hrest : rest <:+ t) :
    Text.dropMarks rest <:+ Text.dropMarks t := hrest.filter _

/-- **What is told of a journal that is followed from its end.**  At any moment the next check ends
well, is at the end of the journal then, and what has been told is the reading of the bytes that
were added.  If the bytes of the journal are those of a text, this is the end of that text, without
its byte order marks, when the session was made between two characters.  When it was made within a
pair of units, there is a replacement character before that. -/
theorem tells_end_of_text (file : Path) (before : Bytes) :
    (∀ {h : Host}, FileHolds h file before →
      ∃ s, Session.atEnd file .standard h = (.ok s, h) ∧ FromEnd file before [] s h []) ∧
    ∀ {more : Bytes} {s : Session} {h : Host} {told : Text}, FromEnd file before more s h told →
      ∃ found s', s.check h = (.ok (found, s'), h) ∧
        s'.offset = (before ++ more).length ∧ told ++ found.text = textOf .standard more ∧
        ∀ {t : Text}, before ++ more = Utf16.encode t →
          ((∃ t₁, before = Utf16.encode t₁) → told ++ found.text <:+ Text.dropMarks t) ∧
          (before.length % 2 = 0 → ∃ rest, rest <:+ Text.dropMarks t ∧
            (told ++ found.text = rest ∨ told ++ found.text = Utf8.replacement :: rest)) := by
  refine ⟨fun hfile => ⟨_, Session.atEnd_eq hfile, .made hfile (Session.atEnd_eq hfile)⟩, ?_⟩
  intro more s h told hrun
  obtain ⟨found, s', hcheck, -, hoffset, htold⟩ := hrun.isFromEnd.check
  refine ⟨found, s', hcheck, hoffset, htold, fun {t} htext => ⟨?_, fun heven => ?_⟩⟩
  · rintro ⟨t₁, rfl⟩
    obtain ⟨rest, rfl, hread⟩ := Utf16.read_after_encode htext
    rw [htold, textOf_standard, hread]
    exact suffix_dropMarks (List.suffix_append t₁ rest)
  · obtain ⟨rest, hrest, hread⟩ := Utf16.read_of_cut (Utf16.cut_encode htext heven)
    refine ⟨Text.dropMarks rest, suffix_dropMarks hrest, ?_⟩
    rw [htold, textOf_standard]
    rcases hread with hread | hread
    · rw [hread]
      exact Or.inl rfl
    · rw [hread]
      exact Or.inr rfl

theorem fromEnd_journal (before more : Bytes) :
    FromEnd journal before more { file := journal, mode := .standard, offset := before.length }
      { disk := journalDisk (before ++ more) } [] := by
  have hfile := journalDisk_holds before {}
  have hadded : FileHolds { disk := journalDisk (before ++ more) } journal
      (before ++ ([] ++ more)) := journalDisk_holds (before ++ more) {}
  exact (FromEnd.made hfile (Session.atEnd_eq hfile)).added hadded

/-- A session that is made between two characters tells the second one. -/
theorem tells_end_of_text_of_two : ∃ s h told found s',
    FromEnd journal [0x41, 0x00] [0x4B, 0x00] s h told ∧ s.check h = (.ok (found, s'), h) ∧
      told ++ found.text = "K".toList ∧ told ++ found.text <:+ "AK".toList := by
  have hrun := fromEnd_journal [0x41, 0x00] [0x4B, 0x00]
  obtain ⟨found, s', hcheck, -, htold, hends⟩ := (tells_end_of_text journal [0x41, 0x00]).2 hrun
  have hend := (hends (t := "AK".toList) rfl).1 ⟨"A".toList, rfl⟩
  exact ⟨_, _, _, found, s', hrun, hcheck, htold, hend⟩

/-- A session that is made within a unit tells a text that is no end of that of the journal. -/
theorem not_end_of_cut_unit :
    ¬ ∀ {file : Path} {before more : Bytes} {s : Session} {h : Host} {told t : Text},
      FromEnd file before more s h told → before ++ more = Utf16.encode t →
      ∃ found s', s.check h = (.ok (found, s'), h) ∧ told ++ found.text <:+ Text.dropMarks t := by
  intro hclaim
  have hrun := fromEnd_journal [0x68, 0x00, 0x69] [0x00, 0x6B, 0x00]
  obtain ⟨found, s', hcheck, hend⟩ := hclaim (t := "hik".toList) hrun rfl
  obtain ⟨found', s'', hcheck', -, -, htold⟩ := hrun.isFromEnd.check
  rw [hcheck] at hcheck'
  cases hcheck'
  rw [htold] at hend
  exact absurd hend (by decide)

end MetaDesk.Tail
