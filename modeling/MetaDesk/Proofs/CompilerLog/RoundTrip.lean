import MetaDesk.CompilerLog.Report
import MetaDesk.Proofs.CompilerLog.Reading

/-! # Reading back a log of problems

`Problem` is a problem with a path as the compiler writes it, and `Problem.written` is its line in
the log.  A log with one such line for each problem, whatever its line breaks, is read back as the
diagnostics of these problems (`read_written`): no line is taken for one of another kind
(`Problem.classify_trimmed`), and each is found to say what it was written from
(`Problem.finding_trimmed`). -/

namespace MetaDesk.CompilerLog

open Text

/-- A text that can stand in the line of a problem: it is on one line, without byte order marks and
without the word that notices have. -/
structure IsPlain (t : Text) : Prop where
  noBreak : ∀ c ∈ t, isLineBreak c = false
  noMark : byteOrderMark ∉ t
  noNotice : holdsAnyCase noticeWord t = false

/-- A problem in a file on a drive. -/
structure Problem where
  drive : Char
  /-- The path from the first slash on, without it. -/
  rest : Text
  line : ℕ
  column : ℕ
  severity : Severity
  code : Option Text
  message : Text
  drive_isAlpha : drive.isAlpha = true
  rest_ne_nil : rest ≠ []
  rest_noColon : ':' ∉ rest
  rest_last : ∀ c ∈ rest.getLast?, isBlank c = false
  path_isPlain : IsPlain (drive :: ':' :: '\\' :: rest)
  line_length : (ofNat line).length ≤ maxDigits
  column_length : (ofNat column).length ≤ maxDigits
  code_digits : ∀ digits ∈ code, digits ≠ [] ∧ ∀ c ∈ digits, c.isDigit = true
  message_isPlain : IsPlain message
  message_isTrimmed : IsTrimmed message
  isReported : isSuppressed code message = false

namespace Problem

variable (p : Problem)

def path : Text := p.drive :: ':' :: '\\' :: p.rest

/-- The line of the problem in a log. -/
def written : Text :=
  p.path ++ "(" ++ ofNat p.line ++ "," ++ ofNat p.column ++ ") : " ++ p.severity.label
    ++ codePiece p.code ++ ": " ++ p.message

/-- What is said of the problem, of which lines and columns count from zero. -/
def diagnostic : Diagnostic :=
  ⟨p.path, (p.line : ℤ) - 1, (p.column : ℤ) - 1, p.severity, p.message, p.code⟩

/-- The line that is shown. -/
def shown : Text := p.message ++ " (" ++ ofNat p.line ++ "," ++ ofNat p.column ++ ")"

/-! ### The line without the blanks around it -/

/-- A message as it is left behind its colon. -/
def messagePiece : Text → Text
  | [] => []
  | c :: m => ' ' :: c :: m

theorem trim_messagePiece {m : Text} (h : IsTrimmed m) : trim (messagePiece m) = m := by
  cases m with
  | nil => rfl
  | cons c m =>
      have htrim := trim_of_isTrimmed h
      unfold trim at htrim ⊢
      rw [messagePiece, trimStart_blank_cons rfl, htrim]

/-- What is said behind the place. -/
def body : Text := p.severity.label ++ (codePiece p.code ++ ':' :: messagePiece p.message)

/-- The line as it is looked at. -/
def trimmed : Text :=
  p.path ++ '(' :: (ofNat p.line ++ ',' :: (ofNat p.column ++ ')' :: ' ' :: ':' :: ' ' :: p.body))

theorem trim_written : trim p.written = p.trimmed := by
  have hstart : ∀ t, trimStart (p.path ++ t) = p.path ++ t := by
    intro t
    apply trimStart_of_head
    rintro c ⟨⟩
    exact isBlank_eq_false_of_visible (isVisible_of_isAlpha p.drive_isAlpha)
  have hcolon : ∀ c ∈ (p.path ++ '(' :: (ofNat p.line ++ ',' :: (ofNat p.column ++ ')' :: ' ' ::
      ':' :: ' ' :: (p.severity.label ++ (codePiece p.code ++ [':']))))).getLast?,
      isBlank c = false := by
    intro c hc
    simp only [← List.cons_append, ← List.append_assoc, List.getLast?_concat,
      Option.mem_some_iff] at hc
    rw [← hc]
    rfl
  cases hm : p.message with
  | nil =>
      have hwritten : p.written = p.trimmed ++ [' '] := by
        simp [written, trimmed, body, hm, messagePiece]
      rw [hwritten]
      unfold trim
      rw [trimmed, List.append_assoc, hstart, ← List.append_assoc, trimEnd_append_blank rfl,
        body, hm, messagePiece, trimEnd_of_last hcolon]
  | cons c m =>
      have hwritten : p.written = p.trimmed := by
        simp [written, trimmed, body, hm, messagePiece]
      rw [hwritten]
      unfold trim
      rw [trimmed, hstart, trimEnd_of_last]
      intro d hd
      apply p.message_isTrimmed.last
      rw [hm]
      simpa [body, hm, messagePiece, List.getLast?_append, List.getLast?_cons] using hd

/-! ### Characters of the line -/

theorem isVisible_of_mem_label {s : Severity} : ∀ c ∈ s.label, IsVisible c := by
  refine List.all_iff_forall_prop.mp ?_
  cases s <;> decide

theorem forall_mem_body {P : Char → Prop} (hmessage : ∀ c ∈ p.message, P c)
    (hascii : ∀ c, c = ' ' ∨ IsVisible c → P c) : ∀ c ∈ p.body, P c := by
  intro c hc
  simp only [body, List.mem_append, List.mem_cons] at hc
  rcases hc with hc | hc | rfl | hc
  · apply hascii
    right
    exact isVisible_of_mem_label c hc
  · cases hcode : p.code with
    | none => rw [hcode] at hc; cases hc
    | some digits =>
        rw [hcode, codePiece, List.mem_cons] at hc
        rcases hc with rfl | hc
        · exact hascii _ (Or.inl rfl)
        · exact hascii c (Or.inr (isVisible_of_isDigit ((p.code_digits digits hcode).2 c hc)))
  · exact hascii _ (Or.inr (by decide))
  · cases hm : p.message with
    | nil => rw [hm] at hc; cases hc
    | cons d m =>
        rw [hm, messagePiece, List.mem_cons] at hc
        rcases hc with rfl | hc
        · exact hascii _ (Or.inl rfl)
        · exact hmessage c (hm ▸ hc)

theorem forall_mem_trimmed {P : Char → Prop} (hpath : ∀ c ∈ p.path, P c)
    (hmessage : ∀ c ∈ p.message, P c) (hascii : ∀ c, c = ' ' ∨ IsVisible c → P c) :
    ∀ c ∈ p.trimmed, P c := by
  have hdigits : ∀ n : ℕ, ∀ c ∈ ofNat n, P c := fun n c hc =>
    hascii c (Or.inr (isVisible_of_isDigit (isDigit_of_mem_ofNat hc)))
  intro c hc
  simp only [trimmed, List.mem_append, List.mem_cons] at hc
  rcases hc with hc | rfl | hc | rfl | hc | rfl | rfl | rfl | rfl | hc
  · exact hpath c hc
  · exact hascii _ (Or.inr (by decide))
  · exact hdigits p.line c hc
  · exact hascii _ (Or.inr (by decide))
  · exact hdigits p.column c hc
  · exact hascii _ (Or.inr (by decide))
  · exact hascii _ (Or.inl rfl)
  · exact hascii _ (Or.inr (by decide))
  · exact hascii _ (Or.inl rfl)
  · exact p.forall_mem_body hmessage hascii c hc

theorem forall_mem_written {P : Char → Prop} (hpath : ∀ c ∈ p.path, P c)
    (hmessage : ∀ c ∈ p.message, P c) (hascii : ∀ c, c = ' ' ∨ IsVisible c → P c) :
    ∀ c ∈ p.written, P c := by
  have htrimmed := p.forall_mem_trimmed hpath hmessage hascii
  cases hm : p.message with
  | nil =>
      have hwritten : p.written = p.trimmed ++ [' '] := by
        simp [written, trimmed, body, hm, messagePiece]
      intro c hc
      rw [hwritten, List.mem_append, List.mem_singleton] at hc
      rcases hc with hc | rfl
      · exact htrimmed c hc
      · exact hascii _ (Or.inl rfl)
  | cons d m =>
      have hwritten : p.written = p.trimmed := by
        simp [written, trimmed, body, hm, messagePiece]
      rwa [hwritten]

theorem isLine_written : IsLine p.written := by
  refine ⟨by simp [written, path], ?_⟩
  exact p.forall_mem_written p.path_isPlain.noBreak p.message_isPlain.noBreak
    isLineBreak_eq_false_of_ascii

theorem ne_mark_of_mem_written : ∀ c ∈ p.written, c ≠ byteOrderMark := by
  refine p.forall_mem_written ?_ ?_ ?_
  · rintro c hc rfl
    exact p.path_isPlain.noMark hc
  · rintro c hc rfl
    exact p.message_isPlain.noMark hc
  · exact fun c hc => ne_mark_of_ascii hc

theorem ne_feed_of_noBreak {t : Text} (h : ∀ c ∈ t, isLineBreak c = false) : '\n' ∉ t :=
  fun hfeed => absurd (h '\n' hfeed) (by decide)

theorem noBreak_body : ∀ c ∈ p.body, isLineBreak c = false :=
  p.forall_mem_body p.message_isPlain.noBreak isLineBreak_eq_false_of_ascii

/-! ### The kind of the line -/

theorem noNotice_body : holdsAnyCase noticeWord p.body = false := by
  have hne : noticeWord ≠ [] := by decide
  have hblank := sameLetter_noticeWord_of_mark ' ' (by simp)
  have hcolon := sameLetter_noticeWord_of_mark ':' (by simp)
  have hmessage : holdsAnyCase noticeWord (messagePiece p.message) = false := by
    have hplain := p.message_isPlain.noNotice
    cases hm : p.message with
    | nil => rfl
    | cons c m =>
        rw [hm] at hplain
        rw [messagePiece, holdsAnyCase_cons hne hblank, hplain]
  have hseverity : holdsAnyCase noticeWord p.severity.label = false := by
    cases p.severity <;> decide +kernel
  unfold body
  cases hcode : p.code with
  | none =>
      rw [codePiece, List.nil_append, holdsAnyCase_append_cons hne hcolon, hseverity, hmessage]
      rfl
  | some digits =>
      have hdigits := holdsAnyCase_of_digits (p.code_digits digits hcode).2
      rw [codePiece, List.cons_append, holdsAnyCase_append_cons hne hblank,
        holdsAnyCase_append_cons hne hcolon, hseverity, hdigits, hmessage]
      rfl

theorem noNotice_trimmed : holdsAnyCase noticeWord p.trimmed = false := by
  have hne : noticeWord ≠ [] := by decide
  have hblank := sameLetter_noticeWord_of_mark ' ' (by simp)
  have hcolon := sameLetter_noticeWord_of_mark ':' (by simp)
  have hopen := sameLetter_noticeWord_of_mark '(' (by simp)
  have hcomma := sameLetter_noticeWord_of_mark ',' (by simp)
  have hclose := sameLetter_noticeWord_of_mark ')' (by simp)
  have hdigits : ∀ n : ℕ, holdsAnyCase noticeWord (ofNat n) = false := fun n =>
    holdsAnyCase_of_digits fun c hc => isDigit_of_mem_ofNat hc
  have hpath : holdsAnyCase noticeWord p.path = false := p.path_isPlain.noNotice
  unfold trimmed
  rw [holdsAnyCase_append_cons hne hopen, holdsAnyCase_append_cons hne hcomma,
    holdsAnyCase_append_cons hne hclose, holdsAnyCase_cons hne hblank,
    holdsAnyCase_cons hne hcolon, holdsAnyCase_cons hne hblank, hpath, hdigits, hdigits,
    p.noNotice_body]
  rfl

theorem body_eq_cons : ∃ c t, p.body = c :: t ∧ isBlank c = false := by
  unfold body
  cases p.severity with
  | error => exact ⟨'e', "rror".toList ++ _, rfl, rfl⟩
  | warning => exact ⟨'w', "arning".toList ++ _, rfl, rfl⟩

theorem head_body : ∀ c ∈ p.body.head?, isBlank c = false := by
  obtain ⟨c, t, hbody, hc⟩ := p.body_eq_cons
  rw [hbody]
  rintro d ⟨⟩
  exact hc

theorem bodyOf?_body : bodyOf? (' ' :: p.body) = some p.body := by
  apply bodyOf?_blank_cons
  · obtain ⟨c, t, hbody, -⟩ := p.body_eq_cons
    simp [hbody]
  · exact ne_feed_of_noBreak p.noBreak_body
  · exact p.head_body

/-- The path is read up to the place where it was written to end. -/
theorem pathAndPlace?_trimmed : pathAndPlace? p.trimmed =
    some (some p.path, ⟨ofNat p.line, ofNat p.column, p.body⟩) := by
  have hplaced := placed?_written (fun c hc => isDigit_of_mem_ofNat hc) (ofNat_ne_nil p.line)
    (fun c hc => isDigit_of_mem_ofNat hc) (ofNat_ne_nil p.column) p.bodyOf?_body
  have hfeed : ∀ c ∈ p.rest, c ≠ '\n' := by
    rintro c hc rfl
    have hmem : '\n' ∈ p.path := by simp [path, hc]
    exact ne_feed_of_noBreak p.path_isPlain.noBreak hmem
  have hpath := drivePathBefore_placed? p.drive_isAlpha p.rest_ne_nil p.rest_noColon hfeed hplaced
  unfold pathAndPlace? trimmed path
  rw [List.cons_append, List.cons_append, List.cons_append, hpath]

theorem classify_trimmed : classify p.trimmed = .pathDiagnostic := by
  have hnotice := p.noNotice_trimmed
  have hresult : isResult p.trimmed = false := isResult_eq_false hnotice rfl
  unfold classify
  rw [header?_eq_none hnotice, include?_eq_none hnotice, isNotice_eq_false hnotice, hresult,
    pathAndPlace?_trimmed]
  rfl

/-! ### What the line says -/

theorem trim_path : trim p.path = p.path := by
  apply trim_of_isTrimmed
  constructor
  · rintro c ⟨⟩
    exact isBlank_eq_false_of_visible (isVisible_of_isAlpha p.drive_isAlpha)
  · intro c hc
    apply p.rest_last
    obtain ⟨d, rest, hrest⟩ := List.exists_cons_of_ne_nil p.rest_ne_nil
    rw [hrest]
    simpa [path, hrest, List.getLast?_cons] using hc

theorem said_body : said (trim p.body) = ⟨p.severity, p.code, p.message⟩ := by
  have hbody : trim p.body = p.body := by
    apply trim_of_isTrimmed
    refine ⟨p.head_body, ?_⟩
    intro c hc
    cases hm : p.message with
    | nil =>
        simp only [body, hm, messagePiece, ← List.append_assoc, List.getLast?_concat,
          Option.mem_some_iff] at hc
        rw [← hc]
        rfl
    | cons d m =>
        apply p.message_isTrimmed.last
        rw [hm]
        simpa [body, hm, messagePiece, List.getLast?_append, List.getLast?_cons] using hc
  have hfeed : '\n' ∉ messagePiece p.message := by
    intro hmem
    exact ne_feed_of_noBreak p.noBreak_body (by simp [body, hmem])
  rw [hbody, body, said_written p.severity _ p.code_digits, untilFeed_of_forall hfeed,
    trim_messagePiece p.message_isTrimmed]

/-- Everything that the line adds to the report. -/
def reported : Finding where
  shown := some p.shown
  link := some (p.shown,
    ⟨addressOf p.path ++ "#" ++ ofNat p.line ++ "," ++ ofNat p.column, p.code⟩)
  diagnostic := some p.diagnostic
  failed := p.severity = .error

theorem finding_trimmed (mode : Mode) : finding mode p.trimmed = .ok p.reported := by
  unfold finding
  rw [p.classify_trimmed]
  simp only [located, p.pathAndPlace?_trimmed, p.said_body, p.isReported, diagnosed, p.trim_path,
    readNumeral_ofNat p.line_length, readNumeral_ofNat p.column_length]
  simp [reported, shown, diagnostic, Placed.text, bind, Except.bind, pure, Except.pure]

end Problem

/-! ### The whole log -/

theorem mapM_eq_ok {α β ε : Type} {f : α → Except ε β} {g : α → β} (h : ∀ a, f a = .ok (g a))
    (as : List α) : as.mapM f = .ok (as.map g) := by
  have hf : f = fun a => pure (g a) := funext h
  rw [hf, List.mapM_pure]
  rfl

theorem lines_of_lined {ps : List Problem} {log : Text} (h : Lined (ps.map (·.written)) log) :
    lines log = ps.map (·.trimmed) := by
  have hmark : byteOrderMark ∉ log := by
    intro hmem
    refine h.forall_mem (P := fun c => c ≠ byteOrderMark) ?_ ?_ _ hmem rfl
    · intro l hl
      obtain ⟨p, -, rfl⟩ := List.mem_map.mp hl
      exact p.ne_mark_of_mem_written
    · rintro c hc rfl
      exact absurd hc (by decide)
  have hlines : Text.lines log = ps.map (·.written) := by
    apply h.lines_eq
    intro l hl
    obtain ⟨p, -, rfl⟩ := List.mem_map.mp hl
    exact p.isLine_written
  unfold lines
  rw [dropMarks_of_not_mem hmark, hlines, List.map_map, List.filter_eq_self.mpr]
  · exact List.map_congr_left fun p _ => p.trim_written
  · intro l hl
    obtain ⟨p, -, rfl⟩ := List.mem_map.mp hl
    rw [Function.comp_apply, p.trim_written]
    rfl

/-- **Reading a log undoes writing it.**  A log with one line for each problem is read, in either
mode, as exactly the diagnostics of these problems in their order; the compile failed if one of
them is an error; and each problem is shown on a line of its own. -/
theorem read_written (mode : Mode) (ps : List Problem) (log : Text)
    (h : Lined (ps.map (·.written)) log) :
    ∃ r, read mode log = .ok r ∧ r.diagnostics = ps.map (·.diagnostic) ∧
      (r.hasError = true ↔ ∃ p ∈ ps, p.severity = .error) ∧
      r.text = ps.flatMap (·.shown ++ ['\n']) := by
  have hfindings : (lines log).mapM (finding mode) = .ok (ps.map (·.reported)) := by
    rw [lines_of_lined h, List.mapM_map]
    exact mapM_eq_ok (fun p => p.finding_trimmed mode) ps
  refine ⟨Report.ofFindings (ps.map (·.reported)), ?_, ?_, ?_, ?_⟩
  · unfold read
    rw [hfindings]
    rfl
  · simp [Report.ofFindings, List.filterMap_map, Problem.reported, Function.comp_def]
  · simp [Report.ofFindings, Problem.reported]
  · simp [Report.ofFindings, Report.text, List.filterMap_map, Problem.reported, Function.comp_def,
      List.flatMap_map]

/-- A problem in a file whose path looks like places in brackets. -/
def bracketed : Problem where
  drive := 'C'
  rest := "My files (1,2)\\Bot(3,4).mq5"
  line := 12
  column := 5
  severity := .error
  code := some "256"
  message := "'a:b' - undeclared (1,2) : warning"
  drive_isAlpha := by decide
  rest_ne_nil := by decide
  rest_noColon := by decide
  rest_last := by rintro c ⟨⟩; decide
  path_isPlain := ⟨List.all_iff_forall_prop.mp (by decide), by decide, by decide⟩
  line_length := by decide
  column_length := by decide
  code_digits := by rintro d ⟨⟩; exact ⟨by decide, List.all_iff_forall_prop.mp (by decide)⟩
  message_isPlain := ⟨List.all_iff_forall_prop.mp (by decide), by decide, by decide⟩
  message_isTrimmed := ⟨by rintro c ⟨⟩; decide, by rintro c ⟨⟩; decide⟩
  isReported := by decide +kernel

theorem read_bracketed :
    Lined [bracketed.written] (bracketed.written ++ ['\r', '\n'] ++ []) ∧
      ∃ r, read .check (bracketed.written ++ ['\r', '\n'] ++ []) = .ok r ∧
        r.diagnostics = [⟨"C:\\My files (1,2)\\Bot(3,4).mq5", 11, 4, .error,
          "'a:b' - undeclared (1,2) : warning", some "256"⟩] ∧
        (r.hasError = true ↔ ∃ p ∈ [bracketed], p.severity = .error) ∧
        r.text = "'a:b' - undeclared (1,2) : warning (12,5)\n" := by
  have h : Lined [bracketed.written] (bracketed.written ++ ['\r', '\n'] ++ []) :=
    Lined.line _ EndsLine.pair Lined.nil
  exact ⟨h, read_written .check [bracketed] _ h⟩

end MetaDesk.CompilerLog
