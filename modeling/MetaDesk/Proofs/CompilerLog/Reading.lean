import Mathlib.Data.Bool.AllAny
import MetaDesk.CompilerLog.Line
import MetaDesk.Proofs.Text.AnyCase
import MetaDesk.Proofs.Text.Line
import MetaDesk.Proofs.Text.Numeral
import Mathlib.Data.List.TakeWhile

/-! # Reading the pieces of a diagnostic

A place in brackets is read back from what was written (`placed?_written`), and so is what is said
about it (`said_written`).  A path ends where it was written to end, whatever brackets, digits and
commas it holds (`drivePathBefore_placed?`): a place is followed by a colon, so none can begin
inside a path without one (`placed?_inside_path`).  Lines without the word for a notice are no
notices of any kind (`header?_eq_none`, `include?_eq_none`, `isNotice_eq_false`). -/

namespace MetaDesk.CompilerLog

open Text

/-! ### Places -/

theorem placed?_eq_some {t : Text} {p : Placed} (h : placed? t = some p) :
    ∃ blanks rest, t = '(' :: (p.line ++ ',' :: (p.column ++ ')' :: (blanks ++ ':' :: rest))) ∧
      (p.line ≠ [] ∧ ∀ c ∈ p.line, isDigit c = true) ∧
      (p.column ≠ [] ∧ ∀ c ∈ p.column, isDigit c = true) ∧
      (∀ c ∈ blanks, isBlank c = true) ∧ bodyOf? rest = some p.body := by
  unfold placed? at h
  split at h
  · next rest₁ =>
      split at h
      · next rest₂ hcomma =>
          split at h
          · next rest₃ hclose =>
              split at h
              · next rest₄ hcolon =>
                  dsimp only at h
                  split_ifs at h with hempty
                  obtain ⟨body, hbody, rfl⟩ := Option.map_eq_some_iff.mp h
                  simp only [Bool.or_eq_true, List.isEmpty_iff, not_or] at hempty
                  refine ⟨rest₃.takeWhile isBlank, rest₄, ?_,
                    ⟨hempty.1, fun c hc => List.mem_takeWhile_imp hc⟩,
                    ⟨hempty.2, fun c hc => List.mem_takeWhile_imp hc⟩,
                    fun c hc => List.mem_takeWhile_imp hc, hbody⟩
                  unfold trimStart at hcolon
                  rw [← hcolon, List.takeWhile_append_dropWhile, ← hclose,
                    List.takeWhile_append_dropWhile, ← hcomma, List.takeWhile_append_dropWhile]
              · cases h
          · cases h
      · cases h
  · cases h

/-- A place has no opening bracket after the first, and then a colon. -/
theorem placed?_shape {t : Text} {p : Placed} (h : placed? t = some p) :
    ∃ inner rest, t = '(' :: (inner ++ ':' :: rest) ∧ '(' ∉ inner := by
  obtain ⟨blanks, rest, rfl, ⟨-, hline⟩, ⟨-, hcolumn⟩, hblanks, -⟩ := placed?_eq_some h
  refine ⟨p.line ++ ',' :: (p.column ++ ')' :: blanks), rest, by simp, ?_⟩
  have hlineOpen : '(' ∉ p.line := fun hmem => absurd (hline _ hmem) (by decide)
  have hcolumnOpen : '(' ∉ p.column := fun hmem => absurd (hcolumn _ hmem) (by decide)
  have hblanksOpen : '(' ∉ blanks := fun hmem => absurd (hblanks _ hmem) (by decide)
  simp [hlineOpen, hcolumnOpen, hblanksOpen]

/-- No place begins inside a text without a colon that goes on with an opening bracket. -/
theorem placed?_inside_path {u : Text} (hne : u ≠ []) (hcolon : ':' ∉ u) (rest : Text) :
    placed? (u ++ '(' :: rest) = none := by
  rw [Option.eq_none_iff_forall_ne_some]
  intro p hp
  obtain ⟨inner, after, heq, hinner⟩ := placed?_shape hp
  obtain ⟨c, u, rfl⟩ := List.exists_cons_of_ne_nil hne
  rw [List.cons_append] at heq
  have htail := (List.cons.inj heq).2
  rw [List.append_eq_append_iff] at htail
  rcases htail with ⟨more, hmore, hrest⟩ | ⟨more, hmore, hrest⟩
  · cases more with
    | nil => simp at hrest
    | cons d more =>
        obtain ⟨rfl, -⟩ := List.cons.inj hrest
        exact hinner (by rw [hmore]; simp)
  · cases more with
    | nil => simp at hrest
    | cons d more =>
        obtain ⟨rfl, -⟩ := List.cons.inj hrest
        exact hcolon (by rw [hmore]; simp)

/-- A text is split at its first place when nothing can be read before. -/
theorem splitAtFirst_eq {α : Type} {f : Text → Option α} {p t : Text} {a : α} (hne : p ≠ [])
    (hline : ∀ c ∈ p, c ≠ '\n') (hinside : ∀ s, s <:+ p → s ≠ [] → f (s ++ t) = none)
    (hend : f t = some a) : splitAtFirst f (p ++ t) = some (p, a) := by
  induction p with
  | nil => exact absurd rfl hne
  | cons c p ih =>
      rw [List.cons_append, splitAtFirst, if_neg (hline c List.mem_cons_self)]
      cases p with
      | nil => simp [hend]
      | cons d p =>
          rw [hinside (d :: p) (List.suffix_cons c _) (by simp),
            ih (by simp) (fun e he => hline e (List.mem_cons_of_mem c he))
              (fun s hs => hinside s (hs.trans (List.suffix_cons c _)))]
          rfl

theorem drivePathBefore_placed? {drive : Char} {path rest : Text} {p : Placed}
    (hdrive : drive.isAlpha = true) (hne : path ≠ []) (hcolon : ':' ∉ path)
    (hline : ∀ c ∈ path, c ≠ '\n') (hplaced : placed? ('(' :: rest) = some p) :
    drivePathBefore placed? (drive :: ':' :: '\\' :: (path ++ '(' :: rest)) =
      some (drive :: ':' :: '\\' :: path, p) := by
  have hsplit : splitAtFirst placed? (path ++ '(' :: rest) = some (path, p) := by
    refine splitAtFirst_eq hne hline ?_ hplaced
    intro s hs hsne
    exact placed?_inside_path hsne (fun h => hcolon (hs.subset h)) rest
  simp [drivePathBefore, hdrive, hsplit]

theorem bodyOf?_blank_cons {body : Text} (hne : body ≠ []) (hline : '\n' ∉ body)
    (hhead : ∀ c ∈ body.head?, isBlank c = false) : bodyOf? (' ' :: body) = some body := by
  have hlast : (' ' :: body).getLast? ≠ some '\n' := by
    intro h
    have hmem := List.mem_of_getLast? h
    simp [hline] at hmem
  unfold bodyOf?
  rw [if_neg hlast]
  simp only [trimStart_blank_cons (c := ' ') rfl, trimStart_of_head hhead]
  cases body with
  | nil => exact absurd rfl hne
  | cons c body => simpa using hline

/-- A written place is read back. -/
theorem placed?_written {line column body : Text} (hline : ∀ c ∈ line, c.isDigit = true)
    (hline_ne : line ≠ []) (hcolumn : ∀ c ∈ column, c.isDigit = true) (hcolumn_ne : column ≠ [])
    (hbody : bodyOf? (' ' :: body) = some body) :
    placed? ('(' :: (line ++ ',' :: (column ++ ')' :: ' ' :: ':' :: ' ' :: body))) =
      some ⟨line, column, body⟩ := by
  have hl : ∀ c ∈ line, isDigit c = true := fun c hc => isDigit_of_ascii (hline c hc)
  have hc : ∀ c ∈ column, isDigit c = true := fun c hc => isDigit_of_ascii (hcolumn c hc)
  have hblank : trimStart (' ' :: ':' :: ' ' :: body) = ':' :: ' ' :: body := by
    rw [trimStart_blank_cons rfl]
    exact trimStart_of_head (by simp only [List.head?_cons, Option.mem_some_iff]; rintro c rfl; rfl)
  simp only [placed?, takeWhile_append_cons hl (show isDigit ',' = false by decide),
    dropWhile_append_cons hl (show isDigit ',' = false by decide),
    takeWhile_append_cons hc (show isDigit ')' = false by decide),
    dropWhile_append_cons hc (show isDigit ')' = false by decide), hblank, hbody]
  simp [hline_ne, hcolumn_ne]

/-! ### What is said about a place -/

theorem afterAnyCase?_self (word t : Text) : afterAnyCase? word (word ++ t) = some t := by
  induction word with
  | nil => rfl
  | cons c word ih => simp [afterAnyCase?, sameLetter, ih]

theorem untilFeed_of_forall {t : Text} (h : '\n' ∉ t) : untilFeed t = t := by
  unfold untilFeed
  rw [List.takeWhile_eq_self_iff]
  intro c hc
  have : c ≠ '\n' := fun heq => h (heq ▸ hc)
  simpa using this

/-- A code as it is written before the colon. -/
def codePiece : Option Text → Text
  | none => []
  | some digits => ' ' :: digits

theorem saidAfter?_written {code : Option Text} (severity : Severity) (rest : Text)
    (hcode : ∀ digits ∈ code, digits ≠ [] ∧ ∀ c ∈ digits, c.isDigit = true) :
    saidAfter? severity (codePiece code ++ ':' :: rest) =
      some ⟨severity, code, trim (untilFeed rest)⟩ := by
  have hcolon : trimStart (':' :: rest) = ':' :: rest :=
    trimStart_of_head (by simp only [List.head?_cons, Option.mem_some_iff]; rintro c rfl; rfl)
  have hnone : isDigit ':' = false := by decide
  cases code with
  | none =>
      simp only [codePiece, List.nil_append, saidAfter?, hcolon, List.takeWhile_cons,
        List.dropWhile_cons, hnone]
      simp [hcolon]
  | some digits =>
      obtain ⟨hne, hdigits⟩ := hcode digits rfl
      have hread : ∀ c ∈ digits, isDigit c = true := fun c hc => isDigit_of_ascii (hdigits c hc)
      have hstart : trimStart (digits ++ ':' :: rest) = digits ++ ':' :: rest := by
        apply trimStart_of_head
        cases digits with
        | nil => exact absurd rfl hne
        | cons d digits =>
            simp only [List.cons_append, List.head?_cons, Option.mem_some_iff]
            rintro c rfl
            exact isBlank_eq_false_of_visible (isVisible_of_isDigit (hdigits d List.mem_cons_self))
      simp only [codePiece, List.cons_append, saidAfter?, trimStart_blank_cons (c := ' ') rfl,
        hstart, takeWhile_append_cons hread hnone, dropWhile_append_cons hread hnone, hcolon]
      simp [hne]

/-- The severity is read back from its word. -/
theorem said_written {code : Option Text} (severity : Severity) (rest : Text)
    (hcode : ∀ digits ∈ code, digits ≠ [] ∧ ∀ c ∈ digits, c.isDigit = true) :
    said (severity.label ++ (codePiece code ++ ':' :: rest)) =
      ⟨severity, code, trim (untilFeed rest)⟩ := by
  have hsaid : saidAs? severity (severity.label ++ (codePiece code ++ ':' :: rest)) =
      some ⟨severity, code, trim (untilFeed rest)⟩ := by
    unfold saidAs?
    rw [afterAnyCase?_self, Option.bind_some, saidAfter?_written severity rest hcode]
  unfold said
  cases severity with
  | error => rw [hsaid]; rfl
  | warning =>
      have herror : saidAs? .error (Severity.warning.label ++ (codePiece code ++ ':' :: rest)) =
          none := rfl
      rw [herror, hsaid]
      rfl

/-! ### Notices -/

/-- The word that every notice has. -/
def noticeWord : Text := "information"

theorem noticeWord_part (t : Text) : noticeWord <:+: marker ++ t := ⟨[':', ' '], ':' :: t, rfl⟩

theorem sameLetter_noticeWord_of_isDigit {c : Char} (h : c.isDigit = true) :
    ∀ q ∈ noticeWord, sameLetter q c = false := by
  have hdigits : ∀ n < 10, ∀ q ∈ noticeWord, sameLetter q (Char.ofNat (48 + n)) = false := by
    intro n hn
    refine List.all_iff_forall_prop.mp ?_
    revert n
    decide
  have hbounds : 48 ≤ c.toNat ∧ c.toNat ≤ 48 + 9 := Char.isDigit_iff_toNat.mp h
  have hsplit : c = Char.ofNat (48 + (c.toNat - 48)) := by
    rw [show 48 + (c.toNat - 48) = c.toNat by omega, Char.ofNat_toNat]
  rw [hsplit]
  exact hdigits _ (by omega)

theorem holdsAnyCase_of_digits {digits : Text} (h : ∀ c ∈ digits, c.isDigit = true) :
    holdsAnyCase noticeWord digits = false :=
  holdsAnyCase_eq_false_of_forall (by decide) fun c hc => sameLetter_noticeWord_of_isDigit (h c hc)

/-- No mark that stands between the parts of a line is a letter of the word. -/
theorem sameLetter_noticeWord_of_mark :
    ∀ c ∈ [' ', ':', '(', ',', ')'], ∀ q ∈ noticeWord, sameLetter q c = false :=
  List.all_iff_forall_prop.mp (by simp only [← List.all_iff_forall_prop]; decide)

variable {line : Text}

theorem afterAnyCase?_marker_eq_none (h : holdsAnyCase noticeWord line = false) (t : Text)
    {s : Text} (hs : s <:+ line) : afterAnyCase? (marker ++ t) s = none := by
  rw [← Option.not_isSome_iff_eq_none]
  intro hsome
  have hmarker := holdsAnyCase_iff.mpr ⟨s, hs, hsome⟩
  rw [holdsAnyCase_of_part (noticeWord_part t) hmarker] at h
  cases h

theorem namedBy?_eq_none (h : holdsAnyCase noticeWord line = false) (words : List Text) :
    namedBy? words line = none := by
  apply search_eq_none
  intro s hs
  have hafter : afterWord? words s = none := by
    unfold afterWord?
    rw [List.findSome?_eq_none_iff]
    intro word _
    rw [List.append_assoc]
    exact afterAnyCase?_marker_eq_none h _ hs
  rw [hafter]
  rfl

theorem header?_eq_none (h : holdsAnyCase noticeWord line = false) : header? line = none :=
  namedBy?_eq_none h headerWords

theorem include?_eq_none (h : holdsAnyCase noticeWord line = false) : include? line = none :=
  namedBy?_eq_none h includeWords

theorem isNotice_eq_false (h : holdsAnyCase noticeWord line = false) : isNotice line = false := by
  have hmarker : holds marker (lower line) = false := by
    rw [Bool.eq_false_iff, ne_eq, holds_iff]
    intro hin
    have hword : noticeWord <:+: lower line := by
      have := noticeWord_part []
      rw [List.append_nil] at this
      exact this.trans hin
    have hlower : ∀ q ∈ noticeWord, q.isLower = true := List.all_eq_true.mp (by decide)
    rw [holdsAnyCase_of_holds_lower (by decide) hlower hword] at h
    cases h
  unfold isNotice
  rw [hmarker, Bool.false_and]

/-- A line whose second character is a colon does not start with the word before a result. -/
theorem isResult_eq_false (h : holdsAnyCase noticeWord line = false) {c : Char} {t : Text}
    (hline : line = c :: ':' :: t) : isResult line = false := by
  have hstart : afterAnyCase? "Result:" line = none := by
    rw [hline]
    have hcolon : sameLetter 'e' ':' = false := by decide
    change afterAnyCase? ('R' :: 'e' :: "sult:".toList) (c :: ':' :: t) = none
    simp [afterAnyCase?, hcolon]
  have hresult : holdsAnyCase (marker ++ " result") line = false := by
    rw [Bool.eq_false_iff]
    intro hholds
    rw [holdsAnyCase_of_part (noticeWord_part _) hholds] at h
    cases h
  unfold isResult
  rw [hstart, hresult]
  rfl

end MetaDesk.CompilerLog
