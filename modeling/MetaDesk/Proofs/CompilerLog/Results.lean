import MetaDesk.Proofs.CompilerLog.Numerals
import MetaDesk.Proofs.CompilerLog.Splitting

/-! # How a result is judged

The compiler writes a result on a line of its own (`bareResult`) or as a notice about a file
(`noticedResult`).  Either is taken for a result, whatever the path (`classify_bareResult`,
`classify_noticedResult`).  The counts are looked for from the start of the line, and a path may
look like a count itself: its first count of a word is judged instead of the one that the compiler
wrote (`search_countAt?_noticedResult`).  No count reaches from the path into the rest of the line,
for it would have to cross a blank and a colon (`countAt?_append_colon`). -/

namespace MetaDesk.CompilerLog

open Text

variable {word path line digits : Text} {mode : Mode} {errors warnings own : ℕ}

/-! ### Results -/

/-- The counts of a result. -/
def countsText (errors warnings : ℕ) : Text :=
  ofNat errors ++ " errors, " ++ ofNat warnings ++ " warnings"

/-- A result on a line of its own. -/
def bareResult (errors warnings : ℕ) : Text := "Result: " ++ countsText errors warnings

/-- What stands between the path and the counts of a result. -/
def resultMark : Text := " : information: result "

/-- A result that is told as a notice about a file. -/
def noticedResult (path : Text) (errors warnings : ℕ) : Text :=
  path ++ resultMark ++ countsText errors warnings

/-- A path on a drive that has no other colon and is on one line. -/
inductive OnDrive : Text → Prop where
  | intro {drive : Char} {rest : Text} (hdrive : drive.isAlpha = true) (hcolon : ':' ∉ rest)
      (hbreak : ∀ c ∈ rest, isLineBreak c = false) : OnDrive (drive :: ':' :: '\\' :: rest)

/-- The mark of a result with so many errors and warnings. -/
def judgement (errors warnings : ℕ) : Text :=
  if 0 < errors then "[Error] " else if 0 < warnings then "[Warning] " else "[Done] "

/-- The number by which a result is judged: the first count in the path, if there is one, or else
its own. -/
inductive JudgedBy (word path : Text) (own : ℕ) : ℕ → Prop where
  | path {digits : Text} (hfirst : IsFirstCount word path digits)
      (hshort : digits.length ≤ maxDigits) : JudgedBy word path own (numeralValue digits)
  | own (hnone : ∀ digits, ¬ IsFirstCount word path digits) : JudgedBy word path own own

/-! ### Counts in a line -/

theorem countAt?_cons_of_not_digit {c : Char} (hc : isDigit c = false) (t : Text) :
    countAt? word (c :: t) = none := by
  simp [countAt?, hc]

/-- Digits, a blank and a word that is no other count. -/
theorem countAt?_digits (hne : digits ≠ []) (hdigits : ∀ c ∈ digits, isDigit c = true) {c : Char}
    (hc : isBlank c = false) (t : Text) :
    countAt? word (digits ++ ' ' :: c :: t) =
      if (afterAnyCase? word (c :: t)).isSome then some digits else none := by
  have hblank : isDigit ' ' = false := by decide
  have hstart : trimStart (' ' :: c :: t) = c :: t := by
    rw [trimStart_blank_cons rfl, trimStart_of_head]
    rintro d ⟨⟩
    exact hc
  unfold countAt?
  rw [takeWhile_append_cons hdigits hblank, dropWhile_append_cons hdigits hblank, hstart]
  dsimp only
  rw [if_neg (by simpa using hne)]
  cases afterAnyCase? word (c :: t) <;> rfl

theorem takeWhile_append_stop {p : Char → Bool} {c : Char} (hc : p c = false) (s t : Text) :
    (s ++ c :: t).takeWhile p = s.takeWhile p ∧
      (s ++ c :: t).dropWhile p = s.dropWhile p ++ c :: t := by
  induction s with
  | nil => simp [hc]
  | cons d s ih => by_cases hd : p d = true <;> simp [hd, ih]

/-- A word of letters that no blank and no colon can stand for. -/
structure IsLetters (word : Text) : Prop where
  ne_nil : word ≠ []
  noBlank : ∀ q ∈ word, sameLetter q ' ' = false
  noColon : ∀ q ∈ word, sameLetter q ':' = false

theorem isLetters_error : IsLetters "error" :=
  ⟨by decide, forall_mem_of_all (by decide), forall_mem_of_all (by decide)⟩

theorem isLetters_warning : IsLetters "warning" :=
  ⟨by decide, forall_mem_of_all (by decide), forall_mem_of_all (by decide)⟩

theorem isSome_afterAnyCase?_trimStart_append (hword : IsLetters word) (s t : Text) :
    (afterAnyCase? word (trimStart (s ++ ' ' :: ':' :: t))).isSome =
      (afterAnyCase? word (trimStart s)).isSome := by
  -- Blanks are skipped on both sides alike; from the first other character on, the word would have
  -- to go across the blank.
  induction s with
  | nil =>
      have hcolon := isSome_afterAnyCase?_append_cons hword.noColon [] t
      rw [List.nil_append, trimStart_blank_cons rfl, trimStart_of_head]
      · exact hcolon
      · rintro c ⟨⟩
        rfl
  | cons c s ih =>
      by_cases hc : isBlank c = true
      · rw [List.cons_append, trimStart_blank_cons hc, trimStart_blank_cons hc, ih]
      · have hhead : ∀ u : Text, trimStart (c :: u) = c :: u := by
          intro u
          apply trimStart_of_head
          rintro d ⟨⟩
          simpa using hc
        rw [List.cons_append, hhead, hhead, ← List.cons_append]
        exact isSome_afterAnyCase?_append_cons hword.noBlank (c :: s) (':' :: t)

/-- No count goes across a blank with a colon behind it. -/
theorem countAt?_append_colon (hword : IsLetters word) (s t : Text) :
    countAt? word (s ++ ' ' :: ':' :: t) = countAt? word s := by
  obtain ⟨htake, hdrop⟩ := takeWhile_append_stop (c := ' ') (p := isDigit) (by decide) s (':' :: t)
  have hafter := isSome_afterAnyCase?_trimStart_append hword (s.dropWhile isDigit) t
  unfold countAt?
  rw [htake, hdrop]
  cases hleft : afterAnyCase? word (trimStart (s.dropWhile isDigit ++ ' ' :: ':' :: t)) <;>
    cases hright : afterAnyCase? word (trimStart (s.dropWhile isDigit)) <;>
    simp_all

/-! ### Counts in a result -/

section Counts

variable {α : Type} {f : Text → Option α}

/-- A search for something that starts with a certain character goes past all others. -/
theorem search_skip_of_head {P : Char → Prop} (hf : ∀ c t, P c → f (c :: t) = none) {u : Text}
    (hu : ∀ c ∈ u, P c) (t : Text) : search f (u ++ t) = search f t := by
  refine search_skip fun s hs hne => ?_
  obtain ⟨c, s, rfl⟩ := List.exists_cons_of_ne_nil hne
  exact hf c _ (hu c (hs.subset List.mem_cons_self))

theorem search_of_some {t : Text} {a : α} (h : f t = some a) : search f t = some a := by
  cases t with
  | nil => exact h
  | cons c t => rw [search, h]

end Counts

theorem forall_isDigit_ofNat (n : ℕ) : ∀ c ∈ ofNat n, isDigit c = true :=
  fun _ hc => isDigit_of_ascii (isDigit_of_mem_ofNat hc)

theorem countsText_eq : countsText errors warnings = ofNat errors ++
    ' ' :: 'e' :: ("rrors, ".toList ++ (ofNat warnings ++ ' ' :: 'w' :: "arnings")) := by
  unfold countsText
  rw [List.append_assoc, List.append_assoc]
  rfl

theorem countAt?_error_countsText :
    countAt? "error" (countsText errors warnings) = some (ofNat errors) := by
  have hblank : isBlank 'e' = false := by decide
  rw [countsText_eq, countAt?_digits (ofNat_ne_nil errors) (forall_isDigit_ofNat errors) hblank]
  rfl

theorem search_error_countsText :
    search (countAt? "error") (countsText errors warnings) = some (ofNat errors) :=
  search_of_some countAt?_error_countsText

/-- The count of errors, which comes first, is none of warnings. -/
theorem search_warning_countsText :
    search (countAt? "warning") (countsText errors warnings) = some (ofNat warnings) := by
  have herrors : ∀ s, s <:+ ofNat errors → s ≠ [] → ∀ t,
      countAt? "warning" (s ++ ' ' :: 'e' :: t) = none := by
    intro s hs hne t
    rw [countAt?_digits hne (fun c hc => forall_isDigit_ofNat errors c (hs.subset hc)) (by decide)]
    rfl
  have hwarnings : countAt? "warning" (ofNat warnings ++ ' ' :: 'w' :: "arnings".toList) =
      some (ofNat warnings) := by
    rw [countAt?_digits (ofNat_ne_nil warnings) (forall_isDigit_ofNat warnings) (by decide)]
    rfl
  have hmiddle : ∀ c ∈ (" errors, ".toList : Text), isDigit c = false :=
    forall_mem_of_all (by decide)
  rw [countsText_eq, search_skip fun s hs hne => herrors s hs hne _]
  change search _ (" errors, ".toList ++ _) = _
  rw [search_skip_of_head (fun c t hc => countAt?_cons_of_not_digit hc t) hmiddle,
    search_of_some hwarnings]

theorem search_countAt?_eq_none_iff (hcount : IsWordOfCount word) :
    search (countAt? word) line = none ↔ ∀ digits, ¬ IsFirstCount word line digits := by
  simp only [Option.eq_none_iff_forall_ne_some, ne_eq, search_countAt?_eq_some_iff hcount]

theorem resultMark_append (t : Text) : resultMark ++ t =
    ' ' :: ':' :: (" information".toList ++ ':' :: (" result ".toList ++ t)) := rfl

theorem not_digit_resultMark : ∀ c ∈ resultMark, isDigit c = false := forall_mem_of_all (by decide)

/-- The first count in the line is that of the path, if there is one there, or else that of the
result. -/
theorem search_countAt?_noticedResult (hword : IsLetters word)
    (hown : search (countAt? word) (countsText errors warnings) = some (ofNat own)) (path : Text) :
    search (countAt? word) (noticedResult path errors warnings) =
      (search (countAt? word) path).or (some (ofNat own)) := by
  have hrest : search (countAt? word) (resultMark ++ countsText errors warnings) =
      some (ofNat own) := by
    rw [search_skip_of_head (fun c t hc => countAt?_cons_of_not_digit hc t) not_digit_resultMark,
      hown]
  unfold noticedResult
  rw [List.append_assoc, ← hrest]
  exact search_append (List.cons_ne_nil _ _) (fun s => countAt?_append_colon hword s _) path

theorem count_noticedResult (hword : IsLetters word) (hcount : IsWordOfCount word)
    (hown : search (countAt? word) (countsText errors warnings) = some (ofNat own))
    (hshort : (ofNat own).length ≤ maxDigits) {judged : ℕ}
    (hjudged : JudgedBy word path own judged) :
    count word (noticedResult path errors warnings) = .ok judged := by
  unfold count
  rw [search_countAt?_noticedResult hword hown]
  cases hjudged with
  | path hfirst hdigits =>
      rw [(search_countAt?_eq_some_iff hcount).mpr hfirst]
      exact if_pos hdigits
  | own hnone =>
      rw [(search_countAt?_eq_none_iff hcount).mpr hnone]
      exact readNumeral_ofNat hshort

/-- What is shown of a result behind a path without a count of errors are its own counts. -/
theorem summary?_noticedResult (hnone : ∀ digits, ¬ IsFirstCount "error" path digits) :
    summary? (noticedResult path errors warnings) = some (countsText errors warnings) := by
  have hpath := (search_countAt?_eq_none_iff isWordOfCount_error).mpr hnone
  unfold summary? noticedResult
  rw [List.append_assoc, search_skip, search_skip_of_head _ not_digit_resultMark]
  · exact search_of_some (by rw [countAt?_error_countsText]; rfl)
  · intro c t hc
    rw [countAt?_cons_of_not_digit hc]
    rfl
  · intro s hs _
    have hcross := countAt?_append_colon isLetters_error s
      (" information: result ".toList ++ countsText errors warnings)
    rw [show resultMark ++ countsText errors warnings = ' ' :: ':' ::
      (" information: result ".toList ++ countsText errors warnings) from rfl, hcross,
      eq_none_of_search_eq_none hpath hs]
    rfl

/-! ### The kind of the line -/

theorem sameLetter_colon {c : Char} (h : sameLetter ':' c = true) : c = ':' := by
  rcases eq_of_sameLetter (by decide) h with rfl | rfl
  · rfl
  · exact absurd h (by decide)

/-- What may come before a word of a notice. -/
theorem afterWord?_eq_none {words : List Text} {t : Text}
    (h : ∀ v, afterAnyCase? (marker ++ v) t = none) : afterWord? words t = none := by
  unfold afterWord?
  rw [List.findSome?_eq_none_iff]
  intro word _
  rw [List.append_assoc]
  exact h _

theorem afterAnyCase?_marker_of_head {c : Char} (hc : c ≠ ':') (v t : Text) :
    afterAnyCase? (marker ++ v) (c :: t) = none := by
  have hmark : marker ++ v = ':' :: (" information:".toList ++ v) := rfl
  rw [hmark, afterAnyCase?, if_neg fun h => hc (sameLetter_colon h)]

theorem namedBy?_eq_none_of_search {words : List Text}
    (h : search (afterWord? words) line = none) : namedBy? words line = none := by
  refine search_eq_none fun s hs => ?_
  rw [eq_none_of_search_eq_none h hs]
  rfl

theorem forall_ne_colon_countsText : ∀ c ∈ countsText errors warnings, c ≠ ':' := by
  have hdigits : ∀ n : ℕ, ∀ c ∈ ofNat n, c ≠ ':' := by
    rintro n c hc rfl
    exact absurd (isDigit_of_mem_ofNat hc) (by decide)
  unfold countsText
  simp only [List.mem_append]
  rintro c (((hc | hc) | hc) | hc)
  · exact hdigits errors c hc
  · exact forall_mem_of_all (P := (· ≠ ':')) (by decide) c hc
  · exact hdigits warnings c hc
  · exact forall_mem_of_all (P := (· ≠ ':')) (by decide) c hc

theorem afterWord?_backslash (words : List Text) (t : Text) :
    afterWord? words (':' :: '\\' :: t) = none := by
  have hnone : ∀ v, afterAnyCase? (marker ++ v) (':' :: '\\' :: t) = none := fun _ => rfl
  exact afterWord?_eq_none hnone

theorem afterWord?_result (words : List Text) (t : Text) :
    afterWord? words (':' :: (" result ".toList ++ t)) = none := by
  have hnone : ∀ v, afterAnyCase? (marker ++ v) (':' :: (" result ".toList ++ t)) = none :=
    fun _ => rfl
  exact afterWord?_eq_none hnone

/-- Behind the mark of a notice it is the words that count. -/
theorem afterWord?_marker (words : List Text) (t : Text) :
    afterWord? words (marker ++ ' ' :: t) = words.findSome? fun word => afterAnyCase? word t := by
  have hmark : marker ++ ' ' :: t = (marker ++ " ") ++ t := by simp
  unfold afterWord?
  simp only [hmark, afterAnyCase?_append (marker ++ " "), afterAnyCase?_self, Option.bind_some]

theorem search_afterWord?_skip (words : List Text) {u : Text} (hu : ∀ c ∈ u, c ≠ ':') (t : Text) :
    search (afterWord? words) (u ++ t) = search (afterWord? words) t :=
  search_skip_of_head
    (fun _ t hc => afterWord?_eq_none fun v => afterAnyCase?_marker_of_head hc v t) hu t

theorem search_afterWord?_colon {words : List Text} {t : Text}
    (h : afterWord? words (':' :: t) = none) :
    search (afterWord? words) (':' :: t) = search (afterWord? words) t := by
  rw [search, h]

/-- Of the three colons in a result behind a path only the second begins a notice. -/
theorem search_afterWord?_noticedResult {words : List Text} (hpath : OnDrive path)
    (hwords : ∀ t,
      words.findSome? (fun word => afterAnyCase? word ("result ".toList ++ t)) = none) :
    search (afterWord? words) (noticedResult path errors warnings) = none := by
  -- A notice begins with a colon, so the line is looked through from colon to colon.
  obtain @⟨drive, rest, hdrive, hcolon, -⟩ := hpath
  have hletter : ∀ c ∈ [drive], c ≠ ':' := by
    rintro c hc rfl
    rw [← List.mem_singleton.mp hc] at hdrive
    exact absurd hdrive (by decide)
  have hrest : ∀ c ∈ '\\' :: (rest ++ [' ']), c ≠ ':' := by
    rintro c hc rfl
    simp [hcolon] at hc
  have hword : ∀ c ∈ (" information".toList : Text), c ≠ ':' := forall_mem_of_all (by decide)
  have hresult : ∀ c ∈ (" result ".toList : Text), c ≠ ':' := forall_mem_of_all (by decide)
  have hmark : afterWord? words (':' :: (" information".toList ++ ':' :: (" result ".toList ++
      countsText errors warnings))) = none :=
    (afterWord?_marker words _).trans (hwords _)
  have hend : search (afterWord? words) (countsText errors warnings) = none := by
    have hnil : ∀ v, afterAnyCase? (marker ++ v) [] = none := fun _ => rfl
    rw [← List.append_nil (countsText errors warnings),
      search_afterWord?_skip words forall_ne_colon_countsText]
    exact afterWord?_eq_none hnil
  have hsplit : noticedResult (drive :: ':' :: '\\' :: rest) errors warnings =
      [drive] ++ ':' :: ('\\' :: (rest ++ [' ']) ++ ':' :: (" information".toList ++
        ':' :: (" result ".toList ++ countsText errors warnings))) := by
    unfold noticedResult
    simp only [List.append_assoc, resultMark_append, List.cons_append, List.nil_append]
  have hslash : ∀ t, afterWord? words (':' :: ('\\' :: (rest ++ [' ']) ++ t)) = none :=
    fun t => afterWord?_backslash words _
  rw [hsplit, search_afterWord?_skip words hletter]
  rw [search_afterWord?_colon (hslash _), search_afterWord?_skip words hrest]
  rw [search_afterWord?_colon hmark, search_afterWord?_skip words hword]
  rw [search_afterWord?_colon (afterWord?_result words _), search_afterWord?_skip words hresult]
  exact hend

theorem header?_noticedResult (hpath : OnDrive path) :
    header? (noticedResult path errors warnings) = none :=
  namedBy?_eq_none_of_search (search_afterWord?_noticedResult hpath fun _ => rfl)

theorem include?_noticedResult (hpath : OnDrive path) :
    include? (noticedResult path errors warnings) = none :=
  namedBy?_eq_none_of_search (search_afterWord?_noticedResult hpath fun _ => rfl)

/-- Whatever its path, the line is a result. -/
theorem classify_noticedResult (hpath : OnDrive path) :
    classify (noticedResult path errors warnings) = .resultSummary := by
  have hafter : (afterAnyCase? (marker ++ " result") (": information: result ".toList ++
      countsText errors warnings)).isSome = true :=
    Option.isSome_of_eq_some (afterAnyCase?_self (marker ++ " result") (' ' :: countsText _ _))
  have hresult : isResult (noticedResult path errors warnings) = true := by
    unfold isResult
    rw [Bool.or_eq_true]
    refine Or.inr (holdsAnyCase_iff.mpr ⟨_, ⟨path ++ [' '], ?_⟩, hafter⟩)
    unfold noticedResult
    rw [List.append_assoc, List.append_assoc]
    rfl
  unfold classify isNotice
  rw [header?_noticedResult hpath, include?_noticedResult hpath, hresult, Bool.not_true,
    Bool.and_false]
  rfl

theorem classify_bareResult : classify (bareResult errors warnings) = .resultSummary := by
  have hne : noticeWord ≠ [] := by decide
  have hblank := sameLetter_noticeWord_of_mark ' ' (by simp)
  have hdigits : ∀ n : ℕ, holdsAnyCase noticeWord (ofNat n) = false := fun n =>
    holdsAnyCase_of_digits fun c hc => isDigit_of_mem_ofNat hc
  have hsplit : bareResult errors warnings = "Result:".toList ++ ' ' :: (ofNat errors ++
      ' ' :: ("errors,".toList ++ ' ' :: (ofNat warnings ++ ' ' :: "warnings".toList))) := by
    unfold bareResult
    rw [countsText_eq]
    rfl
  have hnotice : holdsAnyCase noticeWord (bareResult errors warnings) = false := by
    rw [hsplit, holdsAnyCase_append_cons hne hblank, holdsAnyCase_append_cons hne hblank,
      holdsAnyCase_append_cons hne hblank, holdsAnyCase_append_cons hne hblank, hdigits, hdigits]
    decide
  have hresult : isResult (bareResult errors warnings) = true := by
    unfold isResult
    rw [hsplit, afterAnyCase?_self]
    rfl
  unfold classify
  rw [header?_eq_none hnotice, include?_eq_none hnotice, isNotice_eq_false hnotice, hresult]
  rfl

/-! ### The report -/

theorem judgement_eq : judgement errors warnings = "[" ++ tag errors warnings ++ "] " := by
  unfold judgement tag
  rcases errors with _ | errors
  · rcases warnings with _ | warnings <;> rfl
  · rfl

/-- A log with nothing but a result. -/
theorem read_result (mode : Mode) {log : Text} (hlines : lines log = [line])
    (hkind : classify line = .resultSummary) (herrors : count "error" line = .ok errors)
    (hwarnings : count "warning" line = .ok warnings) :
    ∃ r, read mode log = .ok r ∧ (r.hasError = true ↔ 0 < errors) ∧
      r.text = judgement errors warnings ++ told mode line ++ "\n" := by
  let f : Finding :=
    { shown := some (judgement errors warnings ++ told mode line), failed := errors != 0 }
  have hfinding : finding mode line = .ok f := by
    unfold f finding concluded
    rw [hkind, herrors, hwarnings, judgement_eq]
    rfl
  have hread : read mode log = .ok (Report.ofFindings [f]) := by
    unfold read
    rw [hlines, List.mapM_cons, List.mapM_nil, hfinding]
    rfl
  refine ⟨_, hread, ?_, ?_⟩
  · simp [f, Report.ofFindings, Nat.pos_iff_ne_zero]
  · simp [f, Report.ofFindings, Report.text]

theorem ascii_of_mem_countsText : ∀ c ∈ countsText errors warnings, c = ' ' ∨ IsVisible c := by
  have hdigits : ∀ n : ℕ, ∀ c ∈ ofNat n, c = ' ' ∨ IsVisible c := fun n c hc =>
    Or.inr (isVisible_of_isDigit (isDigit_of_mem_ofNat hc))
  have herrors : ∀ c ∈ (" errors, ".toList : Text), c = ' ' ∨ IsVisible c :=
    forall_mem_of_all (by decide)
  have hwarnings : ∀ c ∈ (" warnings".toList : Text), c = ' ' ∨ IsVisible c :=
    forall_mem_of_all (by decide)
  unfold countsText
  simp only [List.mem_append]
  rintro c (((hc | hc) | hc) | hc)
  · exact hdigits errors c hc
  · exact herrors c hc
  · exact hdigits warnings c hc
  · exact hwarnings c hc

/-- What ends in the counts of a result is a line of its own. -/
theorem lines_append_countsText {u : Text} {c : Char} {t : Text} (hdrop : dropMarks u = c :: t)
    (hc : isBlank c = false) (hbreak : ∀ d ∈ c :: t, isLineBreak d = false) :
    lines (u ++ countsText errors warnings) = [c :: t ++ countsText errors warnings] := by
  apply lines_eq_singleton
  · unfold dropMarks at hdrop ⊢
    rw [List.filter_append, hdrop]
    exact congrArg _ (dropMarks_of_ascii ascii_of_mem_countsText)
  · refine ⟨List.cons_ne_nil _ _, fun d hd => ?_⟩
    rcases List.mem_append.mp hd with hd | hd
    · exact hbreak d hd
    · exact isLineBreak_eq_false_of_ascii d (ascii_of_mem_countsText d hd)
  · constructor
    · rintro d ⟨⟩
      exact hc
    · unfold countsText
      rw [← List.append_assoc, List.getLast?_append_of_ne_nil _ (by decide)]
      rintro d ⟨⟩
      rfl

theorem lines_bareResult : lines (bareResult errors warnings) = [bareResult errors warnings] := by
  have hbreak : ∀ c ∈ ("Result: ".toList : Text), isLineBreak c = false :=
    forall_mem_of_all (by decide)
  exact lines_append_countsText (u := "Result: ".toList) rfl rfl hbreak

theorem OnDrive.dropMarks (h : OnDrive path) : OnDrive (dropMarks path) := by
  obtain @⟨drive, rest, hdrive, hcolon, hbreak⟩ := h
  have hletter : drive ≠ byteOrderMark := ne_mark_of_ascii (Or.inr (isVisible_of_isAlpha hdrive))
  have hcolonMark : ':' ≠ byteOrderMark := ne_mark_of_ascii (Or.inr (by decide))
  have hslashMark : '\\' ≠ byteOrderMark := ne_mark_of_ascii (Or.inr (by decide))
  rw [dropMarks_cons hletter, dropMarks_cons hcolonMark, dropMarks_cons hslashMark]
  refine .intro hdrive ?_ fun c hc => hbreak c (List.mem_of_mem_filter hc)
  exact fun hmem => hcolon (List.mem_of_mem_filter hmem)

theorem OnDrive.exists_cons (h : OnDrive path) : ∃ c t, path = c :: t ∧ isBlank c = false := by
  obtain ⟨hdrive, -, -⟩ := h
  exact ⟨_, _, rfl, isBlank_eq_false_of_visible (isVisible_of_isAlpha hdrive)⟩

theorem OnDrive.noBreak (h : OnDrive path) : ∀ c ∈ path, isLineBreak c = false := by
  obtain ⟨hdrive, -, hbreak⟩ := h
  intro c hc
  simp only [List.mem_cons] at hc
  rcases hc with rfl | rfl | rfl | hc
  · exact isLineBreak_eq_false_of_ascii _ (Or.inr (isVisible_of_isAlpha hdrive))
  · rfl
  · rfl
  · exact hbreak c hc

theorem lines_noticedResult (hpath : OnDrive path) : lines (noticedResult path errors warnings) =
    [noticedResult (dropMarks path) errors warnings] := by
  have hmark : dropMarks (path ++ resultMark) = dropMarks path ++ resultMark := by
    unfold dropMarks
    rw [List.filter_append]
    rfl
  have hmarkBreak : ∀ c ∈ resultMark, isLineBreak c = false := forall_mem_of_all (by decide)
  obtain ⟨c, t, hcons, hc⟩ := hpath.dropMarks.exists_cons
  unfold noticedResult
  rw [hcons] at hmark ⊢
  refine lines_append_countsText hmark hc fun d hd => ?_
  have hmem : d ∈ c :: t ++ resultMark := hd
  rcases List.mem_append.mp hmem with hd | hd
  · exact hpath.dropMarks.noBreak d (hcons ▸ hd)
  · exact hmarkBreak d hd

/-! ### The result as it is reported -/

theorem told_bareResult : told mode (bareResult errors warnings) = bareResult errors warnings := by
  have hword : ∀ c ∈ ("Result: ".toList : Text), isDigit c = false := forall_mem_of_all (by decide)
  have hsummary : summary? (bareResult errors warnings) = some (countsText errors warnings) := by
    unfold summary? bareResult
    rw [search_skip_of_head _ hword]
    · exact search_of_some (by rw [countAt?_error_countsText]; rfl)
    · intro c t hc
      rw [countAt?_cons_of_not_digit hc]
      rfl
  cases mode with
  | check => rfl
  | compile =>
      unfold told
      rw [hsummary]
      rfl

theorem count_bareResult (hown : search (countAt? word) (countsText errors warnings) =
      some (ofNat own)) (hshort : (ofNat own).length ≤ maxDigits) :
    count word (bareResult errors warnings) = .ok own := by
  have hword : ∀ c ∈ ("Result: ".toList : Text), isDigit c = false := forall_mem_of_all (by decide)
  unfold count bareResult
  rw [search_skip_of_head (fun c t hc => countAt?_cons_of_not_digit hc t) hword, hown]
  exact readNumeral_ofNat hshort

/-- A count in the path that is too long makes the log unreadable. -/
theorem exists_read_error_noticedResult (mode : Mode) (hpath : OnDrive path)
    (hword : word = "error" ∨ word = "warning") (hfirst : IsFirstCount word (dropMarks path) digits)
    (hlong : maxDigits < digits.length) :
    ∃ e, read mode (noticedResult path errors warnings) = .error e := by
  have hcounts : IsFirstCount word (noticedResult (dropMarks path) errors warnings) digits := by
    rcases hword with rfl | rfl
    · rw [← search_countAt?_eq_some_iff isWordOfCount_error] at hfirst ⊢
      rw [search_countAt?_noticedResult isLetters_error search_error_countsText, hfirst]
      rfl
    · rw [← search_countAt?_eq_some_iff isWordOfCount_warning] at hfirst ⊢
      rw [search_countAt?_noticedResult isLetters_warning search_warning_countsText, hfirst]
      rfl
  have hline : noticedResult (dropMarks path) errors warnings ∈
      lines (noticedResult path errors warnings) := by
    rw [lines_noticedResult hpath]
    exact List.mem_singleton_self _
  exact exists_read_error mode hline
    (.count (classify_noticedResult hpath.dropMarks) hword hcounts hlong)

theorem read_noticedResult (mode : Mode) (hpath : OnDrive path)
    (herrors : (ofNat errors).length ≤ maxDigits) (hwarnings : (ofNat warnings).length ≤ maxDigits)
    {e w : ℕ} (he : JudgedBy "error" (dropMarks path) errors e)
    (hw : JudgedBy "warning" (dropMarks path) warnings w) :
    ∃ r, read mode (noticedResult path errors warnings) = .ok r ∧
      (r.hasError = true ↔ 0 < e) ∧
      r.text =
        judgement e w ++ told mode (noticedResult (dropMarks path) errors warnings) ++ "\n" :=
  read_result mode (lines_noticedResult hpath) (classify_noticedResult hpath.dropMarks)
    (count_noticedResult isLetters_error isWordOfCount_error search_error_countsText herrors he)
    (count_noticedResult isLetters_warning isWordOfCount_warning search_warning_countsText
      hwarnings hw)

/-- **How a result is judged.**  A result on a line of its own is judged by its counts.  One that is
told as a notice about a file is judged by them too, unless the path of the file holds what looks
like a count itself: then the first one there is taken instead of that of the result, and if it is
too long the log cannot be read. -/
theorem read_judges_result (mode : Mode) (errors warnings : ℕ)
    (herrors : (ofNat errors).length ≤ maxDigits)
    (hwarnings : (ofNat warnings).length ≤ maxDigits) :
    (∃ r, read mode (bareResult errors warnings) = .ok r ∧ (r.hasError = true ↔ 0 < errors) ∧
      r.text = judgement errors warnings ++ bareResult errors warnings ++ "\n") ∧
    ∀ path, OnDrive path →
      (∀ e w, JudgedBy "error" (dropMarks path) errors e →
        JudgedBy "warning" (dropMarks path) warnings w →
        ∃ r told, read mode (noticedResult path errors warnings) = .ok r ∧
          (r.hasError = true ↔ 0 < e) ∧ r.text = judgement e w ++ told ++ "\n" ∧
          (mode = .check → told = noticedResult (dropMarks path) errors warnings) ∧
          (mode = .compile → (∀ digits, ¬ IsFirstCount "error" (dropMarks path) digits) →
            told = bareResult errors warnings)) ∧
      ∀ word digits : Text, (word = "error" ∨ word = "warning") →
        IsFirstCount word (dropMarks path) digits → maxDigits < digits.length →
        ∃ e, read mode (noticedResult path errors warnings) = .error e := by
  refine ⟨?_, fun path hpath => ⟨fun e w he hw => ?_, fun word digits hword hfirst hlong => ?_⟩⟩
  · obtain ⟨r, hr, hasError, htext⟩ := read_result mode lines_bareResult classify_bareResult
      (count_bareResult search_error_countsText herrors)
      (count_bareResult search_warning_countsText hwarnings)
    rw [told_bareResult] at htext
    exact ⟨r, hr, hasError, htext⟩
  · obtain ⟨r, hr, hasError, htext⟩ := read_noticedResult mode hpath herrors hwarnings he hw
    refine ⟨r, _, hr, hasError, htext, ?_, ?_⟩
    · rintro rfl
      rfl
    · rintro rfl hnone
      unfold told
      rw [summary?_noticedResult hnone]
      rfl
  · exact exists_read_error_noticedResult mode hpath hword hfirst hlong

/-- A path to a file in a folder whose name looks like a count. -/
def countingFolder : Text := "C:\\5 errors\\Bot.mq5"

theorem onDrive_countingFolder : OnDrive countingFolder :=
  .intro (by decide) (by decide) (forall_mem_of_all (by decide))

theorem dropMarks_countingFolder : dropMarks countingFolder = countingFolder :=
  dropMarks_of_ascii (forall_mem_of_all (by decide))

theorem judgedBy_countingFolder (own : ℕ) :
    JudgedBy "error" (dropMarks countingFolder) own (numeralValue "5") := by
  have hfirst : search (countAt? "error") countingFolder = some ("5" : Text) := by decide +kernel
  rw [dropMarks_countingFolder]
  exact .path ((search_countAt?_eq_some_iff isWordOfCount_error).mp hfirst) (by decide)

theorem judgedBy_own_countingFolder (own : ℕ) :
    JudgedBy "warning" (dropMarks countingFolder) own own := by
  have hnone : search (countAt? "warning") countingFolder = none := by decide +kernel
  rw [dropMarks_countingFolder]
  exact .own ((search_countAt?_eq_none_iff isWordOfCount_warning).mp hnone)

/-- A result is judged by its own counts behind an ordinary path, and by the name of a folder that
looks like a count. -/
theorem read_judges_result_of_countingFolder :
    (∃ r, read .compile (noticedResult "C:\\Bot.mq5" 0 2) = .ok r ∧ r.hasError = false ∧
      r.text = "[Warning] " ++ bareResult 0 2 ++ "\n") ∧
    ∃ r, read .check (noticedResult countingFolder 0 2) = .ok r ∧ r.hasError = true ∧
      r.text = "[Error] " ++ noticedResult countingFolder 0 2 ++ "\n" := by
  have hplain : OnDrive "C:\\Bot.mq5" :=
    .intro (by decide) (by decide) (forall_mem_of_all (by decide))
  have hnoError : ∀ digits, ¬ IsFirstCount "error" (dropMarks "C:\\Bot.mq5") digits :=
    (search_countAt?_eq_none_iff isWordOfCount_error).mp (by decide +kernel)
  have hnoWarning : ∀ digits, ¬ IsFirstCount "warning" (dropMarks "C:\\Bot.mq5") digits :=
    (search_countAt?_eq_none_iff isWordOfCount_warning).mp (by decide +kernel)
  constructor
  · obtain ⟨r, told, hr, hasError, htext, -, htold⟩ :=
      ((read_judges_result .compile 0 2 (by decide) (by decide)).2 _ hplain).1 _ _
        (.own hnoError) (.own hnoWarning)
    rw [htold rfl hnoError] at htext
    exact ⟨r, hr, by simpa using hasError, htext⟩
  · obtain ⟨r, told, hr, hasError, htext, htold, -⟩ :=
      ((read_judges_result .check 0 2 (by decide) (by decide)).2 _ onDrive_countingFolder).1 _ _
        (judgedBy_countingFolder 0) (judgedBy_own_countingFolder 2)
    rw [htold rfl, dropMarks_countingFolder] at htext
    exact ⟨r, hr, hasError.mpr (by decide), htext⟩

/-- That every result behind a path is judged by its own counts fails for such a folder. -/
theorem not_own_counts_of_countingFolder :
    ¬ ∀ (mode : Mode) (errors warnings : ℕ) (drive : Char) (rest : Text),
      (ofNat errors).length ≤ maxDigits → (ofNat warnings).length ≤ maxDigits →
      drive.isAlpha = true → rest ≠ [] → ':' ∉ rest → (∀ c ∈ rest, isLineBreak c = false) →
      (∀ part ∈ splitOn '\\' rest, IsTrimmed part) →
      ∃ r told, read mode (noticedResult (drive :: ':' :: '\\' :: rest) errors warnings) = .ok r ∧
        (r.hasError = true ↔ 0 < errors) ∧ r.text = judgement errors warnings ++ told ++ "\n" := by
  intro h
  have hparts : ∀ part ∈ splitOn '\\' ("5 errors\\Bot.mq5".toList), IsTrimmed part := by
    have hsplit : splitOn '\\' ("5 errors\\Bot.mq5".toList) =
        ["5 errors".toList, "Bot.mq5".toList] := by
      decide
    intro part hpart
    rw [hsplit, List.mem_pair] at hpart
    rcases hpart with rfl | rfl <;> constructor <;> rintro c ⟨⟩ <;> rfl
  obtain ⟨r, -, hr, hasError, -⟩ := h .check 0 0 'C' "5 errors\\Bot.mq5" (by decide) (by decide)
    (by decide) (by decide) (by decide) (forall_mem_of_all (by decide)) hparts
  obtain ⟨r', hr', hwrong, -⟩ := read_noticedResult .check onDrive_countingFolder (by decide)
    (by decide) (judgedBy_countingFolder 0) (judgedBy_own_countingFolder 0)
  obtain rfl : r = r' := Except.ok.inj (hr.symm.trans hr')
  have hzero : 0 < 0 := hasError.mp (hwrong.mpr (by decide))
  exact absurd hzero (lt_irrefl 0)

end MetaDesk.CompilerLog
