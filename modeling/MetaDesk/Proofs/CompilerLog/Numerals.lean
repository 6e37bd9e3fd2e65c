import MetaDesk.Proofs.CompilerLog.Errors
import MetaDesk.Proofs.CompilerLog.Reading

/-! # When a log cannot be read

A numeral of a log is read where a result counts and where a problem of a file has its place.  One
that is too long ends the reading of the whole log (`exists_read_error`), and nothing else does
(`hasLongNumeral_of_read`). -/

namespace MetaDesk.CompilerLog

open Text

/-- A line has a numeral that is read and too long: a count of a result, or the line or the column of
a problem that has a path and is reported. -/
inductive HasLongNumeral (line : Text) : LongNumeral → Prop where
  | count {word digits : Text} (hkind : classify line = .resultSummary)
      (hword : word = "error" ∨ word = "warning") (hcount : IsFirstCount word line digits)
      (hlong : maxDigits < digits.length) : HasLongNumeral line ⟨digits.length⟩
  | place {path digits : Text} {place : Placed} (hkind : classify line = .pathDiagnostic)
      (hplace : pathAndPlace? line = some (some path, place))
      (hreported : isSuppressed (said (trim place.body)).code (said (trim place.body)).message = false)
      (hdigits : digits = place.line ∨ digits = place.column) (hlong : maxDigits < digits.length) :
      HasLongNumeral line ⟨digits.length⟩

variable {mode : Mode} {line log : Text} {e : LongNumeral}

/-! ### Numerals -/

theorem bind_eq_error_iff {ε α β : Type} {x : Except ε α} {f : α → Except ε β} {e : ε} :
    (x >>= f) = .error e ↔ x = .error e ∨ ∃ a, x = .ok a ∧ f a = .error e := by
  cases x <;> simp [bind, Except.bind]

theorem readNumeral_eq_error_iff {digits : Text} :
    readNumeral digits = .error e ↔ maxDigits < digits.length ∧ e = ⟨digits.length⟩ := by
  unfold readNumeral
  split_ifs with hshort
  · simp [Nat.not_lt.mpr hshort]
  · simp [Nat.lt_of_not_le hshort, eq_comm]

theorem count_eq_error_iff {word : Text} (hword : IsWordOfCount word) :
    count word line = .error e ↔
      ∃ digits, IsFirstCount word line digits ∧ maxDigits < digits.length ∧ e = ⟨digits.length⟩ := by
  unfold count
  simp only [← search_countAt?_eq_some_iff hword, ← readNumeral_eq_error_iff]
  cases search (countAt? word) line with
  | none => simp
  | some digits => simp

theorem isWordOfCount_of {word : Text} (hword : word = "error" ∨ word = "warning") :
    IsWordOfCount word := by
  rcases hword with rfl | rfl
  · exact isWordOfCount_error
  · exact isWordOfCount_warning

/-- Of two numerals that are read one after the other, one that is too long ends the reading. -/
theorem exists_bind_error {α β γ : Type} {x : Except LongNumeral α} {y : Except LongNumeral β}
    {f : α → β → γ} (h : (∃ e, x = .error e) ∨ ∃ e, y = .error e) :
    ∃ e, (do return f (← x) (← y) : Except LongNumeral γ) = .error e := by
  cases x with
  | error e => exact ⟨e, rfl⟩
  | ok a =>
      cases y with
      | error e => exact ⟨e, rfl⟩
      | ok b => simp at h

/-! ### Lines -/

theorem concluded_eq_error (h : concluded mode line = .error e) :
    count "error" line = .error e ∨ count "warning" line = .error e := by
  unfold concluded at h
  rcases bind_eq_error_iff.mp h with herrors | ⟨errors, -, h⟩
  · exact Or.inl herrors
  · rcases bind_eq_error_iff.mp h with hwarnings | ⟨warnings, -, h⟩
    · exact Or.inr hwarnings
    · cases h

theorem diagnosed_eq_error {path : Text} {place : Placed} {what : Said}
    (h : diagnosed path place what = .error e) :
    readNumeral place.line = .error e ∨ readNumeral place.column = .error e := by
  unfold diagnosed at h
  rcases bind_eq_error_iff.mp h with hline | ⟨line, -, h⟩
  · exact Or.inl hline
  · rcases bind_eq_error_iff.mp h with hcolumn | ⟨column, -, h⟩
    · exact Or.inr hcolumn
    · cases h

/-- A line that cannot be read has a numeral that is too long. -/
theorem hasLongNumeral_of_finding (h : finding mode line = .error e) : HasLongNumeral line e := by
  unfold finding at h
  cases hkind : classify line with
  | resultSummary =>
      rw [hkind] at h
      have hcount : ∃ word : Text, (word = "error" ∨ word = "warning") ∧
          count word line = .error e := by
        rcases concluded_eq_error h with herrors | hwarnings
        · exact ⟨_, Or.inl rfl, herrors⟩
        · exact ⟨_, Or.inr rfl, hwarnings⟩
      obtain ⟨word, hword, hcount⟩ := hcount
      obtain ⟨digits, hfirst, hlong, rfl⟩ := (count_eq_error_iff (isWordOfCount_of hword)).mp hcount
      exact .count hkind hword hfirst hlong
  | pathDiagnostic =>
      rw [hkind] at h
      dsimp only at h
      unfold located at h
      cases hplace : pathAndPlace? line with
      | none =>
          rw [hplace] at h
          cases h
      | some found =>
          obtain ⟨path | path, place⟩ := found <;> rw [hplace] at h <;> dsimp only at h <;>
            split_ifs at h with hsuppressed
          have hdigits : ∃ digits, (digits = place.line ∨ digits = place.column) ∧
              readNumeral digits = .error e := by
            rcases diagnosed_eq_error h with hline | hcolumn
            · exact ⟨_, Or.inl rfl, hline⟩
            · exact ⟨_, Or.inr rfl, hcolumn⟩
          obtain ⟨digits, hdigits, hread⟩ := hdigits
          obtain ⟨hlong, rfl⟩ := readNumeral_eq_error_iff.mp hread
          exact .place hkind hplace (by simpa using hsuppressed) hdigits hlong
  | compilingHeader =>
      rw [hkind] at h
      cases h
  | includeNotice =>
      rw [hkind] at h
      cases h
  | infoNotice =>
      rw [hkind] at h
      cases h
  | plain =>
      rw [hkind] at h
      cases h

theorem exists_finding_error (mode : Mode) (h : HasLongNumeral line e) :
    ∃ e', finding mode line = .error e' := by
  unfold finding
  cases h with
  | @count word digits hkind hword hcount hlong =>
      rw [hkind]
      have herror : count word line = .error ⟨digits.length⟩ :=
        (count_eq_error_iff (isWordOfCount_of hword)).mpr ⟨digits, hcount, hlong, rfl⟩
      refine exists_bind_error ?_
      rcases hword with rfl | rfl
      · exact Or.inl ⟨_, herror⟩
      · exact Or.inr ⟨_, herror⟩
  | @place path digits place hkind hplace hreported hdigits hlong =>
      rw [hkind]
      dsimp only
      unfold located
      rw [hplace]
      dsimp only
      rw [if_neg (by simpa using hreported)]
      have herror : readNumeral digits = .error ⟨digits.length⟩ :=
        readNumeral_eq_error_iff.mpr ⟨hlong, rfl⟩
      refine exists_bind_error ?_
      rcases hdigits with rfl | rfl
      · exact Or.inl ⟨_, herror⟩
      · exact Or.inr ⟨_, herror⟩

/-! ### Logs -/

theorem mapM_eq_error {α β ε : Type} {f : α → Except ε β} {as : List α} {e : ε}
    (h : as.mapM f = .error e) : ∃ a ∈ as, f a = .error e := by
  induction as with
  | nil => cases h
  | cons a as ih =>
      rw [List.mapM_cons] at h
      rcases bind_eq_error_iff.mp h with ha | ⟨b, -, h⟩
      · exact ⟨a, List.mem_cons_self, ha⟩
      · rcases bind_eq_error_iff.mp h with hrest | ⟨bs, -, h⟩
        · obtain ⟨a', ha', herror⟩ := ih hrest
          exact ⟨a', List.mem_cons_of_mem _ ha', herror⟩
        · cases h

theorem exists_mapM_error {α β ε : Type} {f : α → Except ε β} {as : List α} {a : α} (ha : a ∈ as)
    (h : ∃ e, f a = .error e) : ∃ e, as.mapM f = .error e := by
  induction as with
  | nil => cases ha
  | cons a' as ih =>
      rw [List.mapM_cons]
      cases hfirst : f a' with
      | error e => exact ⟨e, rfl⟩
      | ok b =>
          rcases List.mem_cons.mp ha with rfl | ha
          · simp [hfirst] at h
          · obtain ⟨e, he⟩ := ih ha
            exact ⟨e, by rw [he]; rfl⟩

/-- A log that cannot be read has a line with a numeral that is too long. -/
theorem hasLongNumeral_of_read (h : read mode log = .error e) :
    ∃ line ∈ lines log, HasLongNumeral line e := by
  unfold read at h
  rcases bind_eq_error_iff.mp h with hfindings | ⟨fs, -, h⟩
  · obtain ⟨line, hline, hfinding⟩ := mapM_eq_error hfindings
    exact ⟨line, hline, hasLongNumeral_of_finding hfinding⟩
  · cases h

/-- A log with such a line cannot be read. -/
theorem exists_read_error (mode : Mode) (hline : line ∈ lines log) (h : HasLongNumeral line e) :
    ∃ e', read mode log = .error e' := by
  obtain ⟨e', hmap⟩ := exists_mapM_error hline (exists_finding_error mode h)
  exact ⟨e', by rw [read, hmap]; rfl⟩

/-! ### A result with any count -/

/-- A result that counts errors with these digits. -/
def counted (digits : Text) : Text := "Result: " ++ digits ++ " errors"

variable {digits : Text}

theorem counted_eq : counted digits = "Result:".toList ++ ' ' :: (digits ++ ' ' :: "errors") := by
  unfold counted
  rw [List.append_assoc]
  rfl

theorem classify_counted (hdigits : ∀ c ∈ digits, c.isDigit = true) :
    classify (counted digits) = .resultSummary := by
  have hne : noticeWord ≠ [] := by decide
  have hblank := sameLetter_noticeWord_of_mark ' ' (by simp)
  have hnotice : holdsAnyCase noticeWord (counted digits) = false := by
    rw [counted_eq, holdsAnyCase_append_cons hne hblank, holdsAnyCase_append_cons hne hblank,
      holdsAnyCase_of_digits hdigits]
    decide
  have hresult : isResult (counted digits) = true := by
    unfold isResult
    rw [counted_eq, afterAnyCase?_self]
    rfl
  unfold classify
  rw [header?_eq_none hnotice, include?_eq_none hnotice, isNotice_eq_false hnotice, hresult]
  rfl

theorem isFirstCount_counted (hne : digits ≠ []) (hdigits : ∀ c ∈ digits, c.isDigit = true) :
    IsFirstCount "error" (counted digits) digits := by
  refine ⟨"Result: ", digits ++ ' ' :: "errors", counted_eq, ?_, ?_⟩
  · exact ⟨hne, fun c hc => isDigit_of_ascii (hdigits c hc), [' '], "errors", rfl,
      List.forall_mem_singleton.mpr rfl, by decide⟩
  · -- What starts before the digits starts with a letter, a colon or a blank.
    rintro t' ⟨u', ht'⟩ hlonger digits' ⟨hne', hdigits', blanks, rest, rfl, -, -⟩
    obtain ⟨d, digits', rfl⟩ := List.exists_cons_of_ne_nil hne'
    have hd := hdigits' d List.mem_cons_self
    have hplace : d ∈ ("Result: ".toList : Text) := by
      have hline : u' ++ (d :: digits' ++ (blanks ++ rest)) =
          "Result: ".toList ++ (digits ++ ' ' :: "errors".toList) := ht'.trans counted_eq
      rw [List.append_eq_append_iff] at hline
      rcases hline with ⟨as, hu, hrest⟩ | ⟨bs, -, hrest⟩
      · cases as with
        | nil =>
            rw [List.nil_append] at hrest
            rw [hrest] at hlonger
            exact absurd hlonger (lt_irrefl _)
        | cons a as =>
            obtain ⟨rfl, -⟩ := List.cons.inj hrest
            rw [hu]
            simp
      · rw [hrest] at hlonger
        simp only [List.length_append] at hlonger
        omega
    have hnoDigit : ∀ c ∈ ("Result: ".toList : Text), isDigit c = false :=
      forall_mem_of_all (by decide)
    rw [hnoDigit d hplace] at hd
    cases hd

theorem isVisible_of_mem_counted (hdigits : ∀ c ∈ digits, c.isDigit = true) :
    ∀ c ∈ counted digits, c = ' ' ∨ IsVisible c := by
  have hstart : ∀ c ∈ ("Result:".toList : Text), IsVisible c := forall_mem_of_all (by decide)
  have hend : ∀ c ∈ ("errors".toList : Text), IsVisible c := forall_mem_of_all (by decide)
  intro c hc
  rw [counted_eq] at hc
  rcases List.mem_append.mp hc with hc | hc
  · exact Or.inr (hstart c hc)
  rcases List.mem_cons.mp hc with rfl | hc
  · exact Or.inl rfl
  rcases List.mem_append.mp hc with hc | hc
  · exact Or.inr (isVisible_of_isDigit (hdigits c hc))
  rcases List.mem_cons.mp hc with rfl | hc
  · exact Or.inl rfl
  · exact Or.inr (hend c hc)

theorem lines_eq_singleton (hdrop : dropMarks log = line) (hline : IsLine line)
    (htrimmed : IsTrimmed line) : lines log = [line] := by
  have hne : line.isEmpty = false := by simpa using hline.1
  unfold lines
  rw [hdrop, lines_of_isLine hline, List.map_singleton, trim_of_isTrimmed htrimmed]
  simp [hne]

/-- Such a result is a log of one line. -/
theorem lines_counted (hdigits : ∀ c ∈ digits, c.isDigit = true) :
    lines (counted digits) = [counted digits] := by
  have hvisible := isVisible_of_mem_counted hdigits
  have hline : IsLine (counted digits) :=
    ⟨List.append_ne_nil_of_right_ne_nil _ (by decide),
      fun c hc => isLineBreak_eq_false_of_ascii c (hvisible c hc)⟩
  have htrimmed : IsTrimmed (counted digits) := by
    constructor
    · rintro c ⟨⟩
      rfl
    · unfold counted
      rw [List.getLast?_append_of_ne_nil _ (by decide)]
      rintro c ⟨⟩
      rfl
  exact lines_eq_singleton (dropMarks_of_ascii hvisible) hline htrimmed

/-- A count that is too long makes a log unreadable. -/
theorem hasLongNumeral_counted (hdigits : ∀ c ∈ digits, c.isDigit = true)
    (hlong : maxDigits < digits.length) : HasLongNumeral (counted digits) ⟨digits.length⟩ := by
  have hne : digits ≠ [] := by
    rintro rfl
    exact absurd hlong (by decide)
  exact .count (classify_counted hdigits) (Or.inl rfl) (isFirstCount_counted hne hdigits) hlong

end MetaDesk.CompilerLog
