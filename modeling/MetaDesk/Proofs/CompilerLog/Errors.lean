import MetaDesk.CompilerLog.Report
import MetaDesk.Proofs.Text.AnyCase
import MetaDesk.Proofs.Text.Numeral
import Mathlib.Data.List.TakeWhile

/-! # When a log tells of errors

A report has an error when one of its diagnostics is an error, or when a result of the log counts
errors (`hasError_iff`).  No other line sets the flag, and no line that does is taken by an earlier
kind without its diagnostic being left out too.

What a result counts is the number of the first count in it: digits, blanks and the word, at the
leftmost place where they stand (`IsFirstCount`). -/

namespace MetaDesk.CompilerLog

open Text

/-! ### Counts -/

/-- A text starts with a count: digits, perhaps blanks, and the word in any case. -/
def IsCount (word digits t : Text) : Prop :=
  digits ≠ [] ∧ (∀ c ∈ digits, isDigit c = true) ∧ ∃ blanks rest, t = digits ++ (blanks ++ rest) ∧
    (∀ c ∈ blanks, isBlank c = true) ∧ (afterAnyCase? word rest).isSome = true

/-- The first count of a word in a line has these digits. -/
def IsFirstCount (word line digits : Text) : Prop :=
  ∃ u t, line = u ++ t ∧ IsCount word digits t ∧
    ∀ t', t' <:+ line → t.length < t'.length → ∀ digits', ¬ IsCount word digits' t'

/-- A word that begins neither with a digit nor with a blank. -/
def IsWordOfCount (word : Text) : Prop :=
  ∀ c rest, (afterAnyCase? word (c :: rest)).isSome = true → isDigit c = false ∧ isBlank c = false

theorem takeWhile_append_of_head {p : Char → Bool} {t rest : Text} (ht : ∀ c ∈ t, p c = true)
    (hrest : ∀ c more, rest = c :: more → p c = false) :
    (t ++ rest).takeWhile p = t ∧ (t ++ rest).dropWhile p = rest := by
  cases rest with
  | nil =>
      rw [List.append_nil]
      exact ⟨List.takeWhile_eq_self_iff.mpr ht, List.dropWhile_eq_nil_iff.mpr ht⟩
  | cons c more =>
      have hc := hrest c more rfl
      rw [List.takeWhile_append_of_pos ht, List.dropWhile_append_of_pos ht, List.takeWhile_cons,
        List.dropWhile_cons, hc]
      simp

theorem countAt?_eq_some_iff {word : Text} (hword : IsWordOfCount word)
    {digits t : Text} : countAt? word t = some digits ↔ IsCount word digits t := by
  unfold countAt? trimStart
  constructor
  · intro h
    dsimp only at h
    split_ifs at h with hempty
    split at h
    · next after hafter =>
        obtain rfl := Option.some.inj h
        refine ⟨by simpa using hempty, fun c hc => List.mem_takeWhile_imp hc,
          (t.dropWhile isDigit).takeWhile isBlank, (t.dropWhile isDigit).dropWhile isBlank, ?_,
          fun c hc => List.mem_takeWhile_imp hc, by rw [hafter]; rfl⟩
        rw [List.takeWhile_append_dropWhile, List.takeWhile_append_dropWhile]
    · cases h
  · rintro ⟨hdigits, hall, blanks, rest, rfl, hblanks, hafter⟩
    have hrest : ∀ c more, rest = c :: more → isDigit c = false ∧ isBlank c = false := by
      rintro c more rfl
      exact hword c more hafter
    have hnext : ∀ c more, blanks ++ rest = c :: more → isDigit c = false := by
      intro c more hmore
      cases blanks with
      | nil => exact (hrest c more hmore).1
      | cons b blanks =>
          obtain ⟨rfl, -⟩ := List.cons.inj hmore
          exact isDigit_of_isBlank (hblanks b List.mem_cons_self)
    obtain ⟨htake, hdrop⟩ := takeWhile_append_of_head hall hnext
    obtain ⟨-, hdropBlanks⟩ := takeWhile_append_of_head hblanks fun c more h => (hrest c more h).2
    obtain ⟨after, hafter⟩ := Option.isSome_iff_exists.mp hafter
    dsimp only
    rw [htake, hdrop, hdropBlanks, hafter, if_neg (by simpa using hdigits)]

theorem search_countAt?_eq_some_iff {word : Text} (hword : IsWordOfCount word)
    {digits line : Text} : search (countAt? word) line = some digits ↔
      IsFirstCount word line digits := by
  rw [search_eq_some_iff]
  simp only [countAt?_eq_some_iff hword, Option.eq_none_iff_forall_ne_some, ne_eq]
  rfl

/-- A character is a letter or its capital when its lower case is the letter. -/
theorem eq_of_toLower {p c : Char} (h : c.toLower = p) : c = p ∨ c = Char.ofNat (p.toNat - 32) := by
  unfold Char.toLower at h
  split_ifs at h with hupper
  · right
    have hval : c.val + ('a'.val - 'A'.val) = p.val := congrArg Char.val h
    have hbounds := isUpper_iff.mp (decide_eq_true hupper)
    have hp : p.toNat = c.toNat + 32 := by
      have hnat := congrArg UInt32.toNat hval
      rw [UInt32.toNat_add] at hnat
      change (c.toNat + 32) % 2 ^ 32 = p.toNat at hnat
      omega
    rw [hp, Nat.add_sub_cancel, Char.ofNat_toNat]
  · exact Or.inl h

/-- Most letters are compared by their lower case alone. -/
theorem eq_of_sameLetter {p c : Char} (hp : p.toLower ∉ ['i', 's', 'k'])
    (h : sameLetter p c = true) : c = p.toLower ∨ c = Char.ofNat (p.toLower.toNat - 32) := by
  simp only [List.mem_cons, List.not_mem_nil, or_false, not_or] at hp
  refine eq_of_toLower ?_
  simpa [sameLetter, hp] using h

theorem isWordOfCount_cons (p : Char) (word : Text) (hp : p.toLower ∉ ['i', 's', 'k'])
    (hlower : isDigit p.toLower = false ∧ isBlank p.toLower = false)
    (hupper : isDigit (Char.ofNat (p.toLower.toNat - 32)) = false ∧
      isBlank (Char.ofNat (p.toLower.toNat - 32)) = false) : IsWordOfCount (p :: word) := by
  intro c rest h
  rw [afterAnyCase?] at h
  split_ifs at h with hletter
  · rcases eq_of_sameLetter hp hletter with rfl | rfl
    · exact hlower
    · exact hupper
  · cases h

theorem isWordOfCount_error : IsWordOfCount "error" :=
  isWordOfCount_cons 'e' "rror" (by decide) (by decide) (by decide)

theorem isWordOfCount_warning : IsWordOfCount "warning" :=
  isWordOfCount_cons 'w' "arning" (by decide) (by decide) (by decide)

/-! ### Lines -/

/-- The line is a result whose first count of errors is not zero. -/
def CountsErrors (line : Text) : Prop :=
  classify line = .resultSummary ∧
    ∃ digits, IsFirstCount "error" line digits ∧ numeralValue digits ≠ 0

/-- One of the diagnostics is an error. -/
def HasErrorIn (ds : List Diagnostic) : Prop := ∃ d ∈ ds, d.severity = .error

theorem count_eq_ok {word line : Text} {n : ℕ} (h : count word line = .ok n) :
    n ≠ 0 ↔ ∃ digits, search (countAt? word) line = some digits ∧ numeralValue digits ≠ 0 := by
  unfold count at h
  cases hsearch : search (countAt? word) line with
  | none =>
      rw [hsearch] at h
      cases h
      simp
  | some digits =>
      rw [hsearch] at h
      simp only [readNumeral] at h
      split_ifs at h
      cases h
      simp

/-- What is told of a result. -/
def told (mode : Mode) (line : Text) : Text :=
  match mode with
  | .check => line
  | .compile => "Result: " ++ (summary? line).getD line

theorem exists_counts_of_concluded {mode : Mode} {line : Text} {f : Finding}
    (h : concluded mode line = .ok f) : ∃ errors warnings, count "error" line = .ok errors ∧
      f = { shown := some ("[" ++ tag errors warnings ++ "] " ++ told mode line)
            failed := errors != 0 } := by
  unfold concluded at h
  cases herrors : count "error" line with
  | error e =>
      rw [herrors] at h
      cases h
  | ok errors =>
      cases hwarnings : count "warning" line with
      | error e =>
          rw [herrors, hwarnings] at h
          cases h
      | ok warnings =>
          rw [herrors, hwarnings] at h
          cases h
          exact ⟨errors, warnings, rfl, rfl⟩

theorem concluded_eq_ok {mode : Mode} {line : Text} {f : Finding}
    (h : concluded mode line = .ok f) : f.diagnostic = none ∧ (f.failed = true ↔
      ∃ digits, IsFirstCount "error" line digits ∧ numeralValue digits ≠ 0) := by
  obtain ⟨errors, warnings, herrors, rfl⟩ := exists_counts_of_concluded h
  refine ⟨rfl, ?_⟩
  rw [bne_iff_ne, count_eq_ok herrors]
  simp only [search_countAt?_eq_some_iff isWordOfCount_error]

theorem diagnosed_eq_ok {path : Text} {place : Placed} {what : Said} {f : Finding}
    (h : diagnosed path place what = .ok f) :
    ∃ d, f.diagnostic = some d ∧ d.severity = what.severity ∧
      f.failed = decide (what.severity = .error) := by
  unfold diagnosed at h
  dsimp only at h
  cases hline : readNumeral place.line with
  | error e =>
      rw [hline] at h
      cases h
  | ok line =>
      cases hcolumn : readNumeral place.column with
      | error e =>
          rw [hline, hcolumn] at h
          cases h
      | ok column =>
          rw [hline, hcolumn] at h
          cases h
          exact ⟨_, rfl, rfl, rfl⟩

theorem hasErrorIn_nil : ¬ HasErrorIn [] := by
  rintro ⟨d, hd, -⟩
  cases hd

theorem hasErrorIn_append {ds ds' : List Diagnostic} :
    HasErrorIn (ds ++ ds') ↔ HasErrorIn ds ∨ HasErrorIn ds' := by
  simp only [HasErrorIn, List.mem_append, or_and_right, exists_or]

/-- A finding that neither sets the flag nor leaves a diagnostic. -/
def IsSilent (f : Finding) : Prop := f.failed = false ∧ f.diagnostic = none

theorem IsSilent.failed_iff {f : Finding} (hf : IsSilent f) :
    f.failed = true ↔ HasErrorIn f.diagnostic.toList := by
  obtain ⟨hfailed, hdiagnostic⟩ := hf
  rw [hfailed, hdiagnostic]
  exact iff_of_false Bool.false_ne_true hasErrorIn_nil

theorem isSilent_named (name? : Option Text) (line : Text) :
    IsSilent ((name?.map (named · line)).getD {}) := by
  cases name? with
  | none => exact ⟨rfl, rfl⟩
  | some name =>
      rw [Option.map_some, Option.getD_some]
      unfold named
      split <;> exact ⟨rfl, rfl⟩

theorem isSilent_noticed (line : Text) : IsSilent (noticed line) := by
  unfold noticed
  split_ifs
  · exact ⟨rfl, rfl⟩
  · split <;> exact ⟨rfl, rfl⟩

/-- A line with a place sets the flag when it leaves an error among the diagnostics. -/
theorem located_eq_ok {line : Text} {f : Finding} (h : located line = .ok f) :
    f.failed = true ↔ HasErrorIn f.diagnostic.toList := by
  have hsilent : ∀ shown, IsSilent ⟨shown, none, none, false⟩ := fun _ => ⟨rfl, rfl⟩
  unfold located at h
  split at h
  · cases h
    exact (hsilent _).failed_iff
  · next path place hplace =>
      dsimp only at h
      split_ifs at h with hsuppressed
      · cases h
        exact (hsilent _).failed_iff
      · cases path with
        | none =>
            cases h
            exact (hsilent _).failed_iff
        | some path =>
            obtain ⟨d, hd, hseverity, hfailed⟩ := diagnosed_eq_ok h
            rw [hfailed, hd, ← hseverity]
            simp [HasErrorIn]

/-- A line sets the flag when it leaves an error or counts errors. -/
theorem finding_eq_ok {mode : Mode} {line : Text} {f : Finding} (h : finding mode line = .ok f) :
    f.failed = true ↔ HasErrorIn f.diagnostic.toList ∨ CountsErrors line := by
  -- A line of another kind counts nothing, so only its diagnostic is left to look at.
  have hother : classify line ≠ .resultSummary →
      (f.failed = true ↔ HasErrorIn f.diagnostic.toList) →
      (f.failed = true ↔ HasErrorIn f.diagnostic.toList ∨ CountsErrors line) := by
    intro hkind hfailed
    have hcounts : ¬ CountsErrors line := fun hcounts => hkind hcounts.1
    rw [hfailed, or_iff_left hcounts]
  unfold finding at h
  cases hkind : classify line with
  | compilingHeader =>
      rw [hkind] at h
      cases h
      exact hother (by rw [hkind]; decide) (isSilent_named _ line).failed_iff
  | includeNotice =>
      rw [hkind] at h
      cases h
      exact hother (by rw [hkind]; decide) (isSilent_named _ line).failed_iff
  | infoNotice =>
      rw [hkind] at h
      cases h
      exact hother (by rw [hkind]; decide) (isSilent_noticed line).failed_iff
  | resultSummary =>
      rw [hkind] at h
      obtain ⟨hdiagnostic, hfailed⟩ := concluded_eq_ok h
      rw [hfailed, hdiagnostic]
      constructor
      · exact fun hcount => Or.inr ⟨hkind, hcount⟩
      · rintro (herror | ⟨-, hcount⟩)
        · exact absurd herror hasErrorIn_nil
        · exact hcount
  | pathDiagnostic =>
      rw [hkind] at h
      exact hother (by rw [hkind]; decide) (located_eq_ok h)
  | plain =>
      rw [hkind] at h
      cases h
      exact hother (by rw [hkind]; decide) (IsSilent.failed_iff ⟨rfl, rfl⟩)

/-! ### Logs -/

theorem forall₂_of_mapM_eq_ok {α β ε : Type} {f : α → Except ε β} {as : List α} {bs : List β}
    (h : as.mapM f = .ok bs) : List.Forall₂ (fun a b => f a = .ok b) as bs := by
  induction as generalizing bs with
  | nil =>
      cases h
      exact .nil
  | cons a as ih =>
      rw [List.mapM_cons] at h
      cases hb : f a with
      | error e =>
          rw [hb] at h
          cases h
      | ok b =>
          cases hrest : as.mapM f with
          | error e =>
              rw [hb, hrest] at h
              cases h
          | ok rest =>
              rw [hb, hrest] at h
              cases h
              exact .cons hb (ih hrest)

theorem any_failed_iff {mode : Mode} {ls : List Text} {fs : List Finding}
    (h : List.Forall₂ (fun line f => finding mode line = .ok f) ls fs) :
    fs.any (·.failed) = true ↔
      HasErrorIn (fs.filterMap (·.diagnostic)) ∨ ∃ line ∈ ls, CountsErrors line := by
  induction h with
  | nil => simp [HasErrorIn]
  | @cons line f ls fs hf _ ih =>
      have hhere := finding_eq_ok hf
      have hsplit : (f :: fs).filterMap (·.diagnostic) =
          f.diagnostic.toList ++ fs.filterMap (·.diagnostic) := by
        cases hd : f.diagnostic <;> simp [hd]
      rw [List.any_cons, Bool.or_eq_true, hhere, ih, hsplit, hasErrorIn_append]
      simp only [List.mem_cons, exists_eq_or_imp]
      exact or_or_or_comm ..

/-- A report puts together what is found in the lines. -/
theorem exists_findings_of_read {mode : Mode} {log : Text} {r : Report} (h : read mode log = .ok r) :
    ∃ fs, List.Forall₂ (fun line f => finding mode line = .ok f) (lines log) fs ∧
      r = Report.ofFindings fs := by
  unfold read at h
  cases hfindings : (lines log).mapM (finding mode) with
  | error e =>
      rw [hfindings] at h
      cases h
  | ok fs =>
      rw [hfindings] at h
      cases h
      exact ⟨fs, forall₂_of_mapM_eq_ok hfindings, rfl⟩

/-- **When a report has an error.**  One of its diagnostics is an error, or a result in the log
counts errors. -/
theorem hasError_iff {mode : Mode} {log : Text} {r : Report} (h : read mode log = .ok r) :
    r.hasError = true ↔ HasErrorIn r.diagnostics ∨ ∃ line ∈ lines log, CountsErrors line := by
  obtain ⟨fs, hfindings, rfl⟩ := exists_findings_of_read h
  exact any_failed_iff hfindings

end MetaDesk.CompilerLog
