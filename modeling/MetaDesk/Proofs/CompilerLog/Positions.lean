import MetaDesk.Diagnostic.Presentation
import MetaDesk.Proofs.CompilerLog.Links

/-! # Where diagnostics are placed

The log counts lines and columns from one, and a diagnostic counts them from zero, so each is one
less than the numeral in the log.  A numeral is zero just when all its digits are, whatever their
script (`numeralValue_eq_zero_iff`); then the diagnostic is placed one line, or one column, before
the file, and an editor is given a range that starts there (`read_places_diagnostics`). -/

namespace MetaDesk

/-! ### Numerals -/

/-- The numeral is written with zeros only. -/
def Text.IsZeros (digits : Text) : Prop := ∀ c ∈ digits, digitValue? c = some 0

theorem Text.foldl_eq_zero_iff (digits : Text) (n : ℕ) :
    digits.foldl (fun n c => 10 * n + (digitValue? c).getD 0) n = 0 ↔
      n = 0 ∧ ∀ c ∈ digits, (digitValue? c).getD 0 = 0 := by
  induction digits generalizing n with
  | nil => simp
  | cons c digits ih =>
      rw [List.foldl_cons, ih, List.forall_mem_cons, ← and_assoc]
      refine and_congr_left fun _ => ?_
      omega

/-- A numeral of any script is zero just when it is written with zeros only. -/
theorem Text.numeralValue_eq_zero_iff {digits : Text} (h : ∀ c ∈ digits, isDigit c = true) :
    numeralValue digits = 0 ↔ IsZeros digits := by
  unfold numeralValue
  rw [foldl_eq_zero_iff, and_iff_right rfl]
  refine forall₂_congr fun c hc => ?_
  obtain ⟨v, -, hv⟩ := exists_value_of_isDigit (h c hc)
  rw [hv, Option.getD_some, Option.some.injEq]

/-! ### Ranges -/

/-- The range that is shown starts at this line and column. -/
def JsonTree.RangeStartsAt (tree : JsonTree) (line column : ℤ) : Prop :=
  ∃ parts range, tree = .record parts ∧ (("range" : Text), JsonTree.record range) ∈ parts ∧
    (("start" : Text), Diagnostic.placeTree line column) ∈ range

theorem Diagnostic.placeTree_inj {line column line' column' : ℤ}
    (h : placeTree line column = placeTree line' column') : line = line' ∧ column = column' := by
  have hparts := JsonTree.record.inj h
  simp only [List.map_cons, List.map_nil, List.cons.injEq, Prod.mk.injEq, true_and, and_true,
    JsonTree.number.injEq] at hparts
  exact hparts

theorem Diagnostic.rangeStartsAt_presentation {d : Diagnostic} {line column : ℤ} :
    d.presentation.RangeStartsAt line column ↔ line = d.line ∧ column = d.column := by
  constructor
  · rintro ⟨parts, range, hparts, hrange, hstart⟩
    obtain rfl := JsonTree.record.inj hparts
    simp only [List.map_append, List.map_cons, List.map_nil, List.mem_append, List.mem_cons,
      List.mem_map, Option.mem_toList] at hrange
    rcases hrange with (hrange | hmessage | hseverity | hnone) | ⟨_, ⟨code, -, rfl⟩, hcode⟩
    · obtain rfl := JsonTree.record.inj (Prod.mk.inj hrange).2
      rcases List.mem_cons.mp hstart with hhere | hend
      · exact placeTree_inj (Prod.mk.inj hhere).2
      · have hne : "start".toList ≠ "end".toList := by decide
        exact absurd (Prod.mk.inj (List.mem_singleton.mp hend)).1 hne
    · cases (Prod.mk.inj hmessage).2
    · cases (Prod.mk.inj hseverity).2
    · cases hnone
    · have hne : "code".toList ≠ "range".toList := by decide
      exact absurd (Prod.mk.inj hcode).1 hne
  · rintro ⟨rfl, rfl⟩
    exact ⟨_, _, rfl, List.mem_cons_self, List.mem_cons_self⟩

namespace CompilerLog

open Text

variable {mode : Mode} {line log : Text}

/-! ### Places -/

/-- The place is counted from one: neither of its numerals is zero. -/
structure Placed.CountsFromOne (place : Placed) : Prop where
  line : ¬ IsZeros place.line
  column : ¬ IsZeros place.column

theorem Spot.diagnostic_nonneg {t : Spot} (h : spot? line = some t) :
    (0 ≤ t.diagnostic.line ↔ ¬ IsZeros t.place.line) ∧
      (0 ≤ t.diagnostic.column ↔ ¬ IsZeros t.place.column) := by
  have hpos : ∀ digits : Text, (∀ c ∈ digits, isDigit c = true) →
      (0 ≤ (numeralValue digits : ℤ) - 1 ↔ ¬ IsZeros digits) := by
    intro digits hdigits
    rw [← numeralValue_eq_zero_iff hdigits]
    omega
  obtain ⟨hline, hcolumn⟩ := isDigit_of_spot? h
  exact ⟨hpos _ hline, hpos _ hcolumn⟩

/-- **Each diagnostic is at the place that its line of the log names, counted from zero.**  So it is
in its file, and its range starts there, unless the log writes its line or its column with zeros
only; then it is one before.  All diagnostics are in their files just when every place that is
reported is counted from one. -/
theorem read_places_diagnostics {r : Report} (h : read mode log = .ok r) :
    (∀ d ∈ r.diagnostics, ∃ line ∈ lines log, ∃ t, spot? line = some t ∧ d = t.diagnostic ∧
      (d.line + 1 = numeralValue t.place.line ∧ d.column + 1 = numeralValue t.place.column) ∧
      (0 ≤ d.line ↔ ¬ IsZeros t.place.line) ∧ (0 ≤ d.column ↔ ¬ IsZeros t.place.column)) ∧
    (∀ d ∈ r.diagnostics, ∀ line column,
      d.presentation.RangeStartsAt line column ↔ line = d.line ∧ column = d.column) ∧
    ((∀ d ∈ r.diagnostics, 0 ≤ d.line ∧ 0 ≤ d.column) ↔
      ∀ line ∈ lines log, ∀ t, spot? line = some t → t.place.CountsFromOne) := by
  have hmem : ∀ d, d ∈ r.diagnostics ↔
      ∃ line ∈ lines log, ∃ t, spot? line = some t ∧ t.diagnostic = d := by
    intro d
    rw [diagnostics_eq h, List.mem_filterMap]
    simp only [Option.map_eq_some_iff]
  refine ⟨fun d hd => ?_, fun d _ line column => Diagnostic.rangeStartsAt_presentation, ?_⟩
  · obtain ⟨line, hline, t, ht, rfl⟩ := (hmem d).mp hd
    have hnonneg := Spot.diagnostic_nonneg ht
    exact ⟨line, hline, t, ht, rfl, ⟨Int.sub_add_cancel _ _, Int.sub_add_cancel _ _⟩, hnonneg⟩
  · constructor
    · intro hall line hline t ht
      obtain ⟨hlines, hcolumns⟩ := hall _ ((hmem _).mpr ⟨line, hline, t, ht, rfl⟩)
      obtain ⟨hlineIff, hcolumnIff⟩ := Spot.diagnostic_nonneg ht
      exact ⟨hlineIff.mp hlines, hcolumnIff.mp hcolumns⟩
    · intro hplaces d hd
      obtain ⟨line, hline, t, ht, rfl⟩ := (hmem d).mp hd
      obtain ⟨hlines, hcolumns⟩ := hplaces line hline t ht
      obtain ⟨hlineIff, hcolumnIff⟩ := Spot.diagnostic_nonneg ht
      exact ⟨hlineIff.mpr hlines, hcolumnIff.mpr hcolumns⟩

/-- A problem of a whole file, and one at a place written with digits of another script. -/
def fileLevelLog : Text := "C:\\a(0,00) : error 5: odd\r\nC:\\b(०,०३) : warning: even"

theorem lines_fileLevelLog : lines fileLevelLog =
    ["C:\\a(0,00) : error 5: odd".toList, "C:\\b(०,०३) : warning: even".toList] := by
  decide +kernel

theorem exists_read_fileLevelLog : ∃ r, read .check fileLevelLog = .ok r := by
  have hok : (read .check fileLevelLog).toBool = true := by decide +kernel
  cases hr : read .check fileLevelLog with
  | error e =>
      rw [hr] at hok
      cases hok
  | ok r => exact ⟨r, rfl⟩

theorem diagnostics_fileLevelLog {r : Report} (h : read .check fileLevelLog = .ok r) :
    r.diagnostics = [⟨"C:\\a", -1, -1, .error, "odd", some "5"⟩,
      ⟨"C:\\b", -1, 2, .warning, "even", none⟩] := by
  rw [diagnostics_eq h, lines_fileLevelLog]
  decide +kernel

/-- The first problem is before its file in both, the second in its line alone. -/
theorem read_places_diagnostics_of_fileLevel : ∃ r, read .check fileLevelLog = .ok r ∧
    r.diagnostics.map (fun d => (d.line, d.column)) = [(-1, -1), (-1, 2)] ∧
    (∀ d ∈ r.diagnostics, d.presentation.RangeStartsAt d.line d.column) ∧
    ¬ ∀ line ∈ lines fileLevelLog, ∀ t, spot? line = some t → t.place.CountsFromOne := by
  obtain ⟨r, hr⟩ := exists_read_fileLevelLog
  obtain ⟨-, hrange, hplaces⟩ := read_places_diagnostics hr
  have hdiagnostics := diagnostics_fileLevelLog hr
  refine ⟨r, hr, by rw [hdiagnostics]; rfl, fun d hd => (hrange d hd _ _).mpr ⟨rfl, rfl⟩, ?_⟩
  rw [← hplaces, hdiagnostics]
  decide

/-- A problem that the compiler reports of a whole file is placed before it. -/
theorem not_in_file_of_fileLevel : ¬ ∀ r, read .check fileLevelLog = .ok r →
    ∀ d ∈ r.diagnostics, 0 ≤ d.line ∧ 0 ≤ d.column := by
  intro h
  obtain ⟨r, hr⟩ := exists_read_fileLevelLog
  have hall := h r hr
  rw [diagnostics_fileLevelLog hr] at hall
  exact absurd hall (by decide)

end CompilerLog

end MetaDesk
