import MetaDesk.Proofs.CompilerLog.Links
import MetaDesk.Proofs.CompilerLog.Numerals

/-! # Which logs can be read

Two things that the reading of a log asks for might be refused: the number of a numeral, and the
address of a file.  What is taken for a numeral in a line (`IsNumeralOf`) is a run of digits, each
with a value, so it is refused for its length alone (`readNumeral_of_isDigit`); and what is taken
for a path is on a drive, so it always has an address (`fileUri?_of_leadingPath?`,
`fileUri?_of_place`).  So a log is refused just when one of its lines has a numeral that is read and
too long (`read_refuses_long_numerals`). -/

namespace MetaDesk.CompilerLog

open Text

variable {line log digits path : Text} {place : Placed}

/-- What is taken for a numeral in a line: the digits of its first count of errors or of warnings,
or the line or the column of its place. -/
inductive IsNumeralOf (line digits : Text) : Prop where
  | count {word : Text} (hword : word = "error" ∨ word = "warning")
      (hcount : IsFirstCount word line digits)
  | place {path : Option Text} {place : Placed} (hplace : pathAndPlace? line = some (path, place))
      (hdigits : digits = place.line ∨ digits = place.column)

theorem IsNumeralOf.isDigit (h : IsNumeralOf line digits) :
    digits ≠ [] ∧ ∀ c ∈ digits, Text.isDigit c = true := by
  cases h with
  | count _ hcount =>
      obtain ⟨-, -, -, ⟨hne, hall, -⟩, -⟩ := hcount
      exact ⟨hne, hall⟩
  | place hplace hdigits =>
      obtain ⟨-, rest, -, hrest⟩ := exists_placed hplace
      obtain ⟨-, -, -, hline, hcolumn, -⟩ := placed?_eq_some hrest
      rcases hdigits with rfl | rfl
      · exact hline
      · exact hcolumn

/-- A run of digits of any script is read as the number that their values write, unless it is too
long. -/
theorem readNumeral_of_isDigit (h : ∀ c ∈ digits, isDigit c = true) :
    ∃ values, HasValues digits values ∧ (∀ v ∈ values, v < 10) ∧
      readNumeral digits = if digits.length ≤ maxDigits then .ok (Nat.ofDigits 10 values.reverse)
        else .error ⟨digits.length⟩ := by
  obtain ⟨values, hvalues, hlt⟩ := exists_values h
  refine ⟨values, hvalues, hlt, ?_⟩
  unfold readNumeral
  rw [hvalues.numeralValue_eq]

theorem fileUri?_of_leadingPath? (h : leadingPath? line = some path) :
    Path.fileUri? path = some (addressOf path) := by
  obtain ⟨uri, huri, -⟩ := exists_uri_of_leadingPath? h
  rw [huri, addressOf_eq huri]

theorem fileUri?_of_place (h : pathAndPlace? line = some (some path, place)) :
    Path.fileUri? (trim path) = some (addressOf (trim path)) := by
  obtain ⟨uri, huri, -⟩ := exists_uri_of_place h
  rw [huri, addressOf_eq huri]

/-- **Which logs can be read.**  A log is refused just when one of its lines is a result whose first
count of errors or of warnings is too long, or reports a problem of a file whose line or column is,
and it is refused as such a numeral.  Nothing else is ever refused: what is taken for a path has an
address, and what is taken for a numeral is read as the number that its digits write unless it is
too long. -/
theorem read_refuses_long_numerals (mode : Mode) (log : Text) :
    ((∃ e, read mode log = .error e) ↔ ∃ line ∈ lines log, ∃ e, HasLongNumeral line e) ∧
    (∀ e, read mode log = .error e → ∃ line ∈ lines log, HasLongNumeral line e) ∧
    (∀ line path, leadingPath? line = some path →
      Path.fileUri? path = some (addressOf path)) ∧
    (∀ line path place, pathAndPlace? line = some (some path, place) →
      Path.fileUri? (trim path) = some (addressOf (trim path))) ∧
    ∀ line digits, IsNumeralOf line digits → digits ≠ [] ∧
      ∃ values, HasValues digits values ∧ (∀ v ∈ values, v < 10) ∧
        readNumeral digits = if digits.length ≤ maxDigits then
          .ok (Nat.ofDigits 10 values.reverse) else .error ⟨digits.length⟩ := by
  refine ⟨⟨?_, ?_⟩, fun e h => hasLongNumeral_of_read h, fun line path => fileUri?_of_leadingPath?,
    fun line path place => fileUri?_of_place, fun line digits hdigits => ?_⟩
  · rintro ⟨e, he⟩
    obtain ⟨line, hline, hlong⟩ := hasLongNumeral_of_read he
    exact ⟨line, hline, e, hlong⟩
  · rintro ⟨line, hline, e, hlong⟩
    exact exists_read_error mode hline hlong
  · exact ⟨hdigits.isDigit.1, readNumeral_of_isDigit hdigits.isDigit.2⟩

end MetaDesk.CompilerLog
