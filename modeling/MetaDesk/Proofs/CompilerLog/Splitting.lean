import MetaDesk.CompilerLog.Report
import MetaDesk.Proofs.Keyed
import MetaDesk.Proofs.Text.Line

/-! # Reading a log in parts

A log is read line by line, and what a line says does not depend on the lines before it.  So where a
line feed joins two logs the report is that of the first log followed by that of the second
(`Report.append`, `read_append`).  The lines of the whole log are those of its parts
(`lines_append_lineFeed`): marks are dropped character by character, and whatever stands at the end
of the first part, the line feed adds at most a blank line, which says nothing. -/

namespace MetaDesk.CompilerLog

open Text

theorem dropMarks_append_lineFeed (a b : Text) :
    dropMarks (a ++ '\n' :: b) = dropMarks a ++ '\n' :: dropMarks b := by
  unfold dropMarks
  rw [List.filter_append, List.filter_cons_of_pos (by decide)]

theorem lines_append_lineFeed (a b : Text) : lines (a ++ '\n' :: b) = lines a ++ lines b := by
  obtain ⟨gap, hgap, hlines⟩ := Text.lines_append_lineFeed (dropMarks a) (dropMarks b)
  have hblank : (gap.map trim).filter (fun line => !line.isEmpty) = [] := by
    rcases hgap with rfl | rfl <;> rfl
  unfold lines
  rw [dropMarks_append_lineFeed, hlines, List.map_append, List.map_append, List.filter_append,
    List.filter_append, hblank, List.nil_append]

/-! ### Reports one after the other -/

/-- The report of two logs of which the second follows the first. -/
def Report.append (first second : Report) : Report where
  shown := first.shown ++ second.shown
  diagnostics := first.diagnostics ++ second.diagnostics
  links := Keyed.update first.links second.links
  hasError := first.hasError || second.hasError

theorem Report.ofFindings_append (fs gs : List Finding) :
    Report.ofFindings (fs ++ gs) = (Report.ofFindings fs).append (Report.ofFindings gs) := by
  simp only [Report.ofFindings, Report.append, List.filterMap_append, List.any_append,
    Keyed.ofList_append]

theorem Report.text_append (first second : Report) :
    (first.append second).text = first.text ++ second.text := List.flatMap_append

/-- No line of a log matters to what another one says. -/
theorem read_append (mode : Mode) (a b : Text) :
    read mode (a ++ '\n' :: b) =
      (do let first ← read mode a
          let second ← read mode b
          return first.append second) := by
  unfold read
  rw [lines_append_lineFeed, List.mapM_append]
  cases (lines a).mapM (finding mode) with
  | error e => rfl
  | ok fs =>
      cases (lines b).mapM (finding mode) with
      | error e => rfl
      | ok gs => exact congrArg Except.ok (Report.ofFindings_append fs gs)

theorem nodup_keys_of_read {mode : Mode} {log : Text} {r : Report} (h : read mode log = .ok r) :
    r.links.keys.Nodup := by
  unfold read at h
  cases hfindings : (lines log).mapM (finding mode) with
  | error e =>
      rw [hfindings] at h
      cases h
  | ok fs =>
      rw [hfindings] at h
      obtain rfl := Except.ok.inj h
      exact Keyed.nodup_keys_ofList _

/-- **A log is read line by line.**  Two logs joined by a line feed can be read when both can, and
then the report shows the lines, lists the diagnostics and has the errors of both.  Its links are
those of the first log brought up to date with those of the second: a text that both know keeps its
place and leads where the second says. -/
theorem read_line_by_line (mode : Mode) (a b : Text) :
    ((∃ r, read mode (a ++ '\n' :: b) = .ok r) ↔
      (∃ first, read mode a = .ok first) ∧ ∃ second, read mode b = .ok second) ∧
    ∀ first second, read mode a = .ok first → read mode b = .ok second →
      ∃ r, read mode (a ++ '\n' :: b) = .ok r ∧
        r.text = first.text ++ second.text ∧
        r.diagnostics = first.diagnostics ++ second.diagnostics ∧
        r.hasError = (first.hasError || second.hasError) ∧
        r.links = Keyed.update first.links second.links ∧
        r.links.keys =
          first.links.keys ++ second.links.keys.filter (fun k => (first.links.get? k).isNone) ∧
        ∀ k, r.links.get? k = (second.links.get? k).or (first.links.get? k) := by
  rw [read_append]
  refine ⟨?_, fun first second ha hb => ?_⟩
  · constructor
    · rintro ⟨r, hr⟩
      cases ha : read mode a with
      | error e =>
          rw [ha] at hr
          cases hr
      | ok first =>
          cases hb : read mode b with
          | error e =>
              rw [ha, hb] at hr
              cases hr
          | ok second => exact ⟨⟨first, rfl⟩, second, rfl⟩
    · rintro ⟨⟨first, ha⟩, second, hb⟩
      exact ⟨first.append second, by rw [ha, hb]; rfl⟩
  · have hkeys := nodup_keys_of_read hb
    refine ⟨first.append second, by rw [ha, hb]; rfl, Report.text_append first second, rfl, rfl, rfl,
      ?_, ?_⟩
    · exact Keyed.keys_update first.links hkeys
    · exact Keyed.get?_update first.links hkeys

/-- A first log that ends in a carriage return, and a second one behind a mark that has the same
text lead to another file. -/
theorem read_line_by_line_of_carriageReturn :
    ∃ first second,
      read .check "C:\\a.mq5(1,2) : error 5: odd\r" = .ok first ∧
      read .check "\uFEFF\nC:\\b.mq5(1,2) : warning 7: odd" = .ok second ∧
      ∃ r, read .check ("C:\\a.mq5(1,2) : error 5: odd\r" ++
          '\n' :: "\uFEFF\nC:\\b.mq5(1,2) : warning 7: odd") = .ok r ∧
        r.text = "odd (1,2)\nodd (1,2)\n" ∧ r.hasError = true ∧
        r.links = [(("odd (1,2)" : Text), ⟨"file:///C:/b.mq5#1,2", some "7"⟩)] := by
  refine ⟨_, _, rfl, rfl, ?_⟩
  obtain ⟨r, hr, htext, -, hasError, hlinks, -⟩ :=
    (read_line_by_line .check "C:\\a.mq5(1,2) : error 5: odd\r"
      "\uFEFF\nC:\\b.mq5(1,2) : warning 7: odd").2 _ _ rfl rfl
  refine ⟨r, hr, htext.trans ?_, hasError.trans ?_, hlinks.trans ?_⟩ <;> decide +kernel

end MetaDesk.CompilerLog
