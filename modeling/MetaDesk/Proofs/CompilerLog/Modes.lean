import MetaDesk.Proofs.CompilerLog.Entries
import MetaDesk.Proofs.Path.Reading

/-! # What the mode changes

A log is read alike for a check and for a compile, but for how a result is told.  In every line the
two readings find the same, or it is a result and they find the same counts (`finding_alike`), so
they come to an end together at a line that cannot be read, or go on side by side
(`findings_alike`).  So the reports differ in nothing but the entries of results, and these begin
with the same tag (`read_differs_in_results`). -/

namespace MetaDesk.CompilerLog

open Text

variable {mode : Mode} {line log : Text}

/-- Something of a line, as it is for a check and as it is for a compile. -/
structure InBoth (α : Type) where
  line : Text
  checked : α
  compiled : α

/-- How a result with these counts is shown. -/
def judged (mode : Mode) (line : Text) (errors warnings : ℕ) : Text :=
  "[" ++ tag errors warnings ++ "] " ++ told mode line

/-! ### Lines -/

/-- The two findings are the same, or those of a result with the same counts. -/
inductive Alike : InBoth Finding → Prop
  | same {line : Text} (f : Finding) (hkind : classify line ≠ .resultSummary) : Alike ⟨line, f, f⟩
  | result {line : Text} (errors warnings : ℕ) (hkind : classify line = .resultSummary) :
      Alike ⟨line, { shown := some (judged .check line errors warnings), failed := errors != 0 },
        { shown := some (judged .compile line errors warnings), failed := errors != 0 }⟩

namespace Alike

variable {b : InBoth Finding}

theorem diagnostic_eq (h : Alike b) : b.checked.diagnostic = b.compiled.diagnostic := by
  cases h <;> rfl

theorem link_eq (h : Alike b) : b.checked.link = b.compiled.link := by
  cases h <;> rfl

end Alike

theorem concluded_eq (mode : Mode) (line : Text) : concluded mode line = (do
    let errors ← count "error" line
    let warnings ← count "warning" line
    return { shown := some (judged mode line errors warnings), failed := errors != 0 }) := rfl

/-- The mode is asked for by results alone. -/
theorem finding_eq_of_ne (hkind : classify line ≠ .resultSummary) (mode mode' : Mode) :
    finding mode line = finding mode' line := by
  unfold finding
  cases h : classify line with
  | resultSummary => exact absurd h hkind
  | compilingHeader | includeNotice | infoNotice | pathDiagnostic | plain => rfl

/-- The two readings of a line have ended well, and find alike. -/
structure FoundAlike (b : InBoth Finding) : Prop where
  checked_eq : finding .check b.line = .ok b.checked
  compiled_eq : finding .compile b.line = .ok b.compiled
  alike : Alike b

theorem finding_alike (line : Text) :
    (∃ e, finding .check line = .error e ∧ finding .compile line = .error e) ∨
      ∃ f f', FoundAlike ⟨line, f, f'⟩ := by
  by_cases hkind : classify line = .resultSummary
  · have hconcluded : ∀ mode, finding mode line = concluded mode line := by
      intro mode
      unfold finding
      rw [hkind]
    have hcheck := (hconcluded .check).trans (concluded_eq .check line)
    have hcompile := (hconcluded .compile).trans (concluded_eq .compile line)
    cases herrors : count "error" line with
    | error e =>
        rw [herrors] at hcheck hcompile
        exact Or.inl ⟨e, hcheck, hcompile⟩
    | ok errors =>
        cases hwarnings : count "warning" line with
        | error e =>
            rw [herrors, hwarnings] at hcheck hcompile
            exact Or.inl ⟨e, hcheck, hcompile⟩
        | ok warnings =>
            rw [herrors, hwarnings] at hcheck hcompile
            exact Or.inr ⟨_, _, hcheck, hcompile, .result errors warnings hkind⟩
  · have hsame := finding_eq_of_ne hkind .compile .check
    cases hcheck : finding .check line with
    | error e => exact Or.inl ⟨e, rfl, hsame.trans hcheck⟩
    | ok f => exact Or.inr ⟨f, f, hcheck, hsame.trans hcheck, .same f hkind⟩

/-! ### Runs of lines -/

/-- The two readings of some lines fail alike, or find alike in each of them. -/
theorem findings_alike (ls : List Text) :
    (∃ e, ls.mapM (finding .check) = .error e ∧ ls.mapM (finding .compile) = .error e) ∨
      ∃ both : List (InBoth Finding), both.map (·.line) = ls ∧
        ls.mapM (finding .check) = .ok (both.map (·.checked)) ∧
        ls.mapM (finding .compile) = .ok (both.map (·.compiled)) ∧ ∀ b ∈ both, FoundAlike b := by
  induction ls with
  | nil => exact Or.inr ⟨[], rfl, rfl, rfl, by simp⟩
  | cons line ls ih =>
      rw [List.mapM_cons, List.mapM_cons]
      rcases finding_alike line with ⟨e, hcheck, hcompile⟩ | ⟨f, f', hfound⟩
      · exact Or.inl ⟨e, by rw [hcheck]; rfl, by rw [hcompile]; rfl⟩
      · rw [hfound.checked_eq, hfound.compiled_eq]
        rcases ih with ⟨e, hcheck, hcompile⟩ | ⟨both, hlines, hcheck, hcompile, hall⟩
        · exact Or.inl ⟨e, by rw [hcheck]; rfl, by rw [hcompile]; rfl⟩
        · refine Or.inr ⟨⟨line, f, f'⟩ :: both, by rw [List.map_cons, hlines], ?_, ?_,
            List.forall_mem_cons.mpr ⟨hfound, hall⟩⟩
          · rw [hcheck]
            rfl
          · rw [hcompile]
            rfl

/-! ### Entries -/

/-- The entries of a line, if it has them. -/
def InBoth.entered? (b : InBoth Finding) : Option (InBoth Text) :=
  b.checked.shown.bind fun checked =>
    b.compiled.shown.map fun compiled => ⟨b.line, checked, compiled⟩

theorem Alike.map_entered? {b : InBoth Finding} (h : Alike b) :
    b.entered?.map (·.checked) = b.checked.shown ∧
      b.entered?.map (·.compiled) = b.compiled.shown := by
  unfold InBoth.entered?
  cases h with
  | same f _ => cases f.shown <;> exact ⟨rfl, rfl⟩
  | result errors warnings _ => exact ⟨rfl, rfl⟩

/-- The entries of a line for a check and for a compile: the same, or those of a result with the
same tag. -/
structure EntriesAlike (e : InBoth Text) : Prop where
  checked_eq : shownOf? .check e.line = some e.checked
  compiled_eq : shownOf? .compile e.line = some e.compiled
  same : classify e.line ≠ .resultSummary → e.checked = e.compiled
  result : classify e.line = .resultSummary → ∃ errors warnings,
    e.checked = judged .check e.line errors warnings ∧
      e.compiled = judged .compile e.line errors warnings

theorem FoundAlike.entriesAlike {b : InBoth Finding} {e : InBoth Text} (h : FoundAlike b)
    (he : b.entered? = some e) : EntriesAlike e := by
  obtain ⟨checked, hchecked, he⟩ := Option.bind_eq_some_iff.mp he
  obtain ⟨compiled, hcompiled, rfl⟩ := Option.map_eq_some_iff.mp he
  refine ⟨(shownOf?_of_finding h.checked_eq).trans hchecked,
    (shownOf?_of_finding h.compiled_eq).trans hcompiled, fun hother => ?_, fun hresult => ?_⟩
  · cases h.alike with
    | same f _ => exact Option.some.inj (hchecked.symm.trans hcompiled)
    | result _ _ hkind => exact absurd hkind hother
  · cases h.alike with
    | same _ hkind => exact absurd hresult hkind
    | result errors warnings _ =>
        exact ⟨errors, warnings, (Option.some.inj hchecked).symm, (Option.some.inj hcompiled).symm⟩

/-- The lines with an entry are those that show something. -/
theorem FoundAlike.line_entered? {b : InBoth Finding} (h : FoundAlike b) :
    b.entered?.map (·.line) =
      Option.guard (fun line => (shownOf? .check line).isSome) b.line := by
  have hshown := (shownOf?_of_finding h.checked_eq).trans h.alike.map_entered?.1.symm
  cases hentry : b.entered? with
  | none =>
      rw [hentry] at hshown
      simp [Option.guard, hshown]
  | some e =>
      rw [hentry] at hshown
      obtain ⟨checked, -, he⟩ := Option.bind_eq_some_iff.mp hentry
      obtain ⟨compiled, -, rfl⟩ := Option.map_eq_some_iff.mp he
      simp [Option.guard, hshown]

theorem splitOn_endLines {ts : List Text} (h : ∀ t ∈ ts, '\n' ∉ t) :
    splitOn '\n' (ts.flatMap (· ++ ['\n'])) = ts ++ [[]] := by
  induction ts with
  | nil => rfl
  | cons t ts ih =>
      rw [List.flatMap_cons, List.append_assoc, List.singleton_append,
        splitOn_append_cons (h t List.mem_cons_self),
        ih fun u hu => h u (List.mem_cons_of_mem t hu), List.cons_append]

theorem splitOn_text {r : Report} (h : read mode log = .ok r) :
    splitOn '\n' r.text = r.shown ++ [[]] := by
  refine splitOn_endLines fun entry hentry hfeed => ?_
  rw [shown_eq h] at hentry
  obtain ⟨line, hline, hshown⟩ := List.mem_filterMap.mp hentry
  exact absurd (noBreak_of_shownOf? hline hshown _ hfeed) (by decide)

/-! ### Reports -/

theorem read_of_findings {fs : List Finding} (h : (lines log).mapM (finding mode) = .ok fs) :
    read mode log = .ok (Report.ofFindings fs) := by
  unfold read
  rw [h]
  rfl

theorem filterMap_checked_eq {α : Type} {both : List (InBoth Finding)} {part : Finding → Option α}
    (h : ∀ b ∈ both, part b.checked = part b.compiled) :
    (both.map (·.checked)).filterMap part = (both.map (·.compiled)).filterMap part := by
  rw [List.filterMap_map, List.filterMap_map]
  exact List.filterMap_congr h

/-- The entries of two readings side by side, with the lines that they come from. -/
def entriesOf (both : List (InBoth Finding)) : List (InBoth Text) := both.filterMap (·.entered?)

theorem map_entriesOf {both : List (InBoth Finding)} (h : ∀ b ∈ both, FoundAlike b) :
    (entriesOf both).map (·.checked) = (both.map (·.checked)).filterMap (·.shown) ∧
      (entriesOf both).map (·.compiled) = (both.map (·.compiled)).filterMap (·.shown) ∧
      (entriesOf both).map (·.line) =
        (both.map (·.line)).filter fun line => (shownOf? .check line).isSome := by
  unfold entriesOf
  rw [List.map_filterMap, List.map_filterMap, List.map_filterMap, List.filterMap_map,
    List.filterMap_map, ← List.filterMap_eq_filter, List.filterMap_map]
  refine ⟨List.filterMap_congr fun b hb => (h b hb).alike.map_entered?.1,
    List.filterMap_congr fun b hb => (h b hb).alike.map_entered?.2,
    List.filterMap_congr fun b hb => (h b hb).line_entered?⟩

/-- **What the mode changes.**  A check and a compile cannot read the same logs.  Where they can,
the diagnostics, the links and the news of an error are the same, and so is the number of entries;
two entries at the same place come from the same line, differ only if that is a result, and then
begin with the same tag. -/
theorem read_differs_in_results (log : Text) :
    (∃ e, read .check log = .error e ∧ read .compile log = .error e) ∨
    ∃ r r', read .check log = .ok r ∧ read .compile log = .ok r' ∧
      r.diagnostics = r'.diagnostics ∧ r.hasError = r'.hasError ∧ r.links = r'.links ∧
      splitOn '\n' r.text = r.shown ++ [[]] ∧ splitOn '\n' r'.text = r'.shown ++ [[]] ∧
      r.shown.length = r'.shown.length ∧
      ∃ entries : List (InBoth Text), r.shown = entries.map (·.checked) ∧
        r'.shown = entries.map (·.compiled) ∧
        entries.map (·.line) = ((lines log).filter fun line => (shownOf? .check line).isSome) ∧
        ∀ e ∈ entries, EntriesAlike e := by
  rcases findings_alike (lines log) with
    ⟨e, hcheck, hcompile⟩ | ⟨both, hlines, hcheck, hcompile, hall⟩
  · exact Or.inl ⟨e, by rw [read, hcheck]; rfl, by rw [read, hcompile]; rfl⟩
  · have hread := read_of_findings hcheck
    have hread' := read_of_findings hcompile
    obtain ⟨hchecked, hcompiled, horigins⟩ := map_entriesOf hall
    rw [hlines] at horigins
    have hdiagnostics := filterMap_checked_eq fun b hb => (hall b hb).alike.diagnostic_eq
    have hlinks := filterMap_checked_eq fun b hb => (hall b hb).alike.link_eq
    have hlength := congrArg List.length hchecked
    have hlength' := congrArg List.length hcompiled
    rw [List.length_map] at hlength hlength'
    refine Or.inr ⟨_, _, hread, hread', hdiagnostics, ?_, congrArg Keyed.ofList hlinks,
      splitOn_text hread, splitOn_text hread', hlength.symm.trans hlength', entriesOf both,
      hchecked.symm, hcompiled.symm, horigins, fun e he => ?_⟩
    · -- What else raises the flag is counted in the lines, and these are the same.
      rw [Bool.eq_iff_iff, hasError_iff hread, hasError_iff hread']
      exact or_congr_left (Iff.of_eq (congrArg HasErrorIn hdiagnostics))
    · obtain ⟨b, hb, he⟩ := List.mem_filterMap.mp he
      exact (hall b hb).entriesAlike he

end MetaDesk.CompilerLog
