import MetaDesk.Proofs.CompilerLog.Errors
import MetaDesk.Proofs.CompilerLog.Reading

/-! # What the lines of a log add

Every line of a log adds at most one entry to the text that is shown, in the order of the lines, and
every problem in a file that is not suppressed adds a diagnostic (`read_shows_each_line`).  All that
is known of a line comes from `Says`, which lists what a line can be found to say; a line that shows
nothing is one of the kinds of `IsUnshown`.  What is shown is made of characters of the line and of
ASCII, so no entry has a line break in it. -/

namespace MetaDesk.CompilerLog

open Text

variable {mode : Mode} {line log : Text}

/-- The entry of a line. -/
def shownOf? (mode : Mode) (line : Text) : Option Text :=
  (finding mode line).toOption.bind (·.shown)

/-! ### Problems -/

/-- What is said about the place. -/
def Placed.said (place : Placed) : Said := CompilerLog.said (trim place.body)

/-- What is said about the place is not reported. -/
def Placed.isSuppressed (place : Placed) : Bool :=
  CompilerLog.isSuppressed place.said.code place.said.message

/-- A problem in a file. -/
structure Spot where
  path : Text
  place : Placed
deriving DecidableEq

/-- The problem that a line reports. -/
def spot? (line : Text) : Option Spot :=
  match classify line, pathAndPlace? line with
  | .pathDiagnostic, some (some path, place) =>
    if place.isSuppressed then none else some ⟨trim path, place⟩
  | _, _ => none

namespace Spot

variable (t : Spot)

def diagnostic : Diagnostic :=
  ⟨t.path, (numeralValue t.place.line : ℤ) - 1, (numeralValue t.place.column : ℤ) - 1,
    t.place.said.severity, t.place.said.message, t.place.said.code⟩

def shown : Text := t.place.said.message ++ " " ++ t.place.text

def link : Link :=
  ⟨addressOf t.path ++ "#" ++ t.place.line ++ "," ++ t.place.column, t.place.said.code⟩

/-- Everything that the problem adds to the report. -/
def finding : Finding where
  shown := some t.shown
  link := some (t.shown, t.link)
  diagnostic := some t.diagnostic
  failed := t.place.said.severity = .error

end Spot

theorem diagnosed_eq {path : Text} {place : Placed} {f : Finding}
    (h : diagnosed path place place.said = .ok f) : f = (Spot.mk (trim path) place).finding := by
  unfold diagnosed at h
  dsimp only at h
  unfold readNumeral at h
  split_ifs at h with hline hcolumn
  · cases h
    rfl
  all_goals cases h

/-! ### What a line can say -/

/-- What a line is found to say. -/
inductive Says (mode : Mode) (line : Text) : Finding → Prop where
  /-- A header or an include notice leads to its file. -/
  | named {name path : Text}
      (hkind : classify line = .compilingHeader ∧ header? line = some name ∨
        classify line = .includeNotice ∧ include? line = some name)
      (hpath : leadingPath? line = some path) :
      Says mode line { shown := some name, link := some (name, ⟨addressOf path, none⟩) }
  | unplaced (hkind : classify line = .compilingHeader ∨ classify line = .includeNotice)
      (hpath : leadingPath? line = none) : Says mode line {}
  | silent (hkind : classify line = .infoNotice) (hsilent : isSilent line = true) :
      Says mode line {}
  | wordless (hkind : classify line = .infoNotice) (hwords : notice? line = none) :
      Says mode line {}
  | notice {message : Text} (hkind : classify line = .infoNotice)
      (hwords : notice? line = some message) :
      Says mode line
        { shown := some message
          link := (leadingPath? line).map fun path => (message, ⟨addressOf path, none⟩) }
  | result {errors warnings : ℕ} (hkind : classify line = .resultSummary) :
      Says mode line
        { shown := some ("[" ++ tag errors warnings ++ "] " ++ told mode line)
          failed := errors != 0 }
  | spot {t : Spot} (hkind : classify line = .pathDiagnostic) (hspot : spot? line = some t) :
      Says mode line t.finding
  | suppressed {path : Option Text} {place : Placed} (hkind : classify line = .pathDiagnostic)
      (hplace : pathAndPlace? line = some (path, place)) (hsuppressed : place.isSuppressed = true) :
      Says mode line {}
  | pathless {place : Placed} (hkind : classify line = .pathDiagnostic)
      (hplace : pathAndPlace? line = some (none, place)) (hreported : place.isSuppressed = false) :
      Says mode line { shown := some (place.said.message ++ " " ++ place.text) }
  | plain (hkind : classify line = .plain) : Says mode line { shown := some line }

theorem exists_header (h : classify line = .compilingHeader) :
    ∃ name, header? line = some name := by
  unfold classify at h
  split_ifs at h with hheader
  exact Option.isSome_iff_exists.mp hheader

theorem exists_include (h : classify line = .includeNotice) :
    ∃ name, include? line = some name := by
  unfold classify at h
  split_ifs at h with _ hinclude
  exact Option.isSome_iff_exists.mp hinclude

theorem exists_place (h : classify line = .pathDiagnostic) :
    ∃ path place, pathAndPlace? line = some (path, place) := by
  unfold classify at h
  split_ifs at h with _ _ _ _ hplace
  exact Prod.exists.mp (Option.isSome_iff_exists.mp hplace)

theorem says_named {name : Text}
    (hkind : classify line = .compilingHeader ∧ header? line = some name ∨
      classify line = .includeNotice ∧ include? line = some name) :
    Says mode line (named name line) := by
  unfold named
  cases hpath : leadingPath? line with
  | none => exact .unplaced (hkind.imp And.left And.left) hpath
  | some path => exact .named hkind hpath

theorem says_noticed (hkind : classify line = .infoNotice) : Says mode line (noticed line) := by
  unfold noticed
  split_ifs with hsilent
  · exact .silent hkind hsilent
  · cases hwords : notice? line with
    | none => exact .wordless hkind hwords
    | some message => exact .notice hkind hwords

theorem says_located {f : Finding} (hkind : classify line = .pathDiagnostic)
    (h : located line = .ok f) : Says mode line f := by
  obtain ⟨path, place, hplace⟩ := exists_place hkind
  unfold located at h
  rw [hplace] at h
  dsimp only at h
  split_ifs at h with hsuppressed
  · cases h
    exact .suppressed hkind hplace hsuppressed
  · have hreported : place.isSuppressed = false := Bool.not_eq_true _ ▸ hsuppressed
    cases path with
    | none =>
        cases h
        exact .pathless hkind hplace hreported
    | some path =>
        rw [diagnosed_eq h]
        refine .spot hkind ?_
        unfold spot?
        rw [hkind, hplace]
        exact if_neg hsuppressed

/-- Whatever is found in a line is one of these. -/
theorem says_of_finding {f : Finding} (h : finding mode line = .ok f) : Says mode line f := by
  unfold finding at h
  cases hkind : classify line with
  | compilingHeader =>
      obtain ⟨name, hname⟩ := exists_header hkind
      rw [hkind, hname] at h
      cases h
      exact says_named (Or.inl ⟨hkind, hname⟩)
  | includeNotice =>
      obtain ⟨name, hname⟩ := exists_include hkind
      rw [hkind, hname] at h
      cases h
      exact says_named (Or.inr ⟨hkind, hname⟩)
  | infoNotice =>
      rw [hkind] at h
      cases h
      exact says_noticed hkind
  | resultSummary =>
      rw [hkind] at h
      obtain ⟨errors, warnings, -, rfl⟩ := exists_counts_of_concluded h
      exact .result hkind
  | pathDiagnostic =>
      rw [hkind] at h
      exact says_located hkind h
  | plain =>
      rw [hkind] at h
      cases h
      exact .plain hkind

/-! ### Problems that are reported -/

theorem spot?_eq_none (h : classify line ≠ .pathDiagnostic) : spot? line = none := by
  unfold spot?
  split
  · next hkind _ => exact absurd hkind h
  · rfl

theorem spot?_of_place {path : Option Text} {place : Placed}
    (hkind : classify line = .pathDiagnostic) (hplace : pathAndPlace? line = some (path, place)) :
    spot? line = if place.isSuppressed then none else path.map fun p => ⟨trim p, place⟩ := by
  unfold spot?
  rw [hkind, hplace]
  cases path with
  | none => split_ifs <;> rfl
  | some path => rfl

theorem spot?_eq_some_iff {t : Spot} : spot? line = some t ↔
    classify line = .pathDiagnostic ∧ t.place.isSuppressed = false ∧
      ∃ path, pathAndPlace? line = some (some path, t.place) ∧ t.path = trim path := by
  constructor
  · intro h
    have hkind : classify line = .pathDiagnostic := by
      by_contra hkind
      rw [spot?_eq_none hkind] at h
      cases h
    obtain ⟨path, place, hplace⟩ := exists_place hkind
    rw [spot?_of_place hkind hplace] at h
    split_ifs at h with hsuppressed
    obtain ⟨path, rfl, rfl⟩ := Option.map_eq_some_iff.mp h
    exact ⟨hkind, by simpa using hsuppressed, path, hplace, rfl⟩
  · rintro ⟨hkind, hreported, path, hplace, hpath⟩
    rw [spot?_of_place hkind hplace, if_neg (by simp [hreported]), Option.map_some, ← hpath]

/-- A line leaves a diagnostic just when it has a problem to report. -/
theorem Says.diagnostic_eq {f : Finding} (h : Says mode line f) :
    f.diagnostic = (spot? line).map (·.diagnostic) := by
  -- Lines of the other kinds have no problem, whatever place may be written in them.
  have hother : classify line ≠ .pathDiagnostic → none = (spot? line).map (·.diagnostic) := by
    intro hkind
    rw [spot?_eq_none hkind]
    rfl
  cases h with
  | named hkind _ => exact hother (by rcases hkind with ⟨hkind, -⟩ | ⟨hkind, -⟩ <;> simp [hkind])
  | unplaced hkind _ => exact hother (by rcases hkind with hkind | hkind <;> simp [hkind])
  | silent hkind _ => exact hother (by simp [hkind])
  | wordless hkind _ => exact hother (by simp [hkind])
  | notice hkind _ => exact hother (by simp [hkind])
  | result hkind => exact hother (by simp [hkind])
  | spot hkind hspot =>
      rw [hspot]
      rfl
  | suppressed hkind hplace hsuppressed =>
      rw [spot?_of_place hkind hplace, if_pos hsuppressed]
      rfl
  | pathless hkind hplace hreported =>
      rw [spot?_of_place hkind hplace, if_neg (by simp [hreported])]
      rfl
  | plain hkind => exact hother (by simp [hkind])

/-- A line with a problem to report says nothing else. -/
theorem Says.eq_of_spot? {f : Finding} {t : Spot} (h : Says mode line f)
    (ht : spot? line = some t) : f = t.finding := by
  have hplace := (spot?_eq_some_iff.mp ht).1
  cases h with
  | spot _ hspot =>
      rw [ht] at hspot
      cases hspot
      rfl
  | suppressed hkind hplace hsuppressed =>
      rw [spot?_of_place hkind hplace, if_pos hsuppressed] at ht
      cases ht
  | pathless hkind hplace hreported =>
      rw [spot?_of_place hkind hplace, if_neg (by simp [hreported])] at ht
      cases ht
  | named hkind => rcases hkind with ⟨hkind, -⟩ | ⟨hkind, -⟩ <;> simp [hplace] at hkind
  | unplaced hkind => rcases hkind with hkind | hkind <;> simp [hplace] at hkind
  | silent hkind | wordless hkind | notice hkind | result hkind | plain hkind =>
      simp [hplace] at hkind

/-! ### Lines that show nothing -/

/-- The line starts with a path on a drive, behind which a colon stands between blanks. -/
def StartsWithPath (line : Text) : Prop :=
  ∃ (drive : Char) (path rest : Text), drive.isAlpha = true ∧ path ≠ [] ∧
    line = drive :: ':' :: '\\' :: (path ++ " : " ++ rest)

/-- A notice stands in the line: its mark in any case, and at least a character behind it. -/
def HasNotice (line : Text) : Prop :=
  ∃ mark c rest, mark ++ c :: rest <:+ line ∧
    List.Forall₂ (fun p d => sameLetter p d = true) ": information: ".toList mark

/-- The line shows nothing. -/
inductive IsUnshown (line : Text) : Prop where
  /-- A file is named, and the line does not say where it is. -/
  | unplaced (hkind : classify line = .compilingHeader ∨ classify line = .includeNotice)
      (hpath : ¬ StartsWithPath line)
  | silent (hkind : classify line = .infoNotice)
      (hsilent : HoldsCased "information: generating code" line ∨
        HoldsCased "information: code generated" line)
  | wordless (hkind : classify line = .infoNotice) (hwords : ¬ HasNotice line)
  | suppressed {path : Option Text} {place : Placed} (hkind : classify line = .pathDiagnostic)
      (hplace : pathAndPlace? line = some (path, place)) (hsuppressed : place.isSuppressed = true)

theorem isSome_splitAtFirst_iff {α : Type} {f : Text → Option α} {t : Text} (hfeed : '\n' ∉ t) :
    (splitAtFirst f t).isSome = true ↔ ∃ u s, u ≠ [] ∧ t = u ++ s ∧ (f s).isSome = true := by
  -- The split is tried behind every character, so a longer first part is one of the rest.
  induction t with
  | nil =>
      refine iff_of_false (by simp [splitAtFirst]) ?_
      rintro ⟨u, s, hne, ht, -⟩
      exact hne (List.append_eq_nil_iff.mp ht.symm).1
  | cons c t ih =>
      obtain ⟨hc, hfeed⟩ := not_or.mp (List.mem_cons.not.mp hfeed)
      rw [splitAtFirst, if_neg (Ne.symm hc)]
      cases hhere : f t with
      | some a => exact iff_of_true rfl ⟨[c], t, by simp, rfl, by rw [hhere]; rfl⟩
      | none =>
          rw [Option.isSome_map, ih hfeed]
          constructor
          · rintro ⟨u, s, hne, rfl, hs⟩
            exact ⟨c :: u, s, by simp, rfl, hs⟩
          · rintro ⟨u, s, hne, ht, hs⟩
            obtain ⟨d, u, rfl⟩ := List.exists_cons_of_ne_nil hne
            obtain ⟨rfl, rfl⟩ := List.cons.inj ht
            refine ⟨u, s, ?_, rfl, hs⟩
            rintro rfl
            have hnone : f s = none := hhere
            simp [hnone] at hs

theorem isSome_after?_iff {piece t : Text} : (after? piece t).isSome = true ↔ piece <+: t := by
  unfold after?
  split_ifs with h
  · exact iff_of_true rfl ( List.isPrefixOf_iff_prefix.mp h)
  · exact iff_of_false Bool.false_ne_true (mt List.isPrefixOf_iff_prefix.mpr h)

theorem isSome_leadingPath?_iff (hfeed : '\n' ∉ line) :
    (leadingPath? line).isSome = true ↔ StartsWithPath line := by
  unfold leadingPath? drivePathBefore
  split
  · next drive t =>
      have ht : '\n' ∉ t := fun hmem => hfeed (by simp [hmem])
      split_ifs with hdrive
      · rw [Option.isSome_map, Option.isSome_map, isSome_splitAtFirst_iff ht]
        constructor
        · rintro ⟨path, s, hne, rfl, hs⟩
          obtain ⟨rest, rfl⟩ := isSome_after?_iff.mp hs
          exact ⟨drive, path, rest, hdrive, hne, by rw [List.append_assoc]⟩
        · rintro ⟨drive', path, rest, -, hne, hline⟩
          simp only [List.cons.injEq, true_and] at hline
          have hmark : (after? " : " (" : ".toList ++ rest)).isSome = true :=
            isSome_after?_iff.mpr (List.prefix_append _ _)
          refine ⟨path, " : ".toList ++ rest, hne, ?_, hmark⟩
          rw [hline.2, List.append_assoc]
      · refine iff_of_false (by simp) ?_
        rintro ⟨drive', path, rest, hdrive', -, hline⟩
        simp only [List.cons.injEq] at hline
        exact hdrive (hline.1 ▸ hdrive')
  · next hshape =>
      refine iff_of_false (by simp) ?_
      rintro ⟨drive, path, rest, -, -, rfl⟩
      exact hshape drive _ rfl

theorem isSilent_iff : isSilent line = true ↔
    HoldsCased "information: generating code" line ∨
      HoldsCased "information: code generated" line := by
  have hgenerating : IsPhrase "information: generating code" :=
    ⟨forall_mem_of_all (by decide), by decide, by decide⟩
  have hgenerated : IsPhrase "information: code generated" :=
    ⟨forall_mem_of_all (by decide), by decide, by decide⟩
  unfold isSilent
  simp only [Bool.or_eq_true, holds_iff, infix_lower_iff hgenerating, infix_lower_iff hgenerated]

theorem notice?_eq_none_iff : notice? line = none ↔ ¬ HasNotice line := by
  have hmark : marker ++ " ".toList = ": information: ".toList := rfl
  unfold notice?
  constructor
  · rintro hnone ⟨mark, c, rest, hsuffix, hsame⟩
    have hhere := eq_none_of_search_eq_none hnone hsuffix
    rw [hmark, afterAnyCase?_eq_some_iff.mpr ⟨mark, rfl, hsame⟩] at hhere
    cases hhere
  · intro hnone
    refine search_eq_none fun t ht => ?_
    cases hafter : afterAnyCase? (marker ++ " ") t with
    | none => rfl
    | some rest =>
        rw [hmark] at hafter
        obtain ⟨mark, rfl, hsame⟩ := afterAnyCase?_eq_some_iff.mp hafter
        cases rest with
        | nil => rfl
        | cons c rest => exact absurd ⟨mark, c, rest, ht, hsame⟩ hnone

/-- Of the lines that say something, those are left out that show nothing. -/
theorem Says.isUnshown {f : Finding} (h : Says mode line f) (hfeed : '\n' ∉ line)
    (hshown : f.shown = none) : IsUnshown line := by
  cases h with
  | unplaced hkind hpath =>
      refine .unplaced hkind fun hstarts => ?_
      rw [← isSome_leadingPath?_iff hfeed, hpath] at hstarts
      cases hstarts
  | silent hkind hsilent => exact .silent hkind (isSilent_iff.mp hsilent)
  | wordless hkind hwords => exact .wordless hkind (notice?_eq_none_iff.mp hwords)
  | suppressed hkind hplace hsuppressed => exact .suppressed hkind hplace hsuppressed
  | named | notice | result | spot | pathless | plain => cases hshown

/-- Nothing is found in a line that shows nothing. -/
theorem IsUnshown.finding_eq (h : IsUnshown line) (hfeed : '\n' ∉ line) (mode : Mode) :
    finding mode line = .ok {} := by
  have hnamed : ¬ StartsWithPath line → ∀ name, named name line = {} := by
    intro hpath name
    rw [← isSome_leadingPath?_iff hfeed, Bool.not_eq_true, Option.isSome_eq_false_iff,
      Option.isNone_iff_eq_none] at hpath
    unfold named
    rw [hpath]
  unfold finding
  cases h with
  | unplaced hkind hpath =>
      rcases hkind with hkind | hkind
      · obtain ⟨name, hname⟩ := exists_header hkind
        rw [hkind, hname, Option.map_some, hnamed hpath]
        rfl
      · obtain ⟨name, hname⟩ := exists_include hkind
        rw [hkind, hname, Option.map_some, hnamed hpath]
        rfl
  | silent hkind hsilent =>
      rw [hkind]
      dsimp only
      unfold noticed
      rw [if_pos (isSilent_iff.mpr hsilent)]
  | wordless hkind hwords =>
      rw [hkind]
      dsimp only
      unfold noticed
      rw [notice?_eq_none_iff.mpr hwords, ite_self]
  | @suppressed path place hkind hplace hsuppressed =>
      rw [hkind]
      dsimp only
      unfold located
      rw [hplace]
      exact if_pos hsuppressed

/-! ### Entries are on one line -/

/-- No line break is in the text. -/
def NoBreak (t : Text) : Prop := ∀ c ∈ t, isLineBreak c = false

theorem NoBreak.append {s t : Text} (hs : NoBreak s) (ht : NoBreak t) : NoBreak (s ++ t) := by
  intro c hc
  exact (List.mem_append.mp hc).elim (hs c) (ht c)

theorem NoBreak.of_subset {s t : Text} (ht : NoBreak t) (hs : s ⊆ t) : NoBreak s :=
  fun c hc => ht c (hs hc)

theorem noBreak_of_all {t : Text} (h : (t.all fun c => decide (isLineBreak c = false)) = true) :
    NoBreak t := forall_mem_of_all h

theorem untilFeed_subset (t : Text) : untilFeed t ⊆ t := ( List.takeWhile_prefix _).subset

theorem quotedName?_subset {t name : Text} (h : quotedName? t = some name) : name ⊆ t := by
  unfold quotedName? at h
  split at h
  · next rest =>
      dsimp only at h
      split_ifs at h
      obtain rfl := Option.some.inj h
      refine List.cons_subset_cons _ fun c hc => untilFeed_subset rest ?_
      exact List.mem_reverse.mp ((List.dropWhile_suffix _).subset (List.mem_reverse.mp hc))
  · cases h

theorem namedBy?_subset {words : List Text} {name : Text} (h : namedBy? words line = some name) :
    name ⊆ line := by
  obtain ⟨u, t, rfl, ht, -⟩ := search_eq_some_iff.mp h
  obtain ⟨rest, hrest, ht⟩ := Option.bind_eq_some_iff.mp ht
  obtain ⟨word, -, hword⟩ := List.exists_of_findSome?_eq_some hrest
  split_ifs at ht
  have hname : name ⊆ rest :=
    List.Subset.trans (quotedName?_subset ht) (List.dropWhile_suffix isBlank).subset
  have hrest : rest ⊆ t := (suffix_of_afterAnyCase? hword).subset
  exact List.Subset.trans (List.Subset.trans hname hrest) (List.subset_append_right u t)

theorem notice?_subset {message : Text} (h : notice? line = some message) : message ⊆ line := by
  obtain ⟨u, t, rfl, ht, -⟩ := search_eq_some_iff.mp h
  obtain ⟨rest, hrest, ht⟩ := Option.bind_eq_some_iff.mp ht
  split_ifs at ht
  obtain rfl := Option.some.inj ht
  have hmessage : trim rest ⊆ t :=
    List.Subset.trans (trim_subset rest) (suffix_of_afterAnyCase? hrest).subset
  exact List.Subset.trans hmessage (List.subset_append_right u t)

theorem summary?_subset {summary : Text} (h : summary? line = some summary) : summary ⊆ line := by
  obtain ⟨u, t, rfl, ht, -⟩ := search_eq_some_iff.mp h
  obtain ⟨-, -, rfl⟩ := Option.map_eq_some_iff.mp ht
  exact List.subset_append_right u t

theorem saidAs?_subset {severity : Severity} {body : Text} {what : Said}
    (h : saidAs? severity body = some what) : what.message ⊆ body := by
  obtain ⟨rest, hrest, h⟩ := Option.bind_eq_some_iff.mp h
  unfold saidAfter? at h
  dsimp only at h
  split at h
  · next after hafter =>
      obtain rfl := Option.some.inj h
      have hcolon : after ⊆ rest := by
        have hdigits : after ⊆ trimStart ((trimStart rest).dropWhile isDigit) := by
          rw [hafter]
          exact List.subset_cons_self ':' after
        have hstart : trimStart ((trimStart rest).dropWhile isDigit) <:+ rest :=
          ((List.dropWhile_suffix _).trans (List.dropWhile_suffix _)).trans
            (List.dropWhile_suffix _)
        exact List.Subset.trans hdigits hstart.subset
      have hmessage : trim (untilFeed after) ⊆ after :=
        List.Subset.trans (trim_subset _) (untilFeed_subset after)
      exact List.Subset.trans (List.Subset.trans hmessage hcolon)
        (suffix_of_afterAnyCase? hrest).subset
  · cases h

theorem said_subset (body : Text) : (said body).message ⊆ body := by
  unfold said
  split
  · next found hfound =>
      rcases Option.or_eq_some_iff.mp hfound with herror | ⟨-, hwarning⟩
      · exact saidAs?_subset herror
      · exact saidAs?_subset hwarning
  · exact List.Subset.refl body

theorem bodyOf?_subset {t body : Text} (h : bodyOf? t = some body) : body ⊆ t := by
  have hkept : (if t.getLast? = some '\n' then t.dropLast else t) ⊆ t := by
    split_ifs
    · exact List.dropLast_subset t
    · exact List.Subset.refl t
  unfold bodyOf? at h
  generalize (if t.getLast? = some '\n' then t.dropLast else t) = kept at h hkept
  dsimp only at h
  split at h
  · obtain ⟨c, hc, h⟩ := Option.bind_eq_some_iff.mp h
    split_ifs at h
    obtain rfl := Option.some.inj h
    exact List.cons_subset.mpr ⟨hkept (List.mem_of_getLast? hc), List.nil_subset t⟩
  · split_ifs at h
    obtain rfl := Option.some.inj h
    exact List.Subset.trans (List.dropWhile_suffix _).subset hkept

theorem drivePathBefore_eq_some {α : Type} {f : Text → Option α} {path : Text} {a : α}
    (h : drivePathBefore f line = some (path, a)) :
    ∃ (drive : Char) (u rest : Text), drive.isAlpha = true ∧ path = drive :: ':' :: '\\' :: u ∧
      line = path ++ rest ∧ f rest = some a := by
  unfold drivePathBefore at h
  split at h
  · next drive t =>
      split_ifs at h with hdrive
      obtain ⟨⟨u, b⟩, hu, heq⟩ := Option.map_eq_some_iff.mp h
      obtain ⟨rfl, rfl⟩ := Prod.mk.inj heq
      obtain ⟨rest, rfl, hrest⟩ := splitAtFirst_append hu
      exact ⟨drive, u, rest, hdrive, rfl, rfl, hrest⟩
  · cases h

/-- A place is found at the end of a line, behind the path if it has one. -/
theorem exists_placed {path : Option Text} {place : Placed}
    (h : pathAndPlace? line = some (path, place)) :
    ∃ u rest, line = u ++ rest ∧ placed? rest = some place := by
  unfold pathAndPlace? at h
  split at h
  · next found hfound =>
      obtain ⟨rfl, rfl⟩ := Prod.mk.inj (Option.some.inj h)
      obtain ⟨-, -, rest, -, -, hline, hrest⟩ := drivePathBefore_eq_some hfound
      exact ⟨_, rest, hline, hrest⟩
  · obtain ⟨found, hfound, heq⟩ := Option.map_eq_some_iff.mp h
    obtain ⟨-, rfl⟩ := Prod.mk.inj heq
    exact ⟨[], line, rfl, hfound⟩

/-- What a place and what is said about it show is in the line. -/
theorem noBreak_shown {path : Option Text} {place : Placed}
    (h : pathAndPlace? line = some (path, place)) (hline : NoBreak line) :
    NoBreak (place.said.message ++ " " ++ place.text) := by
  obtain ⟨u, rest, rfl, hrest⟩ := exists_placed h
  obtain ⟨blanks, after, rfl, -, -, -, hbody⟩ := placed?_eq_some hrest
  have hafter : after ⊆ u ++ '(' :: (place.line ++ ',' :: (place.column ++
      ')' :: (blanks ++ ':' :: after))) := by
    intro c hc
    simp [hc]
  have hmessage : place.said.message ⊆ after :=
    List.Subset.trans (said_subset _) (List.Subset.trans (trim_subset _) (bodyOf?_subset hbody))
  have hplaceLine : NoBreak place.line := fun c hc => hline c (by simp [hc])
  have hplaceColumn : NoBreak place.column := fun c hc => hline c (by simp [hc])
  have hsaid : NoBreak place.said.message := hline.of_subset (List.Subset.trans hmessage hafter)
  have hopening : NoBreak "(" := noBreak_of_all (by decide)
  have hcomma : NoBreak "," := noBreak_of_all (by decide)
  have hclosing : NoBreak ")" := noBreak_of_all (by decide)
  refine (hsaid.append (noBreak_of_all (by decide))).append ?_
  unfold Placed.text
  exact (((hopening.append hplaceLine).append hcomma).append hplaceColumn).append hclosing

/-- What is shown of a line has no line break. -/
theorem Says.noBreak {f : Finding} (h : Says mode line f) (hline : NoBreak line) :
    ∀ entry ∈ f.shown, NoBreak entry := by
  cases h with
  | named hkind _ =>
      rintro entry ⟨⟩
      rcases hkind with ⟨-, hname⟩ | ⟨-, hname⟩
      · exact hline.of_subset (namedBy?_subset hname)
      · exact hline.of_subset (namedBy?_subset hname)
  | notice _ hwords =>
      rintro entry ⟨⟩
      exact hline.of_subset (notice?_subset hwords)
  | @result errors warnings _ =>
      rintro entry ⟨⟩
      have htag : NoBreak (tag errors warnings) := by
        unfold tag
        split_ifs <;> exact noBreak_of_all (by decide)
      have htold : NoBreak (told mode line) := by
        cases mode with
        | check => exact hline
        | compile =>
            have hword : NoBreak "Result: " := noBreak_of_all (by decide)
            refine hword.append ?_
            cases hsummary : summary? line with
            | none => exact hline
            | some summary => exact hline.of_subset (summary?_subset hsummary)
      have hopening : NoBreak "[" := noBreak_of_all (by decide)
      have hclosing : NoBreak "] " := noBreak_of_all (by decide)
      exact ((hopening.append htag).append hclosing).append htold
  | @spot t _ hspot =>
      rintro entry ⟨⟩
      obtain ⟨-, -, path, hplace, -⟩ := spot?_eq_some_iff.mp hspot
      exact noBreak_shown hplace hline
  | pathless _ hplace _ =>
      rintro entry ⟨⟩
      exact noBreak_shown hplace hline
  | plain =>
      rintro entry ⟨⟩
      exact hline
  | unplaced | silent | wordless | suppressed => exact fun entry hentry => nomatch hentry

/-! ### The whole log -/

theorem noBreak_of_mem_lines (h : line ∈ lines log) : NoBreak line := by
  unfold lines at h
  obtain ⟨hline, -⟩ := List.mem_filter.mp h
  obtain ⟨whole, hwhole, rfl⟩ := List.mem_map.mp hline
  exact NoBreak.of_subset (Text.noBreak_of_mem_lines hwhole) (trim_subset whole)

theorem shownOf?_of_finding {f : Finding} (h : finding mode line = .ok f) :
    shownOf? mode line = f.shown := by
  unfold shownOf?
  rw [h]
  rfl

theorem filterMap_of_forall₂ {α β γ : Type} {R : α → β → Prop} {f : β → Option γ} {g : α → Option γ}
    {as : List α} {bs : List β} (h : List.Forall₂ R as bs) (hfg : ∀ a b, R a b → f b = g a) :
    bs.filterMap f = as.filterMap g := by
  induction h with
  | nil => rfl
  | cons hab _ ih => rw [List.filterMap_cons, List.filterMap_cons, hfg _ _ hab, ih]

theorem exists_of_forall₂_of_mem {α β : Type} {R : α → β → Prop} {as : List α} {bs : List β} {a : α}
    (h : List.Forall₂ R as bs) (ha : a ∈ as) : ∃ b, R a b := by
  induction h with
  | nil => cases ha
  | cons hab _ ih =>
      rcases List.mem_cons.mp ha with rfl | ha
      · exact ⟨_, hab⟩
      · exact ih ha

theorem diagnostics_eq {r : Report} (h : read mode log = .ok r) :
    r.diagnostics = (lines log).filterMap fun line => (spot? line).map (·.diagnostic) := by
  obtain ⟨fs, hfindings, rfl⟩ := exists_findings_of_read h
  exact filterMap_of_forall₂ hfindings fun line f hf => (says_of_finding hf).diagnostic_eq

theorem shown_eq {r : Report} (h : read mode log = .ok r) :
    r.shown = (lines log).filterMap (shownOf? mode) := by
  obtain ⟨fs, hfindings, rfl⟩ := exists_findings_of_read h
  exact filterMap_of_forall₂ hfindings fun line f hf => (shownOf?_of_finding hf).symm

/-- An entry has no line break. -/
theorem noBreak_of_shownOf? {entry : Text} (hline : line ∈ lines log)
    (h : shownOf? mode line = some entry) : NoBreak entry := by
  obtain ⟨f, hf, hshown⟩ := Option.bind_eq_some_iff.mp h
  cases hfinding : finding mode line with
  | error e =>
      rw [hfinding] at hf
      cases hf
  | ok f' =>
      rw [hfinding] at hf
      obtain rfl := Option.some.inj hf
      exact (says_of_finding hfinding).noBreak (noBreak_of_mem_lines hline) entry hshown

/-- **No line is lost or shown twice.**  The text that is shown has one entry after the other, in
the order of the lines, each on a line of its own.  A line has no entry just when it is one that is
meant to show nothing.  The diagnostics are, in the same order, the problems in files that are not
suppressed. -/
theorem read_shows_each_line {r : Report} (h : read mode log = .ok r) :
    r.text = ((lines log).filterMap (shownOf? mode)).flatMap (· ++ ['\n']) ∧
    (∀ line ∈ lines log, (∀ entry ∈ shownOf? mode line, ∀ c ∈ entry, isLineBreak c = false) ∧
      (shownOf? mode line = none ↔ IsUnshown line)) ∧
    r.diagnostics = ((lines log).filterMap fun line => (spot? line).map (·.diagnostic)) ∧
    ∀ line t, spot? line = some t ↔ classify line = .pathDiagnostic ∧
      t.place.isSuppressed = false ∧
      ∃ path, pathAndPlace? line = some (some path, t.place) ∧ t.path = trim path := by
  refine ⟨?_, fun line hline => ?_, diagnostics_eq h, fun line t => spot?_eq_some_iff⟩ <;>
    obtain ⟨fs, hfindings, rfl⟩ := exists_findings_of_read h
  · have hshown := filterMap_of_forall₂ hfindings fun line f hf => (shownOf?_of_finding hf).symm
    unfold Report.text Report.ofFindings
    rw [hshown]
  · obtain ⟨f, hf⟩ := exists_of_forall₂_of_mem hfindings hline
    have hfound := says_of_finding hf
    have hbreak := noBreak_of_mem_lines hline
    have hfeed : '\n' ∉ line := fun hmem => absurd (hbreak _ hmem) (by decide)
    rw [shownOf?_of_finding hf]
    refine ⟨hfound.noBreak hbreak, hfound.isUnshown hfeed, fun hunshown => ?_⟩
    rw [hunshown.finding_eq hfeed] at hf
    cases hf
    rfl

/-- An include notice without a path, and a problem that is reported. -/
theorem read_shows_each_line_of_includeNotice :
    ∃ r, read .check ": information: including 'b'\r\nC:\\a(3,4) : error 5: odd" = .ok r ∧
      r.text = "odd (3,4)\n" ∧ r.diagnostics = [⟨"C:\\a", 2, 3, .error, "odd", some "5"⟩] ∧
      IsUnshown ": information: including 'b'" := by
  have hlines : lines ": information: including 'b'\r\nC:\\a(3,4) : error 5: odd" =
      [": information: including 'b'".toList, "C:\\a(3,4) : error 5: odd".toList] := by
    decide +kernel
  have hnotice : shownOf? .check ": information: including 'b'" = none := by decide +kernel
  have hok : (read .check ": information: including 'b'\r\nC:\\a(3,4) : error 5: odd").toOption.map
      (·.text) = some "odd (3,4)\n".toList := by
    decide +kernel
  cases hr : read .check ": information: including 'b'\r\nC:\\a(3,4) : error 5: odd" with
  | error e =>
      rw [hr] at hok
      cases hok
  | ok r =>
      rw [hr] at hok
      obtain ⟨-, hentries, hdiagnostics, -⟩ := read_shows_each_line hr
      rw [hlines] at hentries hdiagnostics
      refine ⟨r, rfl, Option.some.inj hok, ?_, (hentries _ List.mem_cons_self).2.mp hnotice⟩
      rw [hdiagnostics]
      decide +kernel

end MetaDesk.CompilerLog
