import MetaDesk.Proofs.CompilerLog.Entries
import MetaDesk.Proofs.Keyed
import MetaDesk.Proofs.Path.Reading

/-! # Where the entries of a log lead

A line that starts with a path leads there: a name or a notice to the file, and a problem to its
place in the file.  What is shown of the line is the key of its link.  Different lines may show the
same, so a key stands where it came in first and leads where the last line with a link led
(`links_of_read`).  The address of a file has no number sign, whatever the path
(`fileUri?_of_drive`), so that the place of a problem can be told from its file. -/

namespace MetaDesk.CompilerLog

open Text

variable {mode : Mode} {line log : Text}

/-! ### Addresses -/

theorem not_mem_addressByte (b : UInt8) : '#' ∉ addressByte b := by
  have hall : ∀ n < 256, '#' ∉ addressByte (UInt8.ofNat n) := by decide +kernel
  have hb := hall b.toNat b.toNat_lt
  rwa [UInt8.ofNat_toNat] at hb

theorem not_mem_addressed (t : Text) : '#' ∉ addressed t := by
  unfold addressed
  rw [List.mem_flatMap]
  rintro ⟨b, -, hb⟩
  exact not_mem_addressByte b hb

theorem fileUri?_of_drive {drive : Char} (hdrive : drive.isAlpha = true) (u : Text) :
    ∃ uri, Path.fileUri? (drive :: ':' :: '\\' :: u) = some uri ∧ '#' ∉ uri := by
  have hpath : isDrivePath (drive :: ':' :: '\\' :: u) = true := by simp [isDrivePath, hdrive]
  have hletter : '#' ≠ drive := by
    rintro rfl
    exact absurd hdrive (by decide)
  have hstart : '#' ∉ "file:///".toList := by decide
  refine ⟨_, if_pos hpath, ?_⟩
  simp only [List.mem_append, not_or]
  refine ⟨⟨⟨hstart, ?_⟩, by decide⟩, not_mem_addressed _⟩
  simp [hletter]

theorem trim_drive {drive : Char} (hdrive : drive.isAlpha = true) (u : Text) :
    trim (drive :: ':' :: '\\' :: u) = drive :: ':' :: '\\' :: trimEnd u := by
  have hletter := isBlank_eq_false_of_visible (isVisible_of_isAlpha hdrive)
  unfold trim
  rw [trimStart_of_head (by rintro c ⟨⟩; exact hletter), trimEnd_cons hletter, trimEnd_cons rfl,
    trimEnd_cons rfl]

/-! ### Links of lines -/

/-- Where a line leads. -/
def linkOf? (line : Text) : Option Link :=
  match classify line with
  | .compilingHeader | .includeNotice | .infoNotice =>
    (leadingPath? line).map fun path => ⟨addressOf path, none⟩
  | _ => (spot? line).map (·.link)

/-- A line leads to a file, or to a place in a file, which a number sign parts from the file. -/
inductive Leads (line : Text) : Link → Prop where
  | file {path uri : Text}
      (hkind : classify line ∈ [LineKind.compilingHeader, .includeNotice, .infoNotice])
      (hpath : leadingPath? line = some path) (huri : Path.fileUri? path = some uri)
      (hsign : '#' ∉ uri) : Leads line ⟨uri, none⟩
  | place {t : Spot} {uri : Text} (hspot : spot? line = some t)
      (huri : Path.fileUri? t.path = some uri) (hsign : '#' ∉ uri)
      (hplaceSign : '#' ∉ t.place.line ++ "," ++ t.place.column) :
      Leads line ⟨uri ++ "#" ++ t.place.line ++ "," ++ t.place.column, t.place.said.code⟩

theorem Says.link_eq {f : Finding} (h : Says mode line f) :
    f.link = f.shown.bind fun entry => (linkOf? line).map fun link => (entry, link) := by
  unfold linkOf?
  cases h with
  | named hkind hpath => rcases hkind with ⟨hkind, -⟩ | ⟨hkind, -⟩ <;> rw [hkind, hpath] <;> rfl
  | notice hkind =>
      rw [hkind]
      cases leadingPath? line <;> rfl
  | result hkind =>
      rw [hkind, spot?_eq_none (by simp [hkind])]
      rfl
  | spot hkind hspot =>
      rw [hkind, hspot]
      rfl
  | pathless hkind hplace hreported =>
      rw [hkind, spot?_of_place hkind hplace, if_neg (by simp [hreported])]
      rfl
  | plain hkind =>
      rw [hkind, spot?_eq_none (by simp [hkind])]
      rfl
  | unplaced | silent | wordless | suppressed => rfl

theorem exists_uri_of_leadingPath? {path : Text} (h : leadingPath? line = some path) :
    ∃ uri, Path.fileUri? path = some uri ∧ '#' ∉ uri := by
  obtain ⟨⟨path, rest⟩, hfound, rfl⟩ := Option.map_eq_some_iff.mp h
  obtain ⟨drive, u, -, hdrive, rfl, -⟩ := drivePathBefore_eq_some hfound
  exact fileUri?_of_drive hdrive u

/-- The path before a place is on a drive, and stays on it without the blanks behind it. -/
theorem exists_uri_of_place {path : Text} {place : Placed}
    (h : pathAndPlace? line = some (some path, place)) :
    ∃ uri, Path.fileUri? (trim path) = some uri ∧ '#' ∉ uri := by
  unfold pathAndPlace? at h
  split at h
  · next found hfound =>
      obtain ⟨hfirst, -⟩ := Prod.mk.inj (Option.some.inj h)
      obtain ⟨drive, u, -, hdrive, hu, -⟩ := drivePathBefore_eq_some hfound
      rw [← Option.some.inj hfirst, hu, trim_drive hdrive]
      exact fileUri?_of_drive hdrive _
  · obtain ⟨found, -, hnone⟩ := Option.map_eq_some_iff.mp h
    cases hnone

theorem exists_uri_of_spot? {t : Spot} (h : spot? line = some t) :
    ∃ uri, Path.fileUri? t.path = some uri ∧ '#' ∉ uri := by
  obtain ⟨-, -, path, hplace, hpath⟩ := spot?_eq_some_iff.mp h
  rw [hpath]
  exact exists_uri_of_place hplace

theorem isDigit_of_spot? {t : Spot} (h : spot? line = some t) :
    (∀ c ∈ t.place.line, isDigit c = true) ∧ ∀ c ∈ t.place.column, isDigit c = true := by
  obtain ⟨-, -, path, hplace, -⟩ := spot?_eq_some_iff.mp h
  obtain ⟨u, rest, -, hrest⟩ := exists_placed hplace
  obtain ⟨-, -, -, ⟨-, hline⟩, ⟨-, hcolumn⟩, -⟩ := placed?_eq_some hrest
  exact ⟨hline, hcolumn⟩

theorem addressOf_eq {path uri : Text} (h : Path.fileUri? path = some uri) :
    addressOf path = uri := by
  unfold addressOf
  rw [h]
  rfl

theorem leads_file {path : Text}
    (hkind : classify line ∈ [LineKind.compilingHeader, .includeNotice, .infoNotice])
    (hpath : leadingPath? line = some path) : Leads line ⟨addressOf path, none⟩ := by
  obtain ⟨uri, huri, hsign⟩ := exists_uri_of_leadingPath? hpath
  rw [addressOf_eq huri]
  exact .file hkind hpath huri hsign

theorem leads_place {t : Spot} (h : spot? line = some t) : Leads line t.link := by
  obtain ⟨uri, huri, hsign⟩ := exists_uri_of_spot? h
  obtain ⟨hline, hcolumn⟩ := isDigit_of_spot? h
  have hplaceSign : '#' ∉ t.place.line ++ "," ++ t.place.column := by
    simp only [List.mem_append, not_or]
    refine ⟨⟨fun hmem => ?_, by decide⟩, fun hmem => ?_⟩
    · exact absurd (hline _ hmem) (by decide)
    · exact absurd (hcolumn _ hmem) (by decide)
  unfold Spot.link
  rw [addressOf_eq huri]
  exact .place h huri hsign hplaceSign

/-- Where a line leads follows from its kind, its path and its place. -/
theorem linkOf?_eq_some_iff {link : Link} : linkOf? line = some link ↔ Leads line link := by
  constructor
  · intro h
    unfold linkOf? at h
    cases hkind : classify line with
    | compilingHeader | includeNotice | infoNotice =>
        rw [hkind] at h
        obtain ⟨path, hpath, rfl⟩ := Option.map_eq_some_iff.mp h
        exact leads_file (by simp [hkind]) hpath
    | resultSummary | pathDiagnostic | plain =>
        rw [hkind] at h
        obtain ⟨t, ht, rfl⟩ := Option.map_eq_some_iff.mp h
        exact leads_place ht
  · intro h
    unfold linkOf?
    cases h with
    | @file path uri hkind hpath huri _ =>
        simp only [List.mem_cons, List.not_mem_nil, or_false] at hkind
        rcases hkind with hkind | hkind | hkind <;> rw [hkind, hpath] <;> simp [addressOf_eq huri]
    | @place t uri hspot huri _ _ =>
        rw [(spot?_eq_some_iff.mp hspot).1, hspot]
        simp [Spot.link, addressOf_eq huri]

/-! ### Links of a log -/

/-- The entry of a line that leads somewhere, and where it leads. -/
def linked? (mode : Mode) (line : Text) : Option (Text × Link) :=
  (shownOf? mode line).bind fun entry => (linkOf? line).map fun link => (entry, link)

theorem linked?_eq_some_iff {entry : Text} {link : Link} : linked? mode line = some (entry, link) ↔
    shownOf? mode line = some entry ∧ Leads line link := by
  unfold linked?
  rw [← linkOf?_eq_some_iff]
  constructor
  · intro h
    obtain ⟨entry', hentry, h⟩ := Option.bind_eq_some_iff.mp h
    obtain ⟨link', hlink, heq⟩ := Option.map_eq_some_iff.mp h
    obtain ⟨rfl, rfl⟩ := Prod.mk.inj heq
    exact ⟨hentry, hlink⟩
  · rintro ⟨hentry, hlink⟩
    rw [hentry, hlink]
    rfl

theorem links_eq {r : Report} (h : read mode log = .ok r) :
    r.links = Keyed.ofList ((lines log).filterMap (linked? mode)) := by
  obtain ⟨fs, hfindings, rfl⟩ := exists_findings_of_read h
  have hlinks := filterMap_of_forall₂ (f := Finding.link) hfindings fun line f hf => by
    rw [(says_of_finding hf).link_eq, ← shownOf?_of_finding hf]
  exact congrArg Keyed.ofList hlinks

theorem keys_links {r : Report} (h : read mode log = .ok r) :
    r.links.keys = (((lines log).filter fun line => (linkOf? line).isSome).filterMap
      (shownOf? mode)).eraseDups := by
  have hentry : ∀ line, (linked? mode line).map (·.1) =
      if (linkOf? line).isSome then shownOf? mode line else none := by
    intro line
    unfold linked?
    cases shownOf? mode line <;> cases linkOf? line <;> rfl
  rw [links_eq h, Keyed.keys_ofList, List.map_filterMap, List.filterMap_filter]
  exact congrArg List.eraseDups (List.filterMap_congr fun line _ => hentry line)

/-- An entry leads where the last line that shows it and leads somewhere does. -/
theorem get?_links {r : Report} (h : read mode log = .ok r) {entry : Text} {link : Link} :
    r.links.get? entry = some link ↔ ∃ before line after, lines log = before ++ line :: after ∧
      shownOf? mode line = some entry ∧ Leads line link ∧
      ∀ later ∈ after, shownOf? mode later = some entry → ∀ link', ¬ Leads later link' := by
  -- A later line takes the key over only if it leads somewhere itself.
  have hlater : ∀ later, (∀ e, linked? mode later = some e → e.1 ≠ entry) ↔
      (shownOf? mode later = some entry → ∀ link', ¬ Leads later link') := by
    intro later
    constructor
    · intro hnot hshown link' hleads
      exact hnot (entry, link') (linked?_eq_some_iff.mpr ⟨hshown, hleads⟩) rfl
    · rintro hnot ⟨entry', link'⟩ hlinked rfl
      obtain ⟨hshown, hleads⟩ := linked?_eq_some_iff.mp hlinked
      exact hnot hshown link' hleads
  rw [links_eq h, Keyed.get?_ofList_filterMap_eq_some_iff]
  simp only [linked?_eq_some_iff, hlater, and_assoc]

/-- The address of a problem is parted from its place by its only number sign. -/
theorem splitOn_link {t : Spot} {uri : Text} (h : spot? line = some t)
    (huri : Path.fileUri? t.path = some uri) :
    ∃ place, splitOn '#' t.link.address = [uri, place] ∧
      splitOn ',' place = [t.place.line, t.place.column] := by
  obtain ⟨uri', huri', hsign⟩ := exists_uri_of_spot? h
  obtain rfl : uri = uri' := Option.some.inj (huri.symm.trans huri')
  obtain ⟨hline, hcolumn⟩ := isDigit_of_spot? h
  have hcomma : ∀ digits : Text, (∀ c ∈ digits, isDigit c = true) → ',' ∉ digits :=
    fun digits hdigits hmem => absurd (hdigits _ hmem) (by decide)
  have hnumber : ∀ digits : Text, (∀ c ∈ digits, isDigit c = true) → '#' ∉ digits :=
    fun digits hdigits hmem => absurd (hdigits _ hmem) (by decide)
  refine ⟨t.place.line ++ ',' :: t.place.column, ?_, ?_⟩
  · have haddress : t.link.address = uri ++ '#' :: (t.place.line ++ ',' :: t.place.column) := by
      simp [Spot.link, addressOf_eq huri]
    rw [haddress, splitOn_append_cons hsign, splitOn_of_not_mem]
    simp [hnumber _ hline, hnumber _ hcolumn]
  · rw [splitOn_append_cons (hcomma _ hline), splitOn_of_not_mem (hcomma _ hcolumn)]

/-- **Where the entries of a log lead.**  The keys of the links are the entries of the lines that
lead somewhere, each where it comes in first, and each leads where the last of these lines does: to
a file, or to a place in a file behind the only number sign.  So the link of a problem that no later
line shows again leads to the file and the place of its diagnostic. -/
theorem links_of_read {r : Report} (h : read mode log = .ok r) :
    r.links.keys = (((lines log).filter fun line => (linkOf? line).isSome).filterMap
      (shownOf? mode)).eraseDups ∧
    (∀ line link, linkOf? line = some link ↔ Leads line link) ∧
    (∀ entry link, r.links.get? entry = some link ↔
      ∃ before line after, lines log = before ++ line :: after ∧
        shownOf? mode line = some entry ∧ Leads line link ∧
        ∀ later ∈ after, shownOf? mode later = some entry → ∀ link', ¬ Leads later link') ∧
    r.diagnostics = ((lines log).filterMap fun line => (spot? line).map (·.diagnostic)) ∧
    ∀ before line after t, lines log = before ++ line :: after → spot? line = some t →
      (∀ later ∈ after, shownOf? mode later ≠ shownOf? mode line) →
      ∃ entry link uri place, shownOf? mode line = some entry ∧ r.links.get? entry = some link ∧
        Path.fileUri? t.diagnostic.file = some uri ∧ splitOn '#' link.address = [uri, place] ∧
        splitOn ',' place = [t.place.line, t.place.column] ∧
        (numeralValue t.place.line : ℤ) = t.diagnostic.line + 1 ∧
        (numeralValue t.place.column : ℤ) = t.diagnostic.column + 1 ∧
        link.code = t.diagnostic.code := by
  refine ⟨keys_links h, fun _ _ => linkOf?_eq_some_iff, fun _ _ => get?_links h,
    diagnostics_eq h, ?_⟩
  intro before line after t hlines ht hunique
  obtain ⟨fs, hfindings, -⟩ := exists_findings_of_read h
  obtain ⟨f, hf⟩ := exists_of_forall₂_of_mem hfindings (a := line) (by simp [hlines])
  have hshown : shownOf? mode line = some t.shown := by
    rw [shownOf?_of_finding hf, (says_of_finding hf).eq_of_spot? ht]
    rfl
  obtain ⟨uri, huri, -⟩ := exists_uri_of_spot? ht
  obtain ⟨place, hsplit, hplace⟩ := splitOn_link ht huri
  have hlink : r.links.get? t.shown = some t.link :=
    (get?_links h).mpr ⟨before, line, after, hlines, hshown, leads_place ht,
      fun later hlater hagain => absurd (hagain.trans hshown.symm) (hunique later hlater)⟩
  exact ⟨t.shown, t.link, uri, place, hshown, hlink, huri, hsplit, hplace,
    (Int.sub_add_cancel _ _).symm, (Int.sub_add_cancel _ _).symm, rfl⟩

/-- Two problems that are shown alike lead where the second one does. -/
theorem links_of_read_of_equalEntries :
    ∃ r, read .check "C:\\a(3,4) : error 5: odd\nC:\\b(3,4) : error 6: odd" = .ok r ∧
      r.links.keys = [("odd (3,4)" : Text)] ∧
      r.links.get? "odd (3,4)" = some ⟨"file:///C:/b#3,4", some "6"⟩ := by
  have hlines : lines "C:\\a(3,4) : error 5: odd\nC:\\b(3,4) : error 6: odd" =
      ["C:\\a(3,4) : error 5: odd".toList, "C:\\b(3,4) : error 6: odd".toList] := by
    decide +kernel
  have hshown : shownOf? .check "C:\\b(3,4) : error 6: odd" = some "odd (3,4)".toList := by
    decide +kernel
  have hlink : linkOf? "C:\\b(3,4) : error 6: odd" = some ⟨"file:///C:/b#3,4", some "6"⟩ := by
    decide +kernel
  have hok : (read .check "C:\\a(3,4) : error 5: odd\nC:\\b(3,4) : error 6: odd").toOption.isSome =
      true := by
    decide +kernel
  cases hr : read .check "C:\\a(3,4) : error 5: odd\nC:\\b(3,4) : error 6: odd" with
  | error e =>
      rw [hr] at hok
      cases hok
  | ok r =>
      obtain ⟨hkeys, hleads, hget, -, -⟩ := links_of_read hr
      rw [hlines] at hkeys
      refine ⟨r, rfl, hkeys.trans (by decide +kernel), (hget _ _).mpr ?_⟩
      refine ⟨[_], _, [], hlines, hshown, (hleads _ _).mp hlink, ?_⟩
      exact fun later hlater => absurd hlater List.not_mem_nil

end MetaDesk.CompilerLog
