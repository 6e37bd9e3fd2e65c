import MetaDesk.Proofs.Text.Replacing
import MetaDesk.Settings.Place

/-! # What a setting names

A path in a setting names a path on a drive, or one from the root in its normal form, and reading
that as a setting again gives the same (`placeOf_settles`).  Each step leaves the earlier ones with
nothing to do: once the workspace is written in, no place for it is left; a path that starts at a
home folder or at the root does not start with a tilde; and double dots are taken away last.  Two
things can come between: an account whose name has a null in it cannot be looked for, and a home
folder may itself be spelled with the place for the workspace. -/

namespace MetaDesk

open Text

variable {homes : Homes} {workspace raw t u piece : Text} {p : Path}

/-! ### Normal forms -/

/-- A name that means itself: it is not empty, does not stay and does not go up. -/
structure IsOrdinary (name : Text) : Prop where
  ne_nil : name ≠ []
  ne_dot : name ≠ ['.']
  ne_up : name ≠ ['.', '.']
  noSlash : '/' ∉ name

/-- Ordinary names with a slash between them, behind one slash or two. -/
def IsNormal (t : Text) : Prop :=
  ∃ root ∈ [['/'], ['/', '/']], ∃ names, (∀ name ∈ names, IsOrdinary name) ∧
    t = root ++ joinWith ['/'] names

theorem Path.text_of_isAbsolute (habsolute : p.isAbsolute = true) :
    p.text = rootText p.root ++ joinWith ['/'] p.names := by
  obtain ⟨root, names⟩ := p
  cases root with
  | none => cases habsolute
  | single | double => rfl

/-- The normal forms are the texts of the paths from the root without double dots. -/
theorem isNormal_iff : IsNormal t ↔
    ∃ p : Path, p.IsRead ∧ p.isAbsolute = true ∧ Path.up ∉ p.names ∧ t = p.text := by
  constructor
  · rintro ⟨root, hroot, names, hnames, rfl⟩
    have hread : ∀ r, (Path.mk r names).IsRead := by
      intro r name hname
      obtain ⟨hne, hdot, -, hslash⟩ := hnames name hname
      exact ⟨by simp [Path.isKept, hne, hdot], hslash⟩
    have hup : Path.up ∉ names := fun hmem => (hnames _ hmem).ne_up rfl
    simp only [List.mem_cons, List.not_mem_nil, or_false] at hroot
    rcases hroot with rfl | rfl
    · exact ⟨⟨.single, names⟩, hread _, rfl, hup, rfl⟩
    · exact ⟨⟨.double, names⟩, hread _, rfl, hup, rfl⟩
  · rintro ⟨p, hread, habsolute, hup, rfl⟩
    have hordinary : ∀ name ∈ p.names, IsOrdinary name := by
      intro name hname
      obtain ⟨hkept, hslash⟩ := hread name hname
      simp only [Path.isKept, Bool.and_eq_true, Bool.not_eq_true', List.isEmpty_eq_false_iff,
        bne_iff_ne] at hkept
      refine ⟨hkept.1, hkept.2, ?_, hslash⟩
      rintro rfl
      exact hup hname
    refine ⟨Path.rootText p.root, ?_, p.names, hordinary, Path.text_of_isAbsolute habsolute⟩
    obtain ⟨root, names⟩ := p
    cases root with
    | none => cases habsolute
    | single | double => simp [Path.rootText]

theorem isNormal_collapse (hread : p.IsRead) (habsolute : p.isAbsolute = true) :
    IsNormal p.collapse.text :=
  isNormal_iff.mpr ⟨p.collapse, hread.collapse, habsolute, Path.not_mem_collapse habsolute, rfl⟩

theorem IsNormal.head?_eq (h : IsNormal t) : t.head? = some '/' := by
  obtain ⟨root, hroot, names, -, rfl⟩ := h
  simp only [List.mem_cons, List.not_mem_nil, or_false] at hroot
  rcases hroot with rfl | rfl <;> rfl

theorem exists_getLast?_joinWith (sep : Text) {names : List Text} (hne : names ≠ [])
    (hnames : ∀ name ∈ names, name ≠ []) :
    ∃ name ∈ names, (joinWith sep names).getLast? = name.getLast? := by
  induction names with
  | nil => exact absurd rfl hne
  | cons name names ih =>
      cases names with
      | nil => exact ⟨name, List.mem_cons_self, rfl⟩
      | cons next names =>
          obtain ⟨last, hlast, heq⟩ := ih (by simp) fun n hn => hnames n (List.mem_cons_of_mem _ hn)
          refine ⟨last, List.mem_cons_of_mem _ hlast, ?_⟩
          have hsome : last.getLast?.isSome = true := by
            simpa using hnames last (List.mem_cons_of_mem _ hlast)
          rw [joinWith, List.getLast?_append, heq, Option.or_of_isSome hsome]

theorem IsNormal.eq_slash (h : IsNormal t) (hlast : t.getLast? = some '/') : ∀ c ∈ t, c = '/' := by
  obtain ⟨root, hroot, names, hnames, rfl⟩ := h
  have hslashes : ∀ c ∈ root, c = '/' := by
    simp only [List.mem_cons, List.not_mem_nil, or_false] at hroot
    rcases hroot with rfl | rfl <;> simp
  cases names with
  | nil => simpa [joinWith] using hslashes
  | cons name names =>
      obtain ⟨last, hmem, heq⟩ := exists_getLast?_joinWith ['/'] (List.cons_ne_nil name names)
        fun n hn => (hnames n hn).ne_nil
      have hsome : last.getLast?.isSome = true := by simpa using (hnames last hmem).ne_nil
      rw [List.getLast?_append, heq, Option.or_of_isSome hsome] at hlast
      exact absurd (List.mem_of_getLast? hlast) (hnames last hmem).noSlash

/-! ### Home folders -/

namespace Homes

/-- All home folders. -/
def folders (homes : Homes) : List Text := homes.own :: homes.accounts.map (·.2)

theorem prefix_bare (t : Text) : bare t <+: t := by
  have hsuffix := List.dropWhile_suffix (l := t.reverse) (· = '/')
  exact List.reverse_suffix.mp (by rwa [bare, List.reverse_reverse])

theorem named_cases (homes : Homes) (name : Text) :
    '\x00' ∈ name ∧ homes.named name = .error .nullInPath ∨
      '\x00' ∉ name ∧ ∃ home?, homes.named name = .ok home? ∧
        ∀ home ∈ home?, home ∈ homes.folders := by
  unfold named
  by_cases hempty : name = []
  · subst hempty
    refine Or.inr ⟨List.not_mem_nil, some homes.own, rfl, ?_⟩
    rintro home ⟨⟩
    exact List.mem_cons_self
  · rw [if_neg (by simpa using hempty)]
    by_cases hnull : '\x00' ∈ name
    · exact Or.inl ⟨hnull, if_pos (List.contains_iff_mem.mpr hnull)⟩
    · refine Or.inr ⟨hnull, _, if_neg (by simpa using hnull), fun home hhome => ?_⟩
      obtain ⟨before, after, htable, -⟩ := List.lookup_eq_some_iff.mp hhome
      refine List.mem_cons_of_mem _ (List.mem_map.mpr ⟨(name, home), ?_, rfl⟩)
      rw [htable]
      exact List.mem_append_right before List.mem_cons_self

/-- What becomes of a path behind a tilde: its account cannot be looked for, or is unknown, or has
a home folder. -/
theorem expand_tilde (homes : Homes) (t : Text) :
    '\x00' ∈ t.takeWhile (· != '/') ∧ homes.expand ('~' :: t) = .error .nullInPath ∨
      '\x00' ∉ t.takeWhile (· != '/') ∧ ∃ u, homes.expand ('~' :: t) = .ok u ∧
        (u = '~' :: t ∨ u = ['/'] ∨
          ∃ home ∈ homes.folders, u = bare home ++ t.dropWhile (· != '/')) := by
  have hrest : t.drop (t.takeWhile (· != '/')).length = t.dropWhile (· != '/') := by
    have hsplit := List.takeWhile_append_dropWhile (p := (· != '/')) (l := t)
    calc t.drop (t.takeWhile (· != '/')).length
        = (t.takeWhile (· != '/') ++ t.dropWhile (· != '/')).drop
            (t.takeWhile (· != '/')).length := by rw [hsplit]
      _ = t.dropWhile (· != '/') := List.drop_left
  rw [expand]
  rcases homes.named_cases (t.takeWhile (· != '/')) with
    ⟨hnull, hnamed⟩ | ⟨hnull, home?, hnamed, hmem⟩
  · rw [hnamed]
    exact Or.inl ⟨hnull, rfl⟩
  · rw [hnamed, hrest]
    refine Or.inr ⟨hnull, _, rfl, ?_⟩
    cases home? with
    | none => exact Or.inl rfl
    | some home =>
        dsimp only
        split
        · exact Or.inr (Or.inl rfl)
        · exact Or.inr (Or.inr ⟨home, hmem home rfl, rfl⟩)

/-- A path cannot be expanded just when the account behind its tilde has a null in its name. -/
theorem expand_eq_error_or (homes : Homes) (t : Text) :
    (∃ u, t = '~' :: u ∧ '\x00' ∈ u.takeWhile (· != '/')) ∧ homes.expand t = .error .nullInPath ∨
      (¬ ∃ u, t = '~' :: u ∧ '\x00' ∈ u.takeWhile (· != '/')) ∧ ∃ u, homes.expand t = .ok u := by
  by_cases htilde : t.head? = some '~'
  · obtain ⟨t, rfl⟩ := List.head?_eq_some_iff.mp htilde
    rcases homes.expand_tilde t with ⟨hnull, herror⟩ | ⟨hnull, u, hu, -⟩
    · exact Or.inl ⟨⟨t, rfl, hnull⟩, herror⟩
    · refine Or.inr ⟨?_, u, hu⟩
      rintro ⟨v, hv, hmem⟩
      obtain rfl := List.tail_eq_of_cons_eq hv
      exact hnull hmem
  · refine Or.inr ⟨?_, t, expand_of_head_ne htilde⟩
    rintro ⟨u, rfl, -⟩
    exact htilde rfl

/-- Whatever an expanded path has in one of its names was there before or is in a home folder. -/
theorem infix_of_expand (hslash : '/' ∉ piece) (hne : piece ≠ [])
    (hexpand : homes.expand t = .ok u) (h : piece <:+: u) :
    piece <:+: t ∨ t.head? = some '~' ∧ ∃ home ∈ homes.folders, piece <:+: home := by
  by_cases htilde : t.head? = some '~'
  · obtain ⟨t, rfl⟩ := List.head?_eq_some_iff.mp htilde
    rcases homes.expand_tilde t with ⟨-, herror⟩ | ⟨-, v, hv, hcases⟩
    · rw [herror] at hexpand
      cases hexpand
    · obtain rfl := Except.ok.inj (hv.symm.trans hexpand)
      rcases hcases with rfl | rfl | ⟨home, hhome, rfl⟩
      · exact Or.inl h
      · exact absurd (List.infix_nil.mp (infix_of_infix_cons hslash h)) hne
      · have hbare : piece <:+: bare home → piece <:+: home :=
          fun hin => hin.trans (prefix_bare home).isInfix
        have hsuffix := List.dropWhile_suffix (l := t) (· != '/')
        rcases hdrop : t.dropWhile (· != '/') with _ | ⟨c, rest⟩
        · rw [hdrop, List.append_nil] at h
          exact Or.inr ⟨htilde, home, hhome, hbare h⟩
        · have hc : c = '/' := by
            have hhead := List.head_dropWhile_not (· != '/') (l := t) (by rw [hdrop]; simp)
            simpa [hdrop] using hhead
          rw [hdrop] at h hsuffix
          subst hc
          rcases (infix_append_cons_iff hslash).mp h with hin | hin
          · exact Or.inr ⟨htilde, home, hhome, hbare hin⟩
          · refine Or.inl (hin.trans (List.IsSuffix.isInfix ?_))
            exact (List.suffix_cons '/' rest).trans (hsuffix.trans (List.suffix_cons '~' t))
  · rw [expand_of_head_ne htilde] at hexpand
    cases hexpand
    exact Or.inl h

theorem expand_ne_nil (hraw : raw ≠ []) (hexpand : homes.expand raw = .ok t) : t ≠ [] := by
  unfold expand at hexpand
  split at hexpand
  · next rest =>
      extract_lets name at hexpand
      cases hnamed : homes.named name with
      | error r =>
          rw [hnamed] at hexpand
          cases hexpand
      | ok home? =>
          rw [hnamed] at hexpand
          cases hexpand
          cases home? with
          | none => exact List.cons_ne_nil _ _
          | some home =>
              dsimp only
              split
              · exact List.cons_ne_nil _ _
              · next hsome => exact hsome
  · cases hexpand
    exact hraw

end Homes

/-! ### Places -/

namespace Settings

/-- The place that an expanded setting names in a workspace. -/
def placed (workspace t : Text) : Text :=
  if t.isDrivePath then t
  else if (Path.ofText t).isAbsolute then (Path.ofText t).collapse.text
  else if workspace.isEmpty then t
  else ((Path.ofText workspace).join (.ofText t)).collapse.text

theorem placeOf_eq (homes : Homes) (workspace raw : Text) :
    placeOf homes workspace raw = if raw.isEmpty then .ok [] else
      (homes.expand (Text.replaceAll workspaceMark workspace raw)).map (placed workspace) := rfl

/-- The text names the place for the workspace. -/
def HasMark (t : Text) : Prop := workspaceMark <:+: t

theorem workspaceMark_ne_nil : workspaceMark ≠ [] := List.cons_ne_nil _ _

theorem not_mem_workspaceMark : '/' ∉ workspaceMark ∧ '\x00' ∉ workspaceMark := by decide

theorem not_hasMark_nil : ¬ HasMark [] := fun h => workspaceMark_ne_nil (List.infix_nil.mp h)

theorem not_hasMark_of_not_mem (h : '$' ∉ t) : ¬ HasMark t := fun hin =>
  h (hin.subset List.mem_cons_self)

theorem isAbsolute_ofText_iff : (Path.ofText t).isAbsolute = true ↔ t.head? = some '/' := by
  unfold Path.isAbsolute Path.ofText Path.rootOf
  split
  · exact iff_of_true rfl rfl
  · exact iff_of_true rfl rfl
  · exact iff_of_true rfl rfl
  · next hother =>
      refine iff_of_false (fun h => by cases h) fun h => ?_
      obtain ⟨rest, rfl⟩ := List.head?_eq_some_iff.mp h
      exact hother rest rfl

theorem isDrivePath_head {c : Char} (h : isDrivePath t = true) (hhead : t.head? = some c) :
    c.isAlpha = true := by
  unfold isDrivePath at h
  split at h
  · next letter _ _ =>
      obtain rfl := Option.some.inj hhead
      exact (Bool.and_eq_true _ _ ▸ h).1
  · cases h

/-- An expanded setting names itself on a drive, or a normal form. -/
theorem placed_cases (hworkspace : workspace.head? = some '/') (t : Text) :
    isDrivePath t = true ∧ placed workspace t = t ∨ IsNormal (placed workspace t) := by
  unfold placed
  split
  · next hdrive => exact Or.inl ⟨hdrive, rfl⟩
  · split
    · next habsolute => exact Or.inr (isNormal_collapse (Path.isRead_ofText t) habsolute)
    · have hne : ¬ workspace.isEmpty = true := by
        rw [List.isEmpty_iff]
        rintro rfl
        cases hworkspace
      have habsolute := Path.isAbsolute_join (q := .ofText t) (isAbsolute_ofText_iff.mpr hworkspace)
      have hread := (Path.isRead_ofText workspace).join (Path.isRead_ofText t)
      rw [if_neg hne]
      exact Or.inr (isNormal_collapse hread habsolute)

theorem placed_of_isNormal (h : IsNormal t) : placed workspace t = t := by
  have hdrive : ¬ isDrivePath t = true := fun hdrive =>
    absurd (isDrivePath_head hdrive h.head?_eq) (by decide)
  obtain ⟨p, hread, habsolute, hup, rfl⟩ := isNormal_iff.mp h
  unfold placed
  rw [if_neg hdrive, Path.ofText_text hread, if_pos habsolute, Path.collapse_of_not_mem hup]

/-! ### Marks -/

theorem infix_of_mem_namesOf {name : Text} (hslash : '/' ∉ piece) (hne : piece ≠ [])
    (hname : name ∈ Path.namesOf t) (h : piece <:+: name) : piece <:+: t := by
  rw [← joinWith_splitOn '/' t]
  exact (infix_joinWith_iff hslash hne).mpr ⟨name, List.mem_of_mem_filter hname, h⟩

theorem exists_name_of_infix_text (hslash : '/' ∉ piece) (hne : piece ≠ [])
    (habsolute : p.isAbsolute = true) (h : piece <:+: p.text) :
    ∃ name ∈ p.names, piece <:+: name := by
  rw [Path.text_of_isAbsolute habsolute] at h
  rw [← infix_joinWith_iff hslash hne]
  obtain ⟨root, names⟩ := p
  cases root with
  | none => cases habsolute
  | single => exact infix_of_infix_cons hslash h
  | double => exact infix_of_infix_cons hslash (infix_of_infix_cons hslash h)

theorem hasMark_of_placed (hworkspace : workspace.head? = some '/')
    (h : HasMark (placed workspace t)) : HasMark t ∨ HasMark workspace := by
  obtain ⟨hslash, -⟩ := not_mem_workspaceMark
  have hnames : ∀ p : Path, p.isAbsolute = true → HasMark p.collapse.text →
      ∃ name ∈ p.names, HasMark name := by
    intro p habsolute hmark
    obtain ⟨name, hname, hin⟩ :=
      exists_name_of_infix_text (p := p.collapse) hslash workspaceMark_ne_nil habsolute hmark
    have hmem := (Path.mem_foldl_push (List.mem_reverse.mp hname)).resolve_left List.not_mem_nil
    exact ⟨name, hmem, hin⟩
  unfold placed at h
  split at h
  · exact Or.inl h
  · split at h
    · next habsolute =>
        obtain ⟨name, hname, hin⟩ := hnames _ habsolute h
        exact Or.inl (infix_of_mem_namesOf hslash workspaceMark_ne_nil hname hin)
    · next hrelative =>
        split at h
        · exact Or.inl h
        · have habsolute := Path.isAbsolute_join (q := .ofText t)
            (isAbsolute_ofText_iff.mpr hworkspace)
          obtain ⟨name, hname, hin⟩ := hnames _ habsolute h
          rw [Path.join, if_neg hrelative] at hname
          rcases List.mem_append.mp hname with hname | hname
          · exact Or.inr (infix_of_mem_namesOf hslash workspaceMark_ne_nil hname hin)
          · exact Or.inl (infix_of_mem_namesOf hslash workspaceMark_ne_nil hname hin)

/-- The account behind the tilde of a setting has a null in its name. -/
def NamesNull (raw : Text) : Prop :=
  ∃ name rest, raw = '~' :: (name ++ '\x00' :: rest) ∧ '/' ∉ name ∧ ¬ HasMark name

section

variable (hworkspace : workspace.head? = some '/') (hdollar : '$' ∉ workspace)

include hworkspace hdollar

theorem not_hasMark_replaceAll (raw : Text) :
    ¬ HasMark (replaceAll workspaceMark workspace raw) := by
  obtain ⟨rest, rfl⟩ := List.head?_eq_some_iff.mp hworkspace
  exact not_infix_replaceAll hdollar not_mem_workspaceMark.1 raw

theorem namesNull_iff : NamesNull raw ↔ ∃ u, replaceAll workspaceMark workspace raw = '~' :: u ∧
    '\x00' ∈ u.takeWhile (· != '/') := by
  constructor
  · rintro ⟨name, rest, rfl, hslash, hmark⟩
    have htilde : ¬ HasMark ('~' :: name) := by
      intro hin
      rcases List.infix_cons_iff.mp hin with hprefix | hinfix
      · exact absurd (List.cons_prefix_cons.mp hprefix).1 (by decide)
      · exact hmark hinfix
    have hstays := replaceAll_append_cons workspace not_mem_workspaceMark.2 workspaceMark_ne_nil
      htilde rest
    refine ⟨name ++ '\x00' :: replaceAll workspaceMark workspace rest, hstays, ?_⟩
    have hname : ∀ c ∈ name, (c != '/') = true := by
      intro c hc
      rw [bne_iff_ne]
      rintro rfl
      exact hslash hc
    rw [List.takeWhile_append_of_pos hname]
    exact List.mem_append_right name List.mem_cons_self
  · rintro ⟨u, hu, hnull⟩
    have hmark := not_hasMark_replaceAll hworkspace hdollar raw
    obtain ⟨root, rfl⟩ := List.head?_eq_some_iff.mp hworkspace
    obtain ⟨name, after, hsplit⟩ := List.append_of_mem hnull
    have hslash : '/' ∉ name ++ '\x00' :: after := by
      rw [← hsplit]
      intro hmem
      have hpasses := List.all_eq_true.mp (List.all_takeWhile (p := (· != '/')) (l := u)) _ hmem
      exact absurd hpasses (by decide)
    obtain ⟨rest, hrest⟩ : name ++ '\x00' :: after <+: u := hsplit ▸ List.takeWhile_prefix _
    -- The workspace brings a slash in, so what is before the first slash was there before.
    have hstart :
        '~' :: (name ++ '\x00' :: after) <+: replaceAll workspaceMark ('/' :: root) raw := by
      rw [hu, ← hrest]
      exact List.prefix_append _ _
    have hslashless : '/' ∉ '~' :: (name ++ '\x00' :: after) :=
      List.not_mem_cons_of_ne_of_not_mem (by decide) hslash
    obtain ⟨rest', rfl⟩ := prefix_of_prefix_replaceAll hslashless hstart
    refine ⟨name, after ++ rest', by simp, fun hmem => hslash (List.mem_append_left _ hmem), ?_⟩
    intro hin
    rw [hu, ← hrest, List.append_assoc] at hmark
    have hwritten := (List.prefix_append name ('\x00' :: after ++ rest)).isInfix
    exact hmark ((hin.trans hwritten).trans (List.suffix_cons _ _).isInfix)

theorem exists_home_of_hasMark (hplace : placeOf homes workspace raw = .ok t) (hmark : HasMark t) :
    raw.head? = some '~' ∧ ∃ home ∈ homes.folders, HasMark home := by
  rw [placeOf_eq] at hplace
  split at hplace
  · cases hplace
    exact absurd hmark not_hasMark_nil
  · cases hexpand : homes.expand (replaceAll workspaceMark workspace raw) with
    | error r =>
        rw [hexpand] at hplace
        cases hplace
    | ok v =>
        rw [hexpand] at hplace
        cases hplace
        have hv : HasMark v := (hasMark_of_placed hworkspace hmark).resolve_right
          (not_hasMark_of_not_mem hdollar)
        obtain ⟨htilde, hhome⟩ := (Homes.infix_of_expand not_mem_workspaceMark.1
          workspaceMark_ne_nil hexpand hv).resolve_left
            (not_hasMark_replaceAll hworkspace hdollar raw)
        -- The tilde was there before, since a workspace starts with a slash.
        obtain ⟨root, rfl⟩ := List.head?_eq_some_iff.mp hworkspace
        obtain ⟨u, hu⟩ := List.head?_eq_some_iff.mp htilde
        have hstart : ['~'] <+: replaceAll workspaceMark ('/' :: root) raw := ⟨u, hu.symm⟩
        obtain ⟨rest, rfl⟩ := prefix_of_prefix_replaceAll (by decide) hstart
        exact ⟨rfl, hhome⟩

/-- A path on a drive or in its normal form names itself just when it has no mark. -/
theorem placeOf_eq_self_iff (h : isDrivePath t = true ∨ IsNormal t) :
    placeOf homes workspace t = .ok t ↔ ¬ HasMark t := by
  have htilde : t.head? ≠ some '~' := by
    rcases h with hdrive | hnormal
    · intro hhead
      exact absurd (isDrivePath_head hdrive hhead) (by decide)
    · rw [hnormal.head?_eq]
      decide
  refine ⟨fun hself hmark => htilde (exists_home_of_hasMark hworkspace hdollar hself hmark).1,
    fun hmark => ?_⟩
  have hstays : replaceAll workspaceMark workspace t = t := by
    refine replaceAll_of_not_holds ?_
    rwa [Bool.eq_false_iff, ne_eq, holds_iff]
  have hself : placed workspace t = t := by
    rcases h with hdrive | hnormal
    · exact if_pos hdrive
    · exact placed_of_isNormal hnormal
  rw [placeOf_eq, hstays, Homes.expand_of_head_ne htilde, Except.map, hself]
  split
  · next hempty => rw [List.isEmpty_iff.mp hempty]
  · rfl

end

/-- What a setting names, from a workspace at the root without a dollar sign.  Looking for an
account with a null in its name is all that fails.  Otherwise only the empty setting names nothing;
what another names is on a drive or in its normal form, which has no slash at its end unless it is
made of slashes; and it names itself, unless a mark came into it with a home folder that is spelled
with one. -/
theorem placeOf_settles (hworkspace : workspace.head? = some '/') (hdollar : '$' ∉ workspace)
    (homes : Homes) (raw : Text) :
    (NamesNull raw → placeOf homes workspace raw = .error .nullInPath) ∧
      (¬ NamesNull raw → ∃ t, placeOf homes workspace raw = .ok t ∧ (t = [] ↔ raw = []) ∧
        (raw ≠ [] → isDrivePath t = true ∨
          IsNormal t ∧ (t.getLast? = some '/' → ∀ c ∈ t, c = '/')) ∧
        (placeOf homes workspace t = .ok t ↔ ¬ HasMark t) ∧
        (HasMark t → raw.head? = some '~' ∧ ∃ home ∈ homes.folders, HasMark home)) := by
  rw [namesNull_iff hworkspace hdollar]
  by_cases hraw : raw = []
  · subst hraw
    have hnull : ¬ ∃ u, replaceAll workspaceMark workspace [] = '~' :: u ∧
        '\x00' ∈ u.takeWhile (· != '/') := by
      rintro ⟨u, hu, -⟩
      cases hu
    exact ⟨fun h => absurd h hnull, fun _ => ⟨[], rfl, Iff.rfl, fun h => absurd rfl h,
      iff_of_true rfl not_hasMark_nil, fun h => absurd h not_hasMark_nil⟩⟩
  · have hempty : ¬ raw.isEmpty = true := by rwa [List.isEmpty_iff]
    have hplace : placeOf homes workspace raw =
        (homes.expand (replaceAll workspaceMark workspace raw)).map (placed workspace) := by
      rw [placeOf_eq, if_neg hempty]
    rcases homes.expand_eq_error_or (replaceAll workspaceMark workspace raw) with
      ⟨hnull, hexpand⟩ | ⟨hnull, v, hexpand⟩
    · rw [hexpand] at hplace
      exact ⟨fun _ => hplace, fun h => absurd hnull h⟩
    · rw [hexpand] at hplace
      have hshape : isDrivePath (placed workspace v) = true ∨ IsNormal (placed workspace v) :=
        (placed_cases hworkspace v).imp_left fun ⟨hdrive, hself⟩ => by rwa [hself]
      refine ⟨fun h => absurd h hnull, fun _ => ⟨placed workspace v, hplace, ?_, fun _ => ?_,
        placeOf_eq_self_iff hworkspace hdollar hshape,
        exists_home_of_hasMark hworkspace hdollar hplace⟩⟩
      · refine iff_of_false (fun hnil => ?_) hraw
        rw [hnil] at hshape
        rcases hshape with hdrive | hnormal
        · cases hdrive
        · cases hnormal.head?_eq
      · exact hshape.imp_right fun hnormal => ⟨hnormal, hnormal.eq_slash⟩

/-- A setting that goes up from the home folder and has a mark, which names a folder there. -/
theorem placeOf_settles_of_up :
    ("/ws" : Text).head? = some '/' ∧ '$' ∉ ("/ws" : Text) ∧
      ¬ NamesNull "~/../$\x7bworkspaceFolder\x7d/.//a/" ∧
      placeOf {} "/ws" "~/../$\x7bworkspaceFolder\x7d/.//a/" = .ok "/home/ws/a" ∧
      IsNormal "/home/ws/a" ∧ ¬ HasMark "/home/ws/a" ∧
      placeOf {} "/ws" "/home/ws/a" = .ok "/home/ws/a" := by
  have hroot : ("/ws" : Text).head? = some '/' := rfl
  have hdollar : '$' ∉ ("/ws" : Text) := by decide
  have hplace : placeOf {} "/ws" "~/../$\x7bworkspaceFolder\x7d/.//a/" = .ok "/home/ws/a" := by
    decide +kernel
  have hmark : ¬ HasMark "/home/ws/a" := not_hasMark_of_not_mem (by decide)
  obtain ⟨hrefused, hsettles⟩ :=
    placeOf_settles hroot hdollar {} "~/../$\x7bworkspaceFolder\x7d/.//a/"
  have hnull : ¬ NamesNull "~/../$\x7bworkspaceFolder\x7d/.//a/" := by
    intro h
    cases hplace.symm.trans (hrefused h)
  obtain ⟨t, ht, -, hshape, hself, -⟩ := hsettles hnull
  obtain rfl := Except.ok.inj (hplace.symm.trans ht)
  have hnormal := (hshape (by decide)).resolve_left (by decide)
  exact ⟨hroot, hdollar, hnull, hplace, hnormal.1, hmark, hself.mpr hmark⟩

/-- What a home folder that is spelled with a mark names is another folder. -/
example :
    let homes : Homes := { own := "/home/$\x7bworkspaceFolder\x7d" }
    placeOf homes "/ws" "~" = .ok homes.own ∧ placeOf homes "/ws" homes.own = .ok "/home/ws" := by
  decide +kernel

/-- No folder is named when the account has a null in its name. -/
theorem not_placed_of_nullInAccount :
    ("/ws" : Text).head? = some '/' ∧ '$' ∉ ("/ws" : Text) ∧
      ¬ ∃ t, placeOf {} "/ws" "~a\x00b" = .ok t := by
  refine ⟨rfl, by decide, ?_⟩
  rintro ⟨t, ht⟩
  cases ht

end Settings

end MetaDesk
