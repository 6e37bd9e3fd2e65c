import MetaDesk.Path.Basic
import Mathlib.Data.List.Basic

/-! # Reading a path back from its text

The names of a path that was read are not empty, are no single dots and have no slash in them.  Such
a path is read back from its text (`ofText_text`); joining paths and taking away double dots leads
from such paths to such paths.  A path from the root without double dots is collapsed already. -/

namespace MetaDesk

namespace Text

variable {sep : Char} {t : Text}

theorem splitOn_of_not_mem (h : sep ∉ t) : splitOn sep t = [t] := by
  induction t with
  | nil => rfl
  | cons c t ih =>
      rw [List.mem_cons, not_or] at h
      rw [splitOn, if_neg (Ne.symm h.1), ih h.2]

theorem splitOn_append_cons (h : sep ∉ t) (rest : Text) :
    splitOn sep (t ++ sep :: rest) = t :: splitOn sep rest := by
  induction t with
  | nil => rw [List.nil_append, splitOn, if_pos rfl]
  | cons c t ih =>
      rw [List.mem_cons, not_or] at h
      rw [List.cons_append, splitOn, if_neg (Ne.symm h.1), ih h.2]

theorem splitOn_joinWith {ts : List Text} (hts : ts ≠ []) (hsep : ∀ t ∈ ts, sep ∉ t) :
    splitOn sep (joinWith [sep] ts) = ts := by
  induction ts with
  | nil => exact (hts rfl).elim
  | cons t ts ih =>
      have ht := hsep t List.mem_cons_self
      cases ts with
      | nil => exact splitOn_of_not_mem ht
      | cons u ts =>
          rw [joinWith, List.append_assoc, List.singleton_append, splitOn_append_cons ht,
            ih (List.cons_ne_nil u ts) fun t ht => hsep t (List.mem_cons_of_mem _ ht)]

theorem not_mem_of_mem_splitOn {piece : Text} (hpiece : piece ∈ splitOn sep t) : sep ∉ piece := by
  induction t generalizing piece with
  | nil =>
      obtain rfl := List.mem_singleton.mp hpiece
      exact List.not_mem_nil
  | cons c t ih =>
      rw [splitOn] at hpiece
      split at hpiece
      · rcases List.mem_cons.mp hpiece with rfl | hrest
        · exact List.not_mem_nil
        · exact ih hrest
      · next hc =>
          cases hrest : splitOn sep t with
          | nil => exact absurd hrest (splitOn_ne_nil sep t)
          | cons first rest =>
              rw [hrest] at hpiece ih
              rcases List.mem_cons.mp hpiece with rfl | hpiece
              · rw [List.mem_cons, not_or]
                exact ⟨Ne.symm hc, ih List.mem_cons_self⟩
              · exact ih (List.mem_cons_of_mem _ hpiece)

/-- Where a piece does not occur, nothing is replaced. -/
theorem replaceAll_of_not_holds {piece value : Text} (h : holds piece t = false) :
    replaceAll piece value t = t := by
  unfold replaceAll
  induction t with
  | nil => rfl
  | cons c t ih =>
      rw [holds, Bool.or_eq_false_iff] at h
      rw [replaceFrom, h.1, if_neg Bool.false_ne_true, ih h.2]

end Text

namespace Path

variable {p q : Path}

/-- The names are those of a path that was read. -/
def IsRead (p : Path) : Prop := ∀ name ∈ p.names, isKept name = true ∧ '/' ∉ name

theorem isRead_ofText (t : Text) : IsRead (ofText t) := fun _ hname =>
  ⟨namesOf_kept hname, Text.not_mem_of_mem_splitOn (List.mem_of_mem_filter hname)⟩

theorem IsRead.join (hp : p.IsRead) (hq : q.IsRead) : (p.join q).IsRead := by
  unfold Path.join
  split
  · exact hq
  · intro name hname
    rcases List.mem_append.mp hname with hname | hname
    · exact hp name hname
    · exact hq name hname

/-- A name that is put on others is none of them only if it is new or goes up. -/
theorem mem_push {rooted : Bool} {back : List Text} {name other : Text}
    (hother : other ∈ push rooted back name) : other ∈ back ∨ other = name := by
  unfold push at hother
  split at hother
  · next hup =>
      cases back with
      | nil =>
          dsimp only at hother
          split at hother
          · exact (List.not_mem_nil hother).elim
          · exact Or.inr ((List.mem_singleton.mp hother).trans hup.symm)
      | cons last rest =>
          dsimp only at hother
          split at hother
          · rcases List.mem_cons.mp hother with rfl | hother
            · exact Or.inr hup.symm
            · exact Or.inl hother
          · exact Or.inl (List.mem_cons_of_mem _ hother)
  · rcases List.mem_cons.mp hother with rfl | hother
    · exact Or.inr rfl
    · exact Or.inl hother

theorem mem_foldl_push {rooted : Bool} {back names : List Text} {other : Text}
    (hother : other ∈ names.foldl (push rooted) back) : other ∈ back ∨ other ∈ names := by
  induction names generalizing back with
  | nil => exact Or.inl hother
  | cons name names ih =>
      rcases ih hother with hback | hnames
      · rcases mem_push hback with hback | rfl
        · exact Or.inl hback
        · exact Or.inr List.mem_cons_self
      · exact Or.inr (List.mem_cons_of_mem _ hnames)

theorem IsRead.collapse (hp : p.IsRead) : p.collapse.IsRead := fun name hname =>
  hp name ((mem_foldl_push (List.mem_reverse.mp hname)).resolve_left List.not_mem_nil)

/-! ### The text -/

theorem joinWith_names (name : Text) (names : List Text) :
    ∃ rest, Text.joinWith ['/'] (name :: names) = name ++ rest := by
  cases names with
  | nil => exact ⟨[], (List.append_nil name).symm⟩
  | cons next names => exact ⟨['/'] ++ Text.joinWith ['/'] (next :: names), List.append_assoc ..⟩

theorem splitOn_rootText (root : Root) (t : Text) :
    (Text.splitOn '/' (rootText root ++ t)).filter isKept =
      (Text.splitOn '/' t).filter isKept := by
  have hslash : ∀ t, (Text.splitOn '/' ('/' :: t)).filter isKept =
      (Text.splitOn '/' t).filter isKept := fun t => by
    rw [Text.splitOn, if_pos rfl]
    rfl
  cases root with
  | none => rfl
  | single => exact hslash t
  | double => exact (hslash _).trans (hslash t)

theorem rootOf_append {c : Char} (hc : c ≠ '/') (root : Root) (rest : Text) :
    rootOf (rootText root ++ c :: rest) = root := by
  cases root <;> simp [rootOf, rootText, hc]

/-- **A path is read back from its text.** -/
theorem ofText_text (hp : p.IsRead) : ofText p.text = p := by
  obtain ⟨root, names⟩ := p
  cases names with
  | nil => cases root <;> rfl
  | cons name names =>
      obtain ⟨rest, hrest⟩ := joinWith_names name names
      obtain ⟨hkept, hslash⟩ := hp name List.mem_cons_self
      cases name with
      | nil => cases hkept
      | cons c name =>
          have hc : c ≠ '/' := fun hc => hslash (hc ▸ List.mem_cons_self)
          have htext : text ⟨root, (c :: name) :: names⟩ =
              rootText root ++ Text.joinWith ['/'] ((c :: name) :: names) := by
            unfold text
            dsimp only
            rw [hrest]
            cases root <;> rfl
          have hnames : namesOf (rootText root ++ Text.joinWith ['/'] ((c :: name) :: names)) =
              (c :: name) :: names := by
            rw [namesOf, splitOn_rootText, Text.splitOn_joinWith (List.cons_ne_nil _ _)
              fun name hname => (hp name hname).2]
            exact List.filter_eq_self.mpr fun name hname => (hp name hname).1
          rw [htext, ofText, hnames, hrest, List.cons_append, rootOf_append hc]

theorem text_ne_nil (p : Path) : p.text ≠ [] := by
  unfold text
  split
  · exact List.cons_ne_nil _ _
  · next hsome => exact hsome

/-! ### Double dots -/

theorem push_of_ne {rooted : Bool} {back : List Text} {name : Text} (h : name ≠ up) :
    push rooted back name = name :: back := if_neg h

theorem foldl_push_of_not_mem {rooted : Bool} {back names : List Text} (h : up ∉ names) :
    names.foldl (push rooted) back = names.reverse ++ back := by
  induction names generalizing back with
  | nil => rfl
  | cons name names ih =>
      rw [List.mem_cons, not_or] at h
      rw [List.foldl_cons, ih h.2, push_of_ne (Ne.symm h.1), List.reverse_cons, List.append_assoc]
      rfl

/-- A path without double dots is collapsed already. -/
theorem collapse_of_not_mem (h : up ∉ p.names) : p.collapse = p := by
  unfold collapse
  rw [foldl_push_of_not_mem h, List.append_nil, List.reverse_reverse]

theorem not_mem_push {back : List Text} {name : Text} (h : up ∉ back) :
    up ∉ push true back name := by
  unfold push
  split
  · cases back with
    | nil => exact List.not_mem_nil
    | cons last rest =>
        rw [List.mem_cons, not_or] at h
        dsimp only
        rw [if_neg (Ne.symm h.1)]
        exact h.2
  · next hname =>
      rw [List.mem_cons, not_or]
      exact ⟨Ne.symm hname, h⟩

/-- From the root on all double dots are taken away. -/
theorem not_mem_collapse (habsolute : p.isAbsolute = true) : up ∉ p.collapse.names := by
  have hfold : ∀ (names back : List Text), up ∉ back → up ∉ names.foldl (push true) back := by
    intro names
    induction names with
    | nil => exact fun _ hback => hback
    | cons name names ih => exact fun back hback => ih _ (not_mem_push hback)
  unfold collapse
  rw [habsolute, List.mem_reverse]
  exact hfold p.names [] List.not_mem_nil

theorem collapse_collapse (habsolute : p.isAbsolute = true) : p.collapse.collapse = p.collapse :=
  collapse_of_not_mem (not_mem_collapse habsolute)

/-- A path from the root is the same seen from anywhere. -/
theorem join_of_isAbsolute (hq : q.isAbsolute = true) : p.join q = q := if_pos hq

theorem isAbsolute_join (hp : p.isAbsolute = true) : (p.join q).isAbsolute = true := by
  unfold join
  split
  · assumption
  · exact hp

end Path

end MetaDesk
