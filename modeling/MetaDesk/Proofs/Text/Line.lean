import MetaDesk.Text.Blank
import MetaDesk.Proofs.Text.AnyCase
import Mathlib.Data.Nat.Notation

/-! # Texts made of lines

`Lined ls t` says that `t` is written line by line: each line of `ls` is followed by some line
break, and the last one perhaps by none.  Cutting such a text gives the lines back
(`Lined.lines_eq`).  `IsTrimmed` says that a text has no blanks at its ends, and such a text is not
changed by trimming (`trim_of_isTrimmed`). -/

namespace MetaDesk.Text

/-! ### Blanks at the ends -/

/-- Neither the first nor the last character is a blank. -/
structure IsTrimmed (t : Text) : Prop where
  head : ∀ c ∈ t.head?, isBlank c = false
  last : ∀ c ∈ t.getLast?, isBlank c = false

theorem trimStart_of_head {t : Text} (h : ∀ c ∈ t.head?, isBlank c = false) : trimStart t = t := by
  cases t with
  | nil => rfl
  | cons c t =>
      have hc := h c rfl
      simp [trimStart, hc]

theorem trimStart_blank_cons {c : Char} (h : isBlank c = true) (t : Text) :
    trimStart (c :: t) = trimStart t := by
  simp [trimStart, h]

theorem trimEnd_eq_reverse (t : Text) : trimEnd t = (trimStart t.reverse).reverse := rfl

theorem trimEnd_of_last {t : Text} (h : ∀ c ∈ t.getLast?, isBlank c = false) : trimEnd t = t := by
  rw [trimEnd_eq_reverse, trimStart_of_head, List.reverse_reverse]
  rwa [List.head?_reverse]

theorem trimEnd_append_blank {c : Char} (h : isBlank c = true) (t : Text) :
    trimEnd (t ++ [c]) = trimEnd t := by
  rw [trimEnd_eq_reverse, List.reverse_append, List.reverse_singleton, List.singleton_append,
    trimStart_blank_cons h, trimEnd_eq_reverse]

/-- A character that is no blank stays where it is, and so does what is before it. -/
theorem trimEnd_cons {c : Char} (h : isBlank c = false) (t : Text) :
    trimEnd (c :: t) = c :: trimEnd t := by
  unfold trimEnd
  rw [List.reverse_cons, List.dropWhile_append]
  split_ifs with hempty
  · rw [List.isEmpty_iff.mp hempty]
    simp [h]
  · rw [List.reverse_append]
    rfl

theorem trim_of_isTrimmed {t : Text} (h : IsTrimmed t) : trim t = t := by
  unfold trim
  rw [trimStart_of_head h.head, trimEnd_of_last h.last]

theorem trim_subset (t : Text) : trim t ⊆ t := by
  have hend : trim t ⊆ trimStart t := fun _ hc =>
    List.mem_reverse.mp ((List.dropWhile_suffix isBlank).subset (List.mem_reverse.mp hc))
  exact List.Subset.trans hend (List.dropWhile_suffix isBlank).subset

/-- That all characters of a text are so can be computed. -/
theorem forall_mem_of_all {P : Char → Prop} [DecidablePred P] {t : Text}
    (h : (t.all fun c => decide (P c)) = true) : ∀ c ∈ t, P c :=
  fun c hc => of_decide_eq_true (List.all_eq_true.mp h c hc)

/-- An ASCII character that is seen. -/
def IsVisible (c : Char) : Prop := 0x21 ≤ c.toNat ∧ c.toNat ≤ 0x7E

instance (c : Char) : Decidable (IsVisible c) := inferInstanceAs (Decidable (_ ∧ _))

theorem isVisible_of_isDigit {c : Char} (h : c.isDigit = true) : IsVisible c := by
  have hdigit : 0x30 ≤ c.toNat ∧ c.toNat ≤ 0x39 := Char.isDigit_iff_toNat.mp h
  unfold IsVisible
  omega

theorem isVisible_of_isAlpha {c : Char} (h : c.isAlpha = true) : IsVisible c := by
  have hletter : c.isUpper = true ∨ c.isLower = true := Bool.or_eq_true_iff.mp h
  rw [isUpper_iff, isLower_iff] at hletter
  unfold IsVisible
  omega

theorem isBlank_eq_false_of_visible {c : Char} (h : IsVisible c) : isBlank c = false := by
  unfold IsVisible at h
  simp only [isBlank, Bool.or_eq_false_iff, Bool.and_eq_false_iff, decide_eq_false_iff_not,
    beq_eq_false_iff_ne]
  omega

theorem isBlank_of_isLineBreak {c : Char} (h : isLineBreak c = true) : isBlank c = true := by
  simp only [isLineBreak, Bool.or_eq_true, Bool.and_eq_true, decide_eq_true_eq, beq_iff_eq] at h
  simp only [isBlank, Bool.or_eq_true, Bool.and_eq_true, decide_eq_true_eq, beq_iff_eq]
  omega

theorem isLineBreak_eq_false_of_ascii (c : Char) (h : c = ' ' ∨ IsVisible c) :
    isLineBreak c = false := by
  rcases h with rfl | h
  · rfl
  · rw [Bool.eq_false_iff]
    intro hbreak
    have := isBlank_of_isLineBreak hbreak
    rw [isBlank_eq_false_of_visible h] at this
    cases this

/-! ### Lines -/

/-- A line break: one character, or a carriage return with its line feed. -/
inductive EndsLine : Text → Prop
  | single {c : Char} : isLineBreak c = true → EndsLine [c]
  | pair : EndsLine ['\r', '\n']

/-- A text written line by line; the last line break may be missing. -/
inductive Lined : List Text → Text → Prop
  | nil : Lined [] []
  | last (l : Text) : Lined [l] l
  | line (l : Text) {brk t : Text} {ls : List Text} :
      EndsLine brk → Lined ls t → Lined (l :: ls) (l ++ brk ++ t)

/-- Something is in the line, and no line break. -/
def IsLine (l : Text) : Prop := l ≠ [] ∧ ∀ c ∈ l, isLineBreak c = false

theorem lines_cons_of_not_break {c : Char} (hc : isLineBreak c = false) (t : Text) :
    lines (c :: t) = pushFront c (lines t) := by
  have hcr : c ≠ '\r' := by
    rintro rfl
    exact absurd hc (by decide)
  rw [lines.eq_3 c t (fun _ h => absurd h hcr), hc]
  rfl

theorem lines_ne_nil {t : Text} (ht : t ≠ []) : lines t ≠ [] := by
  induction t using lines.induct with
  | case1 => exact absurd rfl ht
  | case2 => exact List.cons_ne_nil _ _
  | case3 c rest hpair hbreak =>
      rw [lines.eq_3 c rest hpair, if_pos hbreak]
      exact List.cons_ne_nil _ _
  | case4 c rest hpair hbreak =>
      rw [lines.eq_3 c rest hpair, if_neg hbreak]
      cases lines rest <;> exact List.cons_ne_nil _ _

theorem pushFront_append (c : Char) {ls : List Text} (hls : ls ≠ []) (more : List Text) :
    pushFront c (ls ++ more) = pushFront c ls ++ more := by
  cases ls with
  | nil => exact absurd rfl hls
  | cons l ls => rfl

theorem lines_append {l t : Text} {ls : List Text} (hl : ∀ c ∈ l, isLineBreak c = false)
    (ht : lines t = [] :: ls) : lines (l ++ t) = l :: ls := by
  induction l with
  | nil => exact ht
  | cons c l ih =>
      have htail := ih fun d hd => hl d (List.mem_cons_of_mem c hd)
      rw [List.cons_append, lines_cons_of_not_break (hl c List.mem_cons_self), htail]
      rfl

/-- What follows a line without a line break goes on it. -/
theorem lines_append_of_isLine {l : Text} (h : IsLine l) (t : Text) :
    lines (l ++ t) = (l ++ (lines t).headD []) :: (lines t).tail := by
  obtain ⟨hne, hl⟩ := h
  induction l with
  | nil => exact absurd rfl hne
  | cons c l ih =>
      rw [List.forall_mem_cons] at hl
      rw [List.cons_append, lines_cons_of_not_break hl.1]
      cases l with
      | nil =>
          rw [List.nil_append]
          cases lines t <;> rfl
      | cons d l =>
          rw [ih (List.cons_ne_nil d l) hl.2]
          rfl

theorem lines_of_isLine {l : Text} (h : IsLine l) : lines l = [l] := by
  have hlines := lines_append_of_isLine h []
  rwa [List.append_nil, lines, List.headD_nil, List.append_nil] at hlines

/-- No line has a line break in it. -/
theorem noBreak_of_mem_lines {l t : Text} (h : l ∈ lines t) : ∀ c ∈ l, isLineBreak c = false := by
  induction t using lines.induct generalizing l with
  | case1 => cases h
  | case2 rest ih =>
      rw [lines.eq_2] at h
      rcases List.mem_cons.mp h with rfl | h
      · exact fun c hc => absurd hc List.not_mem_nil
      · exact ih h
  | case3 c rest hpair hbreak ih =>
      rw [lines.eq_3 c rest hpair, if_pos hbreak] at h
      rcases List.mem_cons.mp h with rfl | h
      · exact fun c hc => absurd hc List.not_mem_nil
      · exact ih h
  | case4 c rest hpair hbreak ih =>
      rw [lines.eq_3 c rest hpair, if_neg hbreak] at h
      have hc : isLineBreak c = false := by simpa using hbreak
      cases hrest : lines rest with
      | nil =>
          rw [hrest] at h
          rw [List.mem_singleton.mp h]
          exact List.forall_mem_singleton.mpr hc
      | cons first more =>
          rw [hrest] at h ih
          rcases List.mem_cons.mp h with rfl | h
          · exact List.forall_mem_cons.mpr ⟨hc, ih List.mem_cons_self⟩
          · exact ih (List.mem_cons_of_mem first h)

theorem lines_endsLine {brk t : Text} (h : EndsLine brk) (ht : t.head? ≠ some '\n') :
    lines (brk ++ t) = [] :: lines t := by
  cases h with
  | pair => rfl
  | @single c hc =>
      rw [List.singleton_append, lines.eq_3, hc]
      · rfl
      · rintro rest rfl rfl
        exact ht rfl

/-- Where a line feed joins two texts their lines follow each other, with an empty one between them
when the first text ends in a break that does not take the line feed. -/
theorem lines_append_lineFeed (a b : Text) :
    ∃ gap, (gap = [] ∨ gap = [[]]) ∧ lines (a ++ '\n' :: b) = lines a ++ (gap ++ lines b) := by
  induction a using lines.induct with
  | case1 => exact ⟨[[]], Or.inr rfl, rfl⟩
  | case2 rest ih =>
      obtain ⟨gap, hgap, hlines⟩ := ih
      refine ⟨gap, hgap, ?_⟩
      rw [List.cons_append, List.cons_append, lines, lines, hlines]
      rfl
  | case3 c rest hpair hbreak ih =>
      obtain ⟨gap, hgap, hlines⟩ := ih
      cases rest with
      | nil =>
          by_cases hcr : c = '\r'
          · subst hcr
            exact ⟨[], Or.inl rfl, rfl⟩
          · refine ⟨[[]], Or.inr rfl, ?_⟩
            have hsingle : ∀ t, lines (c :: t) = [] :: lines t := fun t => by
              rw [lines.eq_3 c t (fun _ h => absurd h hcr), if_pos hbreak]
            rw [List.cons_append, hsingle, hsingle]
            rfl
      | cons d rest =>
          refine ⟨gap, hgap, ?_⟩
          have hpair' : ∀ t, c = '\r' → d :: rest ++ '\n' :: b = '\n' :: t → False := by
            intro t hcr h
            exact hpair rest hcr (by rw [(List.cons.inj h).1])
          rw [List.cons_append, lines.eq_3 _ _ hpair', lines.eq_3 _ _ hpair, if_pos hbreak,
            if_pos hbreak, hlines]
          rfl
  | case4 c rest hpair hbreak ih =>
      obtain ⟨gap, hgap, hlines⟩ := ih
      rw [Bool.not_eq_true] at hbreak
      cases rest with
      | nil =>
          refine ⟨[], Or.inl rfl, ?_⟩
          rw [List.cons_append, lines_cons_of_not_break hbreak, lines_cons_of_not_break hbreak]
          rfl
      | cons d rest =>
          refine ⟨gap, hgap, ?_⟩
          rw [List.cons_append, lines_cons_of_not_break hbreak, lines_cons_of_not_break hbreak, hlines]
          exact pushFront_append c (lines_ne_nil (List.cons_ne_nil d rest)) _

/-- A line feed starts no line, so it is never taken for the end of the break before it. -/
theorem Lined.head?_ne {ls : List Text} {t : Text} (h : Lined ls t) (hls : ∀ l ∈ ls, IsLine l) :
    t.head? ≠ some '\n' := by
  have hfirst : ∀ {l u : Text}, IsLine l → (l ++ u).head? ≠ some '\n' := by
    rintro (_ | ⟨c, l⟩) u ⟨hne, hl⟩ hc
    · exact hne rfl
    · simp only [List.cons_append, List.head?_cons, Option.some.injEq] at hc
      exact absurd (hl c List.mem_cons_self) (by rw [hc]; decide)
  cases h with
  | nil => simp
  | last =>
      rw [← List.append_nil t]
      exact hfirst (hls t List.mem_cons_self)
  | line l _ _ =>
      rw [List.append_assoc]
      exact hfirst (hls l List.mem_cons_self)

/-- Cutting a text at its line breaks gives the lines that it was written from. -/
theorem Lined.lines_eq {ls : List Text} {t : Text} (h : Lined ls t) (hls : ∀ l ∈ ls, IsLine l) :
    lines t = ls := by
  induction h with
  | nil => rfl
  | last l => exact lines_of_isLine (hls l List.mem_cons_self)
  | line l hbrk ht ih =>
      have hrest := fun l' hl' => hls l' (List.mem_cons_of_mem l hl')
      rw [List.append_assoc]
      apply lines_append (hls l List.mem_cons_self).2
      rw [lines_endsLine hbrk (ht.head?_ne hrest), ih hrest]

theorem Lined.forall_mem {ls : List Text} {t : Text} {P : Char → Prop} (h : Lined ls t)
    (hls : ∀ l ∈ ls, ∀ c ∈ l, P c) (hbrk : ∀ c, isLineBreak c = true → P c) : ∀ c ∈ t, P c := by
  induction h with
  | nil => simp
  | last l => exact hls l List.mem_cons_self
  | line l hend _ ih =>
      have hrest := ih fun l' hl' => hls l' (List.mem_cons_of_mem l hl')
      intro c hc
      rw [List.append_assoc, List.mem_append, List.mem_append] at hc
      rcases hc with hc | hc | hc
      · exact hls l List.mem_cons_self c hc
      · apply hbrk
        cases hend with
        | single hb => rwa [List.mem_singleton.mp hc]
        | pair =>
            rcases List.mem_cons.mp hc with rfl | hc
            · rfl
            · rw [List.mem_singleton.mp hc]
              rfl
      · exact hrest c hc

theorem dropMarks_of_not_mem {t : Text} (h : byteOrderMark ∉ t) : dropMarks t = t := by
  unfold dropMarks
  rw [List.filter_eq_self]
  intro c hc
  have hne : c ≠ byteOrderMark := fun heq => h (heq ▸ hc)
  simpa using hne

theorem ne_mark_of_ascii {c : Char} (h : c = ' ' ∨ IsVisible c) : c ≠ byteOrderMark := by
  rintro rfl
  rcases h with hblank | ⟨-, hle⟩
  · exact absurd (congrArg Char.toNat hblank) (by simp [byteOrderMark])
  · exact absurd hle (by simp [byteOrderMark])

theorem dropMarks_of_ascii {t : Text} (h : ∀ c ∈ t, c = ' ' ∨ IsVisible c) : dropMarks t = t :=
  dropMarks_of_not_mem fun hmem => ne_mark_of_ascii (h _ hmem) rfl

theorem dropMarks_cons {c : Char} (hc : c ≠ byteOrderMark) (t : Text) :
    dropMarks (c :: t) = c :: dropMarks t :=
  List.filter_cons_of_pos (by simpa using hc)

end MetaDesk.Text
