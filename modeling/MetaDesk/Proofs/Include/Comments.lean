import MetaDesk.Include.Directive
import MetaDesk.Proofs.Text.Line

/-! # Comments and includes

A line comment hides no include and adds none, unless a block comment begins in it that ends further
below.  Block comments are taken out before the lines are looked at, so the rest of such a line and
everything up to the end of the block comment is lost, and what follows on the line of this end
belongs to the line comment.

`beforeOpen?` tells where a text leaves a block comment open.  All that is said here about taking
comments out of texts that a line feed joins follows from it (`withoutComments_append_lineFeed`). -/

namespace MetaDesk.Include

/-- What begins a block comment. -/
def commentStart : Text := ['/', '*']

/-- What ends it. -/
def commentEnd : Text := ['*', '/']

variable {t u rest after : Text}

/-! ### The end of a comment -/

theorem afterComment?_cons_of_not_end {x : Char} (h : ¬ commentEnd <+: x :: t) :
    afterComment? (x :: t) = afterComment? t := by
  rw [afterComment?]
  rintro r rfl rfl
  exact h ⟨r, rfl⟩

theorem afterComment?_eq_none_iff : afterComment? t = none ↔ ¬ commentEnd <:+: t := by
  induction t with
  | nil => simp [afterComment?, commentEnd]
  | cons x t ih =>
      rw [List.infix_cons_iff, not_or]
      by_cases h : commentEnd <+: x :: t
      · obtain ⟨r, hr⟩ := h
        have hx : afterComment? (x :: t) = some r := by
          rw [← hr]
          rfl
        rw [hx, ← hr]
        simp
      · rw [afterComment?_cons_of_not_end h, ih]
        exact (and_iff_right h).symm

theorem suffix_of_afterComment? (h : afterComment? t = some rest) : rest <:+ t := by
  fun_induction afterComment? t with
  | case1 => cases h
  | case2 r =>
      obtain rfl := Option.some.inj h
      exact List.suffix_append ['*', '/'] r
  | case3 x r _ ih => exact (ih h).trans (List.suffix_cons x r)

theorem afterComment?_append (h : afterComment? t = some rest) (u : Text) :
    afterComment? (t ++ u) = some (rest ++ u) := by
  fun_induction afterComment? t with
  | case1 => cases h
  | case2 r =>
      obtain rfl := Option.some.inj h
      rfl
  | case3 x r hnot ih =>
      rw [List.cons_append, afterComment?, ih h]
      intro r' hx hr
      cases r with
      | nil => cases h
      | cons y r =>
          obtain ⟨rfl, -⟩ := List.cons.inj hr
          exact hnot r hx rfl

theorem afterComment?_append_lineFeed (h : afterComment? t = none) (u : Text) :
    afterComment? (t ++ '\n' :: u) = afterComment? u := by
  have hfeed : afterComment? ('\n' :: u) = afterComment? u := by
    rw [afterComment?]
    rintro r ⟨⟩
  induction t with
  | nil => exact hfeed
  | cons x t ih =>
      rw [afterComment?_eq_none_iff, List.infix_cons_iff, not_or] at h
      have hnot : ¬ commentEnd <+: x :: (t ++ '\n' :: u) := by
        rintro ⟨r, hr⟩
        refine h.1 ?_
        cases t with
        | nil => cases hr
        | cons y t =>
            cases hr
            exact ⟨t, rfl⟩
      rw [List.cons_append, afterComment?_cons_of_not_end hnot, ih]
      exact afterComment?_eq_none_iff.mpr h.2

/-! ### Texts without comments -/

/-- What stands in a text, without its comments, before a block comment that it leaves open. -/
def beforeOpen? : Text → Option Text
  | [] => none
  | '/' :: '*' :: rest =>
    match _h : afterComment? rest with
    | some after => beforeOpen? after
    | none => some []
  | x :: rest => (beforeOpen? rest).map (x :: ·)
termination_by t => t.length
decreasing_by
  · have := length_lt_of_afterComment? _h
    simp
    omega
  · simp

/-- A block comment that begins in the text does not end in it. -/
def leavesOpen (t : Text) : Bool := (beforeOpen? t).isSome

theorem withoutComments_of_some (h : afterComment? rest = some after) :
    withoutComments ('/' :: '*' :: rest) = withoutComments after := by
  rw [withoutComments]
  split
  · next after' hafter =>
      rw [h] at hafter
      rw [Option.some.inj hafter]
  · next hnone =>
      rw [h] at hnone
      cases hnone

theorem withoutComments_of_none (h : afterComment? rest = none) :
    withoutComments ('/' :: '*' :: rest) = '/' :: '*' :: rest := by
  rw [withoutComments]
  split
  · next after hafter =>
      rw [h] at hafter
      cases hafter
  · rfl

theorem withoutComments_cons {x : Char} (h : ¬ commentStart <+: x :: t) :
    withoutComments (x :: t) = x :: withoutComments t := by
  rw [withoutComments]
  rintro r rfl rfl
  exact h ⟨r, rfl⟩

theorem beforeOpen?_of_some (h : afterComment? rest = some after) :
    beforeOpen? ('/' :: '*' :: rest) = beforeOpen? after := by
  rw [beforeOpen?]
  split
  · next after' hafter =>
      rw [h] at hafter
      rw [Option.some.inj hafter]
  · next hnone =>
      rw [h] at hnone
      cases hnone

theorem beforeOpen?_of_none (h : afterComment? rest = none) :
    beforeOpen? ('/' :: '*' :: rest) = some [] := by
  rw [beforeOpen?]
  split
  · next after hafter =>
      rw [h] at hafter
      cases hafter
  · rfl

theorem beforeOpen?_cons {x : Char} (h : ¬ commentStart <+: x :: t) :
    beforeOpen? (x :: t) = (beforeOpen? t).map (x :: ·) := by
  rw [beforeOpen?]
  rintro r rfl rfl
  exact h ⟨r, rfl⟩

/-- The three things that a text may begin with: nothing, a block comment, or another character. -/
theorem comment_induction {P : Text → Prop} (nil : P [])
    (ended : ∀ {rest after}, afterComment? rest = some after → P after → P ('/' :: '*' :: rest))
    (unended : ∀ {rest}, afterComment? rest = none → P ('/' :: '*' :: rest))
    (other : ∀ {x t}, ¬ commentStart <+: x :: t → P t → P (x :: t)) (t : Text) : P t := by
  induction t using withoutComments.induct with
  | case1 => exact nil
  | case2 rest after h ih => exact ended h ih
  | case3 rest h => exact unended h
  | case4 x t hnot ih =>
      refine other ?_ ih
      rintro ⟨r, hr⟩
      obtain ⟨rfl, rfl⟩ := List.cons.inj hr
      exact hnot r rfl rfl

theorem withoutComments_of_no_start (h : ¬ commentStart <:+: t) : withoutComments t = t := by
  induction t with
  | nil => rw [withoutComments]
  | cons x t ih =>
      rw [List.infix_cons_iff, not_or] at h
      rw [withoutComments_cons h.1, ih h.2]

theorem withoutComments_of_not_mem (h : '/' ∉ t) : withoutComments t = t :=
  withoutComments_of_no_start fun hstart => h (hstart.subset List.mem_cons_self)

theorem leavesOpen_of_no_start (h : ¬ commentStart <:+: t) : leavesOpen t = false := by
  unfold leavesOpen
  induction t with
  | nil => rw [beforeOpen?]; rfl
  | cons x t ih =>
      rw [List.infix_cons_iff, not_or] at h
      rw [beforeOpen?_cons h.1, Option.isSome_map, ih h.2]

theorem withoutComments_of_no_end (h : afterComment? t = none) : withoutComments t = t := by
  induction t using comment_induction with
  | nil => rw [withoutComments]
  | @ended rest after hsome =>
      have hpart : rest <:+: '/' :: '*' :: rest := (List.suffix_append ['/', '*'] rest).isInfix
      have hnone := afterComment?_eq_none_iff.mpr fun hend =>
        afterComment?_eq_none_iff.mp h (hend.trans hpart)
      rw [hsome] at hnone
      cases hnone
  | unended hnone => exact withoutComments_of_none hnone
  | other hnot ih =>
      rw [afterComment?_eq_none_iff, List.infix_cons_iff, not_or] at h
      rw [withoutComments_cons hnot, ih (afterComment?_eq_none_iff.mpr h.2)]

theorem withoutComments_subset (t : Text) : withoutComments t ⊆ t := by
  induction t using comment_induction with
  | nil =>
      rw [withoutComments]
      exact List.Subset.refl []
  | @ended rest after h ih =>
      rw [withoutComments_of_some h]
      have hpart : after ⊆ '/' :: '*' :: rest :=
        List.Subset.trans (suffix_of_afterComment? h).subset
          (List.suffix_append ['/', '*'] rest).subset
      exact List.Subset.trans ih hpart
  | unended h =>
      rw [withoutComments_of_none h]
      exact List.Subset.refl _
  | other hnot ih =>
      rw [withoutComments_cons hnot]
      exact List.cons_subset_cons _ ih

theorem beforeOpen?_subset {kept : Text} (h : beforeOpen? t = some kept) : kept ⊆ t := by
  induction t using comment_induction generalizing kept with
  | nil =>
      rw [beforeOpen?] at h
      cases h
  | @ended rest after hsome ih =>
      rw [beforeOpen?_of_some hsome] at h
      have hpart : after ⊆ '/' :: '*' :: rest :=
        List.Subset.trans (suffix_of_afterComment? hsome).subset
          (List.suffix_append ['/', '*'] rest).subset
      exact List.Subset.trans (ih h) hpart
  | unended hnone =>
      rw [beforeOpen?_of_none hnone] at h
      obtain rfl := Option.some.inj h
      exact List.nil_subset _
  | other hnot ih =>
      rw [beforeOpen?_cons hnot, Option.map_eq_some_iff] at h
      obtain ⟨kept, hkept, rfl⟩ := h
      exact List.cons_subset_cons _ (ih hkept)

/-- **Two texts that a line feed joins.**  A block comment that the first leaves open ends where one
ends in the second; otherwise their comments are their own. -/
theorem withoutComments_append_lineFeed (t u : Text) :
    withoutComments (t ++ '\n' :: u) = match beforeOpen? t, afterComment? u with
      | some kept, some after => kept ++ withoutComments after
      | _, _ => withoutComments t ++ '\n' :: withoutComments u := by
  have hfeed : withoutComments ('\n' :: u) = '\n' :: withoutComments u := 
    withoutComments_cons (by rintro ⟨r, ⟨⟩⟩)
  induction t using comment_induction with
  | nil => rw [List.nil_append, hfeed, withoutComments, beforeOpen?]; rfl
  | ended h ih =>
      rw [beforeOpen?_of_some h, withoutComments_of_some h, ← ih]
      exact withoutComments_of_some (afterComment?_append h _)
  | @unended rest h =>
      rw [beforeOpen?_of_none h, withoutComments_of_none h]
      have hrest := afterComment?_append_lineFeed h u
      cases hu : afterComment? u with
      | some after => exact withoutComments_of_some (hrest.trans hu)
      | none =>
          rw [withoutComments_of_no_end hu]
          exact withoutComments_of_none (hrest.trans hu)
  | @other x t hnot ih =>
      have hnot' : ¬ commentStart <+: x :: (t ++ '\n' :: u) := by
        rintro ⟨r, hr⟩
        refine hnot ?_
        cases t with
        | nil => cases hr
        | cons y t =>
            cases hr
            exact ⟨t, rfl⟩
      rw [beforeOpen?_cons hnot, withoutComments_cons hnot, List.cons_append, withoutComments_cons hnot',
        ih]
      cases beforeOpen? t <;> cases afterComment? u <;> rfl

/-! ### Lines -/

/-- The names of the files that some lines include. -/
def namesIn (ls : List Text) : List Text := ls.filterMap fun line => included? (Text.trim line)

theorem names_eq (t : Text) : names t = namesIn (Text.lines (withoutComments t)) := rfl

theorem namesIn_append (ls ms : List Text) : namesIn (ls ++ ms) = namesIn ls ++ namesIn ms :=
  List.filterMap_append

theorem namesIn_append_lineFeed (t u : Text) :
    namesIn (Text.lines (t ++ '\n' :: u)) = namesIn (Text.lines t) ++ namesIn (Text.lines u) := by
  obtain ⟨gap, hgap, hlines⟩ := Text.lines_append_lineFeed t u
  have hnone : namesIn gap = [] := by
    rcases hgap with rfl | rfl <;> rfl
  rw [hlines, namesIn_append, namesIn_append, hnone, List.nil_append]

/-- Texts that a line feed joins include what they include each, unless a comment goes over it. -/
theorem names_append_lineFeed (h : leavesOpen t = false ∨ afterComment? u = none) :
    names (t ++ '\n' :: u) = names t ++ names u := by
  have happart : withoutComments (t ++ '\n' :: u) = withoutComments t ++ '\n' :: withoutComments u := by
    rw [withoutComments_append_lineFeed]
    unfold leavesOpen at h
    cases hopen : beforeOpen? t <;> cases hend : afterComment? u <;> simp_all
  rw [names_eq, happart]
  exact namesIn_append_lineFeed _ _

theorem namesIn_slash (l : Text) (ls : List Text) : namesIn (('/' :: l) :: ls) = namesIn ls := by
  have hnone : included? (Text.trim ('/' :: l)) = none := by
    have hblank : Text.isBlank '/' = false := by decide
    rw [Text.trim, Text.trimStart_of_head (by simpa using hblank), Text.trimEnd_cons hblank]
    rfl
  exact List.filterMap_cons_none hnone

/-- Of what is joined to a line that begins with a slash, the first line is lost. -/
theorem namesIn_slash_append {l : Text} (hl : ∀ x ∈ l, Text.isLineBreak x = false) (u : Text) :
    namesIn (Text.lines ('/' :: l ++ u)) = namesIn (Text.lines u).tail := by
  have hslash : Text.IsLine ('/' :: l) := by
    refine ⟨List.cons_ne_nil _ _, ?_⟩
    rw [List.forall_mem_cons]
    exact ⟨by decide, hl⟩
  rw [Text.lines_append_of_isLine hslash, List.cons_append, namesIn_slash]

/-! ### A line comment -/

/-- A line comment begins no block comment with its slashes alone. -/
theorem not_prefix_slashes (c : Text) : ¬ commentStart <+: '/' :: '/' :: c := by
  rintro ⟨r, ⟨⟩⟩

theorem leavesOpen_slashes (c : Text) : leavesOpen ('/' :: '/' :: c) = leavesOpen ('/' :: c) := by
  unfold leavesOpen
  rw [beforeOpen?_cons (not_prefix_slashes c), Option.isSome_map]

theorem names_slashes {c : Text} (hc : ∀ x ∈ c, Text.isLineBreak x = false) :
    names ('/' :: '/' :: c) = [] := by
  have hrest : ∀ x ∈ withoutComments ('/' :: c), Text.isLineBreak x = false := by
    intro x hx
    rcases List.mem_cons.mp (withoutComments_subset _ hx) with rfl | hx
    · decide
    · exact hc x hx
  have hline := namesIn_slash_append hrest []
  rw [List.append_nil] at hline
  rw [names_eq, withoutComments_cons (not_prefix_slashes c), hline]
  rfl

/-- A line comment that leaves a block comment open loses what stands up to the end of this one, and
what follows on the line of that end. -/
theorem names_slashes_append_lineFeed {c u : Text} (hc : ∀ x ∈ c, Text.isLineBreak x = false)
    (hopen : leavesOpen ('/' :: c) = true) (hafter : afterComment? u = some after) :
    names ('/' :: '/' :: c ++ '\n' :: u) = namesIn (Text.lines (withoutComments after)).tail := by
  obtain ⟨kept, hkept⟩ := Option.isSome_iff_exists.mp hopen
  have hline : ∀ x ∈ kept, Text.isLineBreak x = false := by
    intro x hx
    rcases List.mem_cons.mp (beforeOpen?_subset hkept hx) with rfl | hx
    · decide
    · exact hc x hx
  rw [names_eq, withoutComments_append_lineFeed, beforeOpen?_cons (not_prefix_slashes c), hkept, hafter]
  exact namesIn_slash_append hline _

/-- **A comment on a line of its own.**  Where no block comment begins in the line that ends below,
the line neither hides an include nor adds one.  Otherwise all is hidden up to this end and to the
end of its line. -/
theorem names_around_lineComment {a c b : Text} (ha : ¬ commentStart <:+: a)
    (hc : ∀ x ∈ c, Text.isLineBreak x = false) :
    (¬ (commentStart <:+: '/' :: c ∧ commentEnd <:+: b) →
      names (a ++ '\n' :: '/' :: '/' :: c ++ '\n' :: b) = names a ++ names b) ∧
    (leavesOpen ('/' :: c) = false →
      names (a ++ '\n' :: '/' :: '/' :: c ++ '\n' :: b) = names a ++ names b) ∧
    (leavesOpen ('/' :: c) = true → ∀ after, afterComment? b = some after →
      names (a ++ '\n' :: '/' :: '/' :: c ++ '\n' :: b) =
        names a ++ namesIn (Text.lines (withoutComments after)).tail) := by
  have hwhole : names (a ++ '\n' :: '/' :: '/' :: c ++ '\n' :: b) =
      names a ++ names ('/' :: '/' :: c ++ '\n' :: b) := by
    rw [List.append_assoc, List.cons_append]
    exact names_append_lineFeed (.inl (leavesOpen_of_no_start ha))
  have hinert : leavesOpen ('/' :: c) = false ∨ afterComment? b = none →
      names (a ++ '\n' :: '/' :: '/' :: c ++ '\n' :: b) = names a ++ names b := by
    intro h
    rw [hwhole, names_append_lineFeed (by rwa [leavesOpen_slashes]), names_slashes hc, List.nil_append]
  refine ⟨fun hnot => hinert ?_, fun h => hinert (.inl h), fun hopen after hafter => ?_⟩
  · rcases not_and_or.mp hnot with hstart | hend
    · exact .inl (leavesOpen_of_no_start hstart)
    · exact .inr (afterComment?_eq_none_iff.mpr hend)
  · rw [hwhole, names_slashes_append_lineFeed hc hopen hafter]

/-- A block comment that begins and ends in the line does no harm, and what it holds is not included. -/
theorem names_around_lineComment_of_ended :
    ¬ commentStart <:+: "#include <One.mqh>".toList ∧
    (∀ x ∈ " /* one */ #include <Two.mqh>".toList, Text.isLineBreak x = false) ∧
    leavesOpen "/ /* one */ #include <Two.mqh>" = false ∧
    names "#include <One.mqh>\n// /* one */ #include <Two.mqh>\n#include <Three.mqh>\n/**/" =
      ["One.mqh".toList, "Three.mqh".toList] := by
  have hone : ¬ commentStart <:+: "#include <One.mqh>".toList := by decide
  have hline : ∀ x ∈ " /* one */ #include <Two.mqh>".toList, Text.isLineBreak x = false :=
    Text.forall_mem_of_all (by decide)
  have hended : leavesOpen "/ /* one */ #include <Two.mqh>" = false := by decide +kernel
  have hthree : names "#include <One.mqh>" ++ names "#include <Three.mqh>\n/**/" =
      ["One.mqh".toList, "Three.mqh".toList] := by
    decide +kernel
  exact ⟨hone, hline, hended,
    ((names_around_lineComment hone hline).2.1 hended).trans hthree⟩

/-- A line comment in which a block comment begins hides the include below it. -/
theorem not_inert_of_openComment :
    ¬ commentStart <:+: ([] : Text) ∧
    (∀ x ∈ " see /*".toList, Text.isLineBreak x = false) ∧
    names "\n// see /*\n#include \"Lib.mqh\"\n/* end */" = [] ∧
    names [] ++ names "#include \"Lib.mqh\"\n/* end */" = ["Lib.mqh".toList] := by
  refine ⟨by decide, Text.forall_mem_of_all (by decide), ?_, ?_⟩ <;> decide +kernel

end MetaDesk.Include
