import MetaDesk.Proofs.Path.Reading
import MetaDesk.Proofs.Text.AnyCase

/-! # Pieces of texts

A character that is not in a piece divides the search for it (`infix_append_cons_iff`), so a piece
without slashes that is in a path is in one of its names.  Replacing a piece leaves none behind, not
even where what is written in and what was there before meet, when the piece and its replacement
have no first character of the other in them (`not_infix_replaceAll`). -/

namespace MetaDesk.Text

variable {piece value t : Text} {p v : Char}

/-! ### Pieces that are in a text -/

theorem infix_of_infix_append {a b : Text} (hp : p ∉ a) (h : p :: piece <:+: a ++ b) :
    p :: piece <:+: b := by
  induction a with
  | nil => exact h
  | cons c a ih =>
      rw [List.mem_cons, not_or] at hp
      rw [List.cons_append, List.infix_cons_iff] at h
      rcases h with hprefix | hinfix
      · exact absurd (List.cons_prefix_cons.mp hprefix).1 hp.1
      · exact ih hp.2 hinfix

theorem prefix_of_prefix_append_cons {c : Char} {a b : Text} (hc : c ∉ piece)
    (h : piece <+: a ++ c :: b) : piece <+: a := by
  rcases List.prefix_or_prefix_of_prefix h (List.prefix_append a _) with hprefix | ⟨rest, rfl⟩
  · exact hprefix
  · cases rest with
    | nil => rw [List.append_nil]
    | cons d rest =>
        obtain ⟨rfl, -⟩ := List.cons_prefix_cons.mp ((List.prefix_append_right_inj a).mp h)
        exact absurd (List.mem_append_right a List.mem_cons_self) hc

theorem infix_of_infix_cons {c : Char} (hc : c ∉ piece) (h : piece <:+: c :: t) : piece <:+: t := by
  rcases List.infix_cons_iff.mp h with hprefix | hinfix
  · rw [List.prefix_nil.mp (prefix_of_prefix_append_cons (a := []) hc hprefix)]
    exact List.nil_infix
  · exact hinfix

theorem infix_append_cons_iff {c : Char} {a b : Text} (hc : c ∉ piece) :
    piece <:+: a ++ c :: b ↔ piece <:+: a ∨ piece <:+: b := by
  constructor
  · intro h
    induction a with
    | nil => exact Or.inr (infix_of_infix_cons hc h)
    | cons d a ih =>
        rcases List.infix_cons_iff.mp h with hprefix | hinfix
        · exact Or.inl (prefix_of_prefix_append_cons (a := d :: a) hc hprefix).isInfix
        · exact (ih hinfix).imp_left fun ha => List.infix_cons_iff.mpr (Or.inr ha)
  · rintro (ha | hb)
    · exact ha.trans (List.prefix_append a _).isInfix
    · exact hb.trans ((List.suffix_cons c b).trans (List.suffix_append a _)).isInfix

/-- A piece is in a text just when it is in one of the parts between occurrences of a character
that it does not have. -/
theorem infix_joinWith_iff {c : Char} {ts : List Text} (hc : c ∉ piece) (hne : piece ≠ []) :
    piece <:+: joinWith [c] ts ↔ ∃ t ∈ ts, piece <:+: t := by
  induction ts with
  | nil => simp [joinWith, hne]
  | cons t ts ih =>
      cases ts with
      | nil => simp [joinWith]
      | cons u ts =>
          rw [joinWith, List.append_assoc, List.singleton_append, infix_append_cons_iff hc, ih]
          simp only [List.mem_cons, exists_eq_or_imp]

/-! ### What replacing leaves -/

/-- Up to the first character that is written in, the text is as it was before. -/
theorem prefix_of_prefix_replaceAll {q : Text} (hv : v ∉ q)
    (h : q <+: replaceAll piece (v :: value) t) : q <+: t := by
  unfold replaceAll at h
  induction t generalizing q with
  | nil => exact h
  | cons c t ih =>
      cases q with
      | nil => exact List.nil_prefix
      | cons d q =>
          rw [List.mem_cons, not_or] at hv
          rw [replaceFrom] at h
          split at h
          · exact absurd (List.cons_prefix_cons.mp h).1.symm hv.1
          · obtain ⟨rfl, hrest⟩ := List.cons_prefix_cons.mp h
            exact List.cons_prefix_cons.mpr ⟨rfl, ih hv.2 hrest⟩

/-- Replacing a piece leaves none. -/
theorem not_infix_replaceAll (hp : p ∉ v :: value) (hv : v ∉ p :: piece) (t : Text) :
    ¬ p :: piece <:+: replaceAll (p :: piece) (v :: value) t := by
  have hfrom : ∀ (t : Text) (skip : ℕ),
      ¬ p :: piece <:+: replaceFrom (p :: piece) (v :: value) skip t := by
    intro t
    induction t with
    | nil => simp [replaceFrom]
    | cons c t ih =>
        intro skip h
        cases skip with
        | succ skip => exact ih skip h
        | zero =>
            rw [replaceFrom] at h
            split at h
            · exact ih _ (infix_of_infix_append hp h)
            · next hhere =>
                rcases List.infix_cons_iff.mp h with hprefix | hinfix
                · obtain ⟨rfl, hrest⟩ := List.cons_prefix_cons.mp hprefix
                  have hpiece : v ∉ piece := List.not_mem_of_not_mem_cons hv
                  have hbefore : p :: piece <+: p :: t :=
                    List.cons_prefix_cons.mpr ⟨rfl, prefix_of_prefix_replaceAll hpiece hrest⟩
                  exact hhere (List.isPrefixOf_iff_prefix.mpr hbefore)
                · exact ih 0 hinfix
  exact hfrom t 0

theorem replaceAll_append_cons (value : Text) {c : Char} {a : Text} (hc : c ∉ piece)
    (hne : piece ≠ []) (ha : ¬ piece <:+: a) (rest : Text) :
    replaceAll piece value (a ++ c :: rest) = a ++ c :: replaceAll piece value rest := by
  unfold replaceAll
  induction a with
  | nil =>
      have hhere : piece.isPrefixOf (c :: rest) = false := by
        rw [Bool.eq_false_iff, ne_eq, List.isPrefixOf_iff_prefix]
        exact fun h => hne (List.prefix_nil.mp (prefix_of_prefix_append_cons (a := []) hc h))
      rw [List.nil_append, replaceFrom, hhere, if_neg Bool.false_ne_true, List.nil_append]
  | cons d a ih =>
      rw [List.infix_cons_iff, not_or] at ha
      have hhere : piece.isPrefixOf (d :: (a ++ c :: rest)) = false := by
        rw [Bool.eq_false_iff, ne_eq, List.isPrefixOf_iff_prefix]
        exact fun h => ha.1 (prefix_of_prefix_append_cons (a := d :: a) hc h)
      rw [List.cons_append, replaceFrom, hhere, if_neg Bool.false_ne_true, ih ha.2,
        List.cons_append]

end MetaDesk.Text
