import MetaDesk.Text.Basic

/-! # Patterns

A pattern is a regular language of texts.  `fits` reads a text character by character and keeps the
pattern that the rest has to fit; `fits_iff` says that it decides the language `Holds`. -/

namespace MetaDesk

/-- A regular language of texts. -/
inductive Pattern where
  | never
  | done
  | one (p : Char → Bool)
  | seq (a b : Pattern)
  | alt (a b : Pattern)
  | many (a : Pattern)

namespace Pattern

/-- The text is in the language. -/
inductive Holds : Pattern → Text → Prop where
  | done : Holds .done []
  | one {p : Char → Bool} {c : Char} : p c = true → Holds (.one p) [c]
  | seq {a b : Pattern} {s t : Text} : Holds a s → Holds b t → Holds (.seq a b) (s ++ t)
  | altLeft {a b : Pattern} {t : Text} : Holds a t → Holds (.alt a b) t
  | altRight {a b : Pattern} {t : Text} : Holds b t → Holds (.alt a b) t
  | manyNil {a : Pattern} : Holds (.many a) []
  | manyCons {a : Pattern} {c : Char} {s t : Text} :
    Holds a (c :: s) → Holds (.many a) t → Holds (.many a) (c :: s ++ t)

/-- The empty text is in the language. -/
def takesNothing : Pattern → Bool
  | never => false
  | done => true
  | one _ => false
  | seq a b => a.takesNothing && b.takesNothing
  | alt a b => a.takesNothing || b.takesNothing
  | many _ => true

/-- One pattern after another, `never` being taken up. -/
def andThen : Pattern → Pattern → Pattern
  | never, _ => never
  | done, b => b
  | a, b => seq a b

/-- One pattern or another, `never` being left out. -/
def orElse : Pattern → Pattern → Pattern
  | never, b => b
  | a, never => a
  | a, b => alt a b

/-- What has to follow a character. -/
def after (c : Char) : Pattern → Pattern
  | never => never
  | done => never
  | one p => if p c then done else never
  | seq a b =>
    if a.takesNothing then orElse (andThen (a.after c) b) (b.after c)
    else andThen (a.after c) b
  | alt a b => orElse (a.after c) (b.after c)
  | many a => andThen (a.after c) (many a)

/-- The text fits the pattern. -/
def fits (r : Pattern) : Text → Bool
  | [] => r.takesNothing
  | c :: t => (r.after c).fits t

/-- Exactly one text. -/
def word : Text → Pattern
  | [] => done
  | c :: t => seq (one (· == c)) (word t)

/-- One of some texts. -/
def words (ts : List Text) : Pattern := ts.foldr (fun t r => alt (word t) r) never

/-- One of some characters. -/
def among (t : Text) : Pattern := one t.contains

/-- At most once. -/
def opt (a : Pattern) : Pattern := alt a done

/-- At least once. -/
def plus (a : Pattern) : Pattern := seq a (many a)

/-- Patterns one after the other. -/
def row (rs : List Pattern) : Pattern := rs.foldr seq done

/-- A pattern so many times. -/
def times (n : Nat) (a : Pattern) : Pattern := row (List.replicate n a)

/-- One of some patterns. -/
def any (rs : List Pattern) : Pattern := rs.foldr alt never

theorem takesNothing_iff (r : Pattern) : r.takesNothing = true ↔ Holds r [] := by
  induction r with
  | never => exact ⟨fun h => by simp [takesNothing] at h, fun h => nomatch h⟩
  | done => exact ⟨fun _ => .done, fun _ => rfl⟩
  | one p => exact ⟨fun h => by simp [takesNothing] at h, fun h => nomatch h⟩
  | seq a b iha ihb =>
    simp only [takesNothing, Bool.and_eq_true, iha, ihb]
    constructor
    · exact fun h => .seq h.1 h.2
    · intro h
      generalize ht : ([] : Text) = t at h
      cases h with
      | seq hs ht' =>
        obtain ⟨rfl, rfl⟩ := List.append_eq_nil_iff.1 ht.symm
        exact ⟨hs, ht'⟩
  | alt a b iha ihb =>
    simp only [takesNothing, Bool.or_eq_true, iha, ihb]
    constructor
    · rintro (h | h)
      · exact .altLeft h
      · exact .altRight h
    · intro h
      cases h with
      | altLeft h => exact Or.inl h
      | altRight h => exact Or.inr h
  | many a => exact ⟨fun _ => .manyNil, fun _ => rfl⟩

theorem holds_andThen_iff {a b : Pattern} {t : Text} :
    Holds (andThen a b) t ↔ Holds (seq a b) t := by
  cases a with
  | never =>
    simp only [andThen]
    constructor
    · intro h; exact nomatch h
    · intro h; cases h with | seq h _ => exact nomatch h
  | done =>
    simp only [andThen]
    constructor
    · exact fun h => .seq .done h
    · intro h; cases h with | seq h h' => cases h; exact h'
  | _ => rfl

theorem holds_orElse_iff {a b : Pattern} {t : Text} :
    Holds (orElse a b) t ↔ Holds a t ∨ Holds b t := by
  have halt : ∀ {a b : Pattern}, Holds (alt a b) t ↔ Holds a t ∨ Holds b t := by
    intro a b
    constructor
    · intro h
      cases h with
      | altLeft h => exact Or.inl h
      | altRight h => exact Or.inr h
    · rintro (h | h)
      · exact .altLeft h
      · exact .altRight h
  have hnever : ¬ Holds never t := fun h => nomatch h
  cases a <;> cases b <;> simp [orElse, halt, hnever]

theorem holds_after_iff {r : Pattern} {c : Char} {t : Text} :
    Holds (r.after c) t ↔ Holds r (c :: t) := by
  induction r generalizing t with
  | never => exact ⟨fun h => (nomatch h), fun h => (nomatch h)⟩
  | done => exact ⟨fun h => (nomatch h), fun h => (nomatch h)⟩
  | one p =>
    simp only [after]
    constructor
    · intro h
      split at h
      · next hp => cases h; exact .one hp
      · exact nomatch h
    · intro h
      cases h with
      | one hp => rw [if_pos hp]; exact .done
  | alt a b iha ihb =>
    simp only [after, holds_orElse_iff, iha, ihb]
    constructor
    · rintro (h | h)
      · exact .altLeft h
      · exact .altRight h
    · intro h
      cases h with
      | altLeft h => exact Or.inl h
      | altRight h => exact Or.inr h
  | seq a b iha ihb =>
    have hleft : ∀ {t}, Holds (andThen (a.after c) b) t → Holds (seq a b) (c :: t) := by
      intro t h
      rw [holds_andThen_iff] at h
      cases h with
      | seq hs ht => exact .seq (s := c :: _) (iha.1 hs) ht
    simp only [after]
    constructor
    · intro h
      split at h
      · next hn =>
        rcases holds_orElse_iff.1 h with h | h
        · exact hleft h
        · exact .seq (s := []) ((takesNothing_iff a).1 hn) (ihb.1 h)
      · exact hleft h
    · intro h
      generalize hu : c :: t = u at h
      cases h with
      | @seq _ _ s t' hs ht =>
        cases s with
        | nil =>
          rw [if_pos ((takesNothing_iff a).2 hs)]
          simp only [List.nil_append] at hu
          subst hu
          exact holds_orElse_iff.2 (Or.inr (ihb.2 ht))
        | cons d s =>
          simp only [List.cons_append, List.cons.injEq] at hu
          obtain ⟨rfl, rfl⟩ := hu
          have : Holds (andThen (a.after c) b) (s ++ t') :=
            holds_andThen_iff.2 (.seq (iha.2 hs) ht)
          split
          · exact holds_orElse_iff.2 (Or.inl this)
          · exact this
  | many a iha =>
    simp only [after, holds_andThen_iff]
    constructor
    · intro h
      cases h with
      | seq hs ht => exact .manyCons (iha.1 hs) ht
    · intro h
      generalize hu : c :: t = u at h
      cases h with
      | manyNil => exact nomatch hu
      | manyCons hs ht =>
        simp only [List.cons_append, List.cons.injEq] at hu
        obtain ⟨rfl, rfl⟩ := hu
        exact .seq (iha.2 hs) ht

theorem fits_iff {r : Pattern} {t : Text} : r.fits t = true ↔ Holds r t := by
  induction t generalizing r with
  | nil => exact takesNothing_iff r
  | cons c t ih => rw [fits, ih, holds_after_iff]

end Pattern

end MetaDesk
