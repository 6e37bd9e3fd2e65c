import MetaDesk.Text.Letter
import Mathlib.Data.List.Infix
import Mathlib.Tactic.SplitIfs

/-! # Words in any case

What it means for a text to hold a word in any case, apart from how it is looked for: a longer word
brings its parts along (`holdsAnyCase_of_part`), a character that fits no letter of the word
divides the search (`holdsAnyCase_append_cons`), and a word that is found in the lower form of a
text is found in the text in any case (`holdsAnyCase_of_holds_lower`). -/

namespace MetaDesk.Text

/-! ### Fixed pieces -/

theorem holds_iff {piece t : Text} : holds piece t = true ↔ piece <:+: t := by
  induction t with
  | nil => simp [holds]
  | cons c t ih => simp [holds, ih, List.infix_cons_iff]

/-- A search fails when nothing can be read anywhere. -/
theorem search_eq_none {α : Type} {f : Text → Option α} {t : Text}
    (h : ∀ s, s <:+ t → f s = none) : search f t = none := by
  induction t with
  | nil => exact h [] (List.suffix_refl [])
  | cons c t ih =>
      simp only [search, h (c :: t) (List.suffix_refl _)]
      exact ih fun s hs => h s (hs.trans (List.suffix_cons c t))

theorem eq_none_of_search_eq_none {α : Type} {f : Text → Option α} {t s : Text}
    (h : search f t = none) (hs : s <:+ t) : f s = none := by
  induction t with
  | nil =>
      rw [List.suffix_nil.mp hs]
      exact h
  | cons c t ih =>
      rw [search] at h
      split at h
      · cases h
      · next hnone =>
          rcases List.suffix_cons_iff.mp hs with rfl | hs
          · exact hnone
          · exact ih h hs

/-- A search finds what can be read at the leftmost place where anything can. -/
theorem search_eq_some_iff {α : Type} {f : Text → Option α} {t : Text} {a : α} :
    search f t = some a ↔
      ∃ u s, t = u ++ s ∧ f s = some a ∧ ∀ s', s' <:+ t → s.length < s'.length → f s' = none := by
  induction t with
  | nil =>
      simp only [search, List.suffix_nil, List.nil_eq_append_iff]
      constructor
      · intro h
        exact ⟨[], [], ⟨rfl, rfl⟩, h, by rintro s' rfl hlt; exact absurd hlt (lt_irrefl 0)⟩
      · rintro ⟨u, s, ⟨-, rfl⟩, hs, -⟩
        exact hs
  | cons c t ih =>
      rw [search]
      split
      · next b hb =>
          constructor
          · rintro ⟨⟩
            refine ⟨[], c :: t, rfl, hb, fun s' hs' hlt => ?_⟩
            have := hs'.length_le
            omega
          · rintro ⟨u, s, ht, hs, hfirst⟩
            cases u with
            | nil =>
                rw [List.nil_append] at ht
                rw [← hb, ht, hs]
            | cons d u =>
                have hlt : s.length < (c :: t).length := by
                  rw [ht, List.length_append, List.length_cons]
                  omega
                rw [hfirst (c :: t) (List.suffix_refl _) hlt] at hb
                cases hb
      · next hnone =>
          rw [ih]
          constructor
          · rintro ⟨u, s, rfl, hs, hfirst⟩
            refine ⟨c :: u, s, rfl, hs, fun s' hs' hlt => ?_⟩
            rcases List.suffix_cons_iff.mp hs' with rfl | hs'
            · exact hnone
            · exact hfirst s' hs' hlt
          · rintro ⟨u, s, ht, hs, hfirst⟩
            cases u with
            | nil =>
                rw [List.nil_append] at ht
                rw [ht, hs] at hnone
                cases hnone
            | cons d u =>
                obtain ⟨rfl, rfl⟩ := List.cons.inj ht
                exact ⟨u, s, rfl, hs, fun s' hs' => hfirst s' (hs'.trans (List.suffix_cons _ _))⟩

/-- A search goes on past a part of the text in which nothing can be read. -/
theorem search_skip {α : Type} {f : Text → Option α} {u t : Text}
    (h : ∀ s, s <:+ u → s ≠ [] → f (s ++ t) = none) : search f (u ++ t) = search f t := by
  induction u with
  | nil => rfl
  | cons c u ih =>
      have hhere := h (c :: u) (List.suffix_refl _) (List.cons_ne_nil c u)
      rw [List.cons_append] at hhere
      rw [List.cons_append, search, hhere]
      exact ih fun s hs => h s (hs.trans (List.suffix_cons c u))

/-- Where nothing is read across the end of a part, the first thing is found in the part or behind
it. -/
theorem search_append {α : Type} {f : Text → Option α} {t : Text} (ht : t ≠ [])
    (hf : ∀ s, f (s ++ t) = f s) (u : Text) : search f (u ++ t) = (search f u).or (search f t) := by
  induction u with
  | nil =>
      obtain ⟨c, t, rfl⟩ := List.exists_cons_of_ne_nil ht
      have hhere := hf []
      rw [List.nil_append] at hhere
      rw [List.nil_append, search, search, hhere]
      cases f [] <;> rfl
  | cons c u ih =>
      have hhere := hf (c :: u)
      rw [List.cons_append] at hhere
      rw [List.cons_append, search, search, hhere, ih]
      cases f (c :: u) <;> rfl

/-! ### Pieces in any case -/

theorem afterAnyCase?_append (u v t : Text) :
    afterAnyCase? (u ++ v) t = (afterAnyCase? u t).bind (afterAnyCase? v) := by
  induction u generalizing t with
  | nil => rfl
  | cons p u ih =>
      cases t with
      | nil => rfl
      | cons c t =>
          simp only [List.cons_append, afterAnyCase?]
          split_ifs
          · exact ih t
          · rfl

/-- What is passed over is the piece in some case. -/
theorem afterAnyCase?_eq_some_iff {u t r : Text} : afterAnyCase? u t = some r ↔
    ∃ mark, t = mark ++ r ∧ List.Forall₂ (fun p c => sameLetter p c = true) u mark := by
  induction u generalizing t with
  | nil =>
      constructor
      · rintro ⟨⟩
        exact ⟨[], rfl, .nil⟩
      · rintro ⟨mark, rfl, hsame⟩
        cases hsame
        rfl
  | cons p u ih =>
      cases t with
      | nil =>
          refine iff_of_false (by simp [afterAnyCase?]) ?_
          rintro ⟨mark, hmark, hsame⟩
          cases hsame
          cases hmark
      | cons c t =>
          rw [afterAnyCase?]
          constructor
          · intro h
            split_ifs at h with hletter
            obtain ⟨mark, rfl, hsame⟩ := ih.mp h
            exact ⟨c :: mark, rfl, .cons hletter hsame⟩
          · rintro ⟨mark, hmark, hsame⟩
            cases hsame with
            | cons hletter hrest =>
                obtain ⟨rfl, rfl⟩ := List.cons.inj hmark
                rw [if_pos hletter]
                exact ih.mpr ⟨_, rfl, hrest⟩

theorem suffix_of_afterAnyCase? {u t r : Text} (h : afterAnyCase? u t = some r) : r <:+ t := by
  induction u generalizing t with
  | nil =>
      obtain rfl : t = r := Option.some.inj h
      exact List.suffix_refl t
  | cons p u ih =>
      cases t with
      | nil => simp [afterAnyCase?] at h
      | cons c t =>
          simp only [afterAnyCase?] at h
          split_ifs at h
          exact (ih h).trans (List.suffix_cons c t)

theorem holdsAnyCase_of_afterAnyCase? {piece t : Text} (h : (afterAnyCase? piece t).isSome = true) :
    holdsAnyCase piece t = true := by
  cases t with
  | nil =>
      cases piece with
      | nil => rfl
      | cons p piece => simp [afterAnyCase?] at h
  | cons c t => simp [holdsAnyCase, h]

theorem holdsAnyCase_of_suffix {piece s t : Text} (hs : s <:+ t)
    (h : holdsAnyCase piece s = true) : holdsAnyCase piece t = true := by
  obtain ⟨u, rfl⟩ := hs
  induction u with
  | nil => exact h
  | cons c u ih => simp [holdsAnyCase, ih]

theorem holdsAnyCase_iff {piece t : Text} :
    holdsAnyCase piece t = true ↔ ∃ s, s <:+ t ∧ (afterAnyCase? piece s).isSome = true := by
  constructor
  · intro h
    induction t with
    | nil =>
        rw [holdsAnyCase, List.isEmpty_iff] at h
        exact ⟨[], List.suffix_refl [], by rw [h]; rfl⟩
    | cons c t ih =>
        rw [holdsAnyCase, Bool.or_eq_true] at h
        rcases h with h | h
        · exact ⟨c :: t, List.suffix_refl _, h⟩
        · obtain ⟨s, hs, hsome⟩ := ih h
          exact ⟨s, hs.trans (List.suffix_cons c t), hsome⟩
  · rintro ⟨s, hs, hsome⟩
    exact holdsAnyCase_of_suffix hs (holdsAnyCase_of_afterAnyCase? hsome)

/-- A text that holds a piece holds every part of the piece. -/
theorem holdsAnyCase_of_part {part piece t : Text} (hpart : part <:+: piece)
    (h : holdsAnyCase piece t = true) : holdsAnyCase part t = true := by
  obtain ⟨u, v, rfl⟩ := hpart
  obtain ⟨s, hs, hsome⟩ := holdsAnyCase_iff.mp h
  obtain ⟨last, hend⟩ := Option.isSome_iff_exists.mp hsome
  rw [List.append_assoc, afterAnyCase?_append] at hend
  obtain ⟨r, hr, hend⟩ := Option.bind_eq_some_iff.mp hend
  rw [afterAnyCase?_append] at hend
  obtain ⟨r', hr', -⟩ := Option.bind_eq_some_iff.mp hend
  refine holdsAnyCase_iff.mpr ⟨r, (suffix_of_afterAnyCase? hr).trans hs, ?_⟩
  rw [hr']
  rfl

/-! ### Characters outside a word -/

theorem isSome_afterAnyCase?_append_cons {piece : Text} {x : Char}
    (hx : ∀ q ∈ piece, sameLetter q x = false) (a b : Text) :
    (afterAnyCase? piece (a ++ x :: b)).isSome = (afterAnyCase? piece a).isSome := by
  induction piece generalizing a with
  | nil => rfl
  | cons q piece ih =>
      have hq := hx q List.mem_cons_self
      cases a with
      | nil => simp [afterAnyCase?, hq]
      | cons c a =>
          simp only [List.cons_append, afterAnyCase?]
          split_ifs
          · exact ih (fun r hr => hx r (List.mem_cons_of_mem q hr)) a
          · rfl

/-- A word that cannot go across a character is found on one of its sides. -/
theorem holdsAnyCase_append_cons {piece : Text} {x : Char} (hne : piece ≠ [])
    (hx : ∀ q ∈ piece, sameLetter q x = false) (a b : Text) :
    holdsAnyCase piece (a ++ x :: b) = (holdsAnyCase piece a || holdsAnyCase piece b) := by
  induction a with
  | nil =>
      have hstart := isSome_afterAnyCase?_append_cons hx [] b
      cases piece with
      | nil => exact absurd rfl hne
      | cons q piece =>
          rw [List.nil_append] at hstart
          rw [List.nil_append, holdsAnyCase.eq_2, hstart]
          rfl
  | cons c a ih =>
      have hstart := isSome_afterAnyCase?_append_cons hx (c :: a) b
      rw [List.cons_append] at hstart
      rw [List.cons_append, holdsAnyCase, hstart, ih, holdsAnyCase, Bool.or_assoc]

theorem holdsAnyCase_cons {piece : Text} {x : Char} (hne : piece ≠ [])
    (hx : ∀ q ∈ piece, sameLetter q x = false) (t : Text) :
    holdsAnyCase piece (x :: t) = holdsAnyCase piece t := by
  have := holdsAnyCase_append_cons hne hx [] t
  cases piece with
  | nil => exact absurd rfl hne
  | cons q piece => simpa [holdsAnyCase] using this

theorem holdsAnyCase_eq_false_of_forall {piece t : Text} (hne : piece ≠ [])
    (ht : ∀ c ∈ t, ∀ q ∈ piece, sameLetter q c = false) : holdsAnyCase piece t = false := by
  induction t with
  | nil => simpa [holdsAnyCase] using hne
  | cons c t ih =>
      rw [holdsAnyCase_cons hne (ht c List.mem_cons_self)]
      exact ih fun d hd => ht d (List.mem_cons_of_mem c hd)

/-! ### Lower forms -/

theorem isUpper_iff {c : Char} : c.isUpper = true ↔ 0x41 ≤ c.toNat ∧ c.toNat ≤ 0x5A :=
  decide_eq_true_iff (p := 'A'.val ≤ c.val ∧ c.val ≤ 'Z'.val)

theorem isLower_iff {c : Char} : c.isLower = true ↔ 0x61 ≤ c.toNat ∧ c.toNat ≤ 0x7A := by
  change (decide ('a'.val ≤ c.val) && decide (c.val ≤ 'z'.val)) = true ↔ _
  rw [Bool.and_eq_true, decide_eq_true_iff, decide_eq_true_iff]
  rfl

theorem toLower_of_isLower {c : Char} (h : c.isLower = true) : c.toLower = c := by
  have hlower := isLower_iff.mp h
  unfold Char.toLower
  rw [dif_neg]
  intro hupper
  have := isUpper_iff.mp (decide_eq_true hupper)
  omega

theorem toNat_ofNat_of_le {n : Nat} (h : 0x80 ≤ n) :
    (Char.ofNat n).toNat = 0 ∨ 0x80 ≤ (Char.ofNat n).toNat := by
  by_cases hvalid : n.isValidChar
  · right
    unfold Char.ofNat
    rw [dif_pos hvalid]
    exact h
  · left
    unfold Char.ofNat
    rw [dif_neg hvalid]
    rfl

/-- Lower forms of characters outside ASCII are outside too, but for that of the kelvin sign. -/
theorem lowerRuns_outside : ∀ run ∈ lowerRuns,
    0x80 ≤ (run.first : Int) + run.shift ∨ run.first = 0x212A ∧ run.last = 0x212A := by
  decide +kernel

theorem shiftBy_lowerRuns {n : Nat} (h : 0x80 ≤ n) : 0x80 ≤ shiftBy lowerRuns n ∨ n = 0x212A := by
  unfold shiftBy
  split
  · next run hrun =>
      have hholds := List.find?_some hrun
      simp only [CaseRun.holds, Bool.and_eq_true, decide_eq_true_eq] at hholds
      rcases lowerRuns_outside run (List.mem_of_find?_eq_some hrun) with hout | hkelvin
      · left
        omega
      · right
        omega
  · exact Or.inl h

/-- A character of ASCII, but for the null. -/
def IsAscii (c : Char) : Prop := 0 < c.toNat ∧ c.toNat < 0x80

instance (c : Char) : Decidable (IsAscii c) := inferInstanceAs (Decidable (_ ∧ _))

/-- A character with an ASCII character for its lower form is that one in some case, or the kelvin
sign. -/
theorem toLower_of_lowerChar {p c : Char} (hp : IsAscii p) (h : lowerChar c = [p]) :
    c.toLower = p ∨ p = 'k' ∧ c.toNat = 0x212A := by
  unfold lowerChar at h
  split_ifs at h with hascii hdot
  · left
    simpa using h
  · simp at h
  · have hc : Char.ofNat (shiftBy lowerRuns c.toNat) = p := by simpa using h
    rcases shiftBy_lowerRuns (n := c.toNat) (by omega) with hout | hkelvin
    · have := toNat_ofNat_of_le hout
      rw [hc] at this
      unfold IsAscii at hp
      omega
    · right
      refine ⟨?_, hkelvin⟩
      rw [← hc, hkelvin]
      decide +kernel

theorem isAscii_of_isLower {p : Char} (hp : p.isLower = true) : IsAscii p := by
  have := isLower_iff.mp hp
  unfold IsAscii
  omega

theorem sameLetter_of_toLower {p c : Char} (hp : p.isLower = true)
    (h : c.toLower = p ∨ p = 'k' ∧ c.toNat = 0x212A) : sameLetter p c = true := by
  have hself := toLower_of_isLower hp
  rcases h with hc | ⟨rfl, hkelvin⟩
  · simp [sameLetter, hself, hc]
  · simp [sameLetter, hkelvin]

/-- One character becomes one in the lower form, or a dotted capital i becomes two. -/
theorem lowerAfter_cons (cased : Bool) (c : Char) (t : Text) : ∃ cased',
    (∃ x, lowerAfter cased (c :: t) = x :: lowerAfter cased' t ∧
      (IsAscii x → c.toLower = x ∨ x = 'k' ∧ c.toNat = 0x212A)) ∨
    c = 'İ' ∧ lowerAfter cased (c :: t) = 'i' :: '\u0307' :: lowerAfter cased' t := by
  refine ⟨if isCaseIgnorable c then cased else isCased c, ?_⟩
  rw [lowerAfter]
  by_cases hsigma : c = 'Σ'
  · left
    refine ⟨if cased && !leadsCased t then 'ς' else 'σ', by simp [hsigma], ?_⟩
    split_ifs <;> exact fun h => absurd h (by decide)
  · by_cases hdot : c = 'İ'
    · right
      refine ⟨hdot, ?_⟩
      subst hdot
      rfl
    · left
      rw [if_neg hsigma]
      have hone : ∃ x, lowerChar c = [x] := by
        unfold lowerChar
        split_ifs <;> exact ⟨_, rfl⟩
      obtain ⟨x, hx⟩ := hone
      exact ⟨x, by rw [hx]; rfl, fun h => toLower_of_lowerChar h hx⟩

theorem isSome_afterAnyCase?_of_prefix_lower {piece t : Text} {cased : Bool}
    (hpiece : ∀ q ∈ piece, q.isLower = true) (h : piece <+: lowerAfter cased t) :
    (afterAnyCase? piece t).isSome = true := by
  induction piece generalizing t cased with
  | nil => rfl
  | cons q piece ih =>
      have hq := hpiece q List.mem_cons_self
      have hrest : ∀ r ∈ piece, r.isLower = true := fun r hr => hpiece r (List.mem_cons_of_mem q hr)
      cases t with
      | nil => simp [lowerAfter] at h
      | cons c t =>
          obtain ⟨cased', ⟨x, hx, hsame⟩ | ⟨hdot, hx⟩⟩ := lowerAfter_cons cased c t
          · rw [hx, List.cons_prefix_cons] at h
            obtain ⟨rfl, h⟩ := h
            have hletter := sameLetter_of_toLower hq (hsame (isAscii_of_isLower hq))
            rw [afterAnyCase?, if_pos hletter]
            exact ih hrest h
          · rw [hx, List.cons_prefix_cons] at h
            obtain ⟨rfl, h⟩ := h
            -- the dot above is no letter, so the word ends here
            cases piece with
            | nil =>
                rw [hdot]
                rfl
            | cons r piece =>
                obtain ⟨rfl, -⟩ := List.cons_prefix_cons.mp h
                exact absurd (hrest _ List.mem_cons_self) (by decide)

/-- A word in the lower form of a text is in the text in some case. -/
theorem holdsAnyCase_of_infix_lowerAfter {piece t : Text} {cased : Bool} (hne : piece ≠ [])
    (hpiece : ∀ q ∈ piece, q.isLower = true) (h : piece <:+: lowerAfter cased t) :
    holdsAnyCase piece t = true := by
  induction t generalizing cased with
  | nil =>
      rw [lowerAfter, List.infix_nil] at h
      exact absurd h hne
  | cons c t ih =>
      rw [holdsAnyCase, Bool.or_eq_true]
      obtain ⟨cased', ⟨x, hx, -⟩ | ⟨-, hx⟩⟩ := lowerAfter_cons cased c t
      · rw [hx, List.infix_cons_iff, ← hx] at h
        rcases h with h | h
        · exact Or.inl (isSome_afterAnyCase?_of_prefix_lower hpiece h)
        · exact Or.inr (ih h)
      · rw [hx, List.infix_cons_iff, List.infix_cons_iff, ← hx] at h
        rcases h with h | h | h
        · exact Or.inl (isSome_afterAnyCase?_of_prefix_lower hpiece h)
        · cases piece with
          | nil => exact absurd rfl hne
          | cons q piece =>
              obtain ⟨rfl, -⟩ := List.cons_prefix_cons.mp h
              exact absurd (hpiece _ List.mem_cons_self) (by decide)
        · exact Or.inr (ih h)

theorem holdsAnyCase_of_holds_lower {piece t : Text} (hne : piece ≠ [])
    (hpiece : ∀ q ∈ piece, q.isLower = true) (h : piece <:+: lower t) :
    holdsAnyCase piece t = true :=
  holdsAnyCase_of_infix_lowerAfter hne hpiece h

/-! ### Phrases in some letter case -/

/-- The text holds a phrase, each letter of which may be a capital. -/
def HoldsCased (phrase t : Text) : Prop := ∃ part, part <:+: t ∧ part.map Char.toLower = phrase

/-- ASCII characters that stand in the lower form of a text only for themselves and their capitals.
Neither the kelvin sign nor the dotted capital i, whose lower form ends in a dot, can do. -/
structure IsPhrase (phrase : Text) : Prop where
  isAscii : ∀ p ∈ phrase, IsAscii p
  noKelvin : 'k' ∉ phrase
  noDotted : phrase.getLast? ≠ some 'i'

theorem IsPhrase.tail {p : Char} {phrase : Text} (h : IsPhrase (p :: phrase)) : IsPhrase phrase where
  isAscii q hq := h.isAscii q (List.mem_cons_of_mem p hq)
  noKelvin hk := h.noKelvin (List.mem_cons_of_mem p hk)
  noDotted hlast := by
    cases phrase with
    | nil => cases hlast
    | cons q phrase => exact h.noDotted (List.getLast?_cons_cons.trans hlast)

theorem exists_prefix_of_lowerAfter {phrase t : Text} {cased : Bool} (hphrase : IsPhrase phrase)
    (h : phrase <+: lowerAfter cased t) : ∃ part, part <+: t ∧ part.map Char.toLower = phrase := by
  induction phrase generalizing t cased with
  | nil => exact ⟨[], List.nil_prefix, rfl⟩
  | cons p phrase ih =>
      have hp := hphrase.isAscii p List.mem_cons_self
      cases t with
      | nil => simp [lowerAfter] at h
      | cons c t =>
          obtain ⟨cased', ⟨x, hx, hsame⟩ | ⟨-, hx⟩⟩ := lowerAfter_cons cased c t
          · rw [hx, List.cons_prefix_cons] at h
            obtain ⟨rfl, h⟩ := h
            obtain ⟨part, hpart, hmap⟩ := ih hphrase.tail h
            refine ⟨c :: part, List.cons_prefix_cons.mpr ⟨rfl, hpart⟩, ?_⟩
            rcases hsame hp with hc | ⟨rfl, -⟩
            · rw [List.map_cons, hc, hmap]
            · exact absurd List.mem_cons_self hphrase.noKelvin
          · rw [hx, List.cons_prefix_cons] at h
            obtain ⟨rfl, h⟩ := h
            -- the dot above is outside ASCII, so the phrase ends in the letter before it
            cases phrase with
            | nil => exact absurd rfl hphrase.noDotted
            | cons q phrase =>
                obtain ⟨rfl, -⟩ := List.cons_prefix_cons.mp h
                exact absurd (hphrase.tail.isAscii _ List.mem_cons_self) (by decide)

theorem holdsCased_of_infix_lowerAfter {phrase t : Text} {cased : Bool} (hphrase : IsPhrase phrase)
    (h : phrase <:+: lowerAfter cased t) : HoldsCased phrase t := by
  induction t generalizing cased with
  | nil =>
      rw [lowerAfter, List.infix_nil] at h
      exact ⟨[], List.nil_infix, by rw [h]; rfl⟩
  | cons c t ih =>
      have hhere : phrase <+: lowerAfter cased (c :: t) → HoldsCased phrase (c :: t) := by
        intro hprefix
        obtain ⟨part, hpart, hmap⟩ := exists_prefix_of_lowerAfter hphrase hprefix
        exact ⟨part, hpart.isInfix, hmap⟩
      have hlater : ∀ cased', phrase <:+: lowerAfter cased' t → HoldsCased phrase (c :: t) := by
        intro cased' hinfix
        obtain ⟨part, hpart, hmap⟩ := ih hinfix
        exact ⟨part, hpart.trans (List.suffix_cons c t).isInfix, hmap⟩
      obtain ⟨cased', ⟨x, hx, -⟩ | ⟨-, hx⟩⟩ := lowerAfter_cons cased c t
      · rw [hx, List.infix_cons_iff, ← hx] at h
        exact h.elim hhere (hlater cased')
      · rw [hx, List.infix_cons_iff, List.infix_cons_iff, ← hx] at h
        rcases h with h | h | h
        · exact hhere h
        · cases phrase with
          | nil => exact ⟨[], List.nil_infix, rfl⟩
          | cons p phrase =>
              obtain ⟨rfl, -⟩ := List.cons_prefix_cons.mp h
              exact absurd (hphrase.isAscii _ List.mem_cons_self) (by decide)
        · exact hlater cased' h

theorem toNat_lt_of_toLower {c : Char} (h : c.toLower.toNat < 0x80) : c.toNat < 0x80 := by
  unfold Char.toLower at h
  split_ifs at h with hupper
  · have := isUpper_iff.mp (decide_eq_true hupper)
    omega
  · exact h

theorem lowerAfter_of_ascii {c : Char} (h : c.toNat < 0x80) (cased : Bool) (t : Text) :
    lowerAfter cased (c :: t) =
      c.toLower :: lowerAfter (if isCaseIgnorable c then cased else isCased c) t := by
  have hsigma : c ≠ 'Σ' := by
    rintro rfl
    exact absurd h (by decide)
  rw [lowerAfter, if_neg hsigma, lowerChar, if_pos h]
  rfl

theorem prefix_lowerAfter {part : Text} (hpart : ∀ p ∈ part.map Char.toLower, IsAscii p)
    (cased : Bool) (t : Text) : part.map Char.toLower <+: lowerAfter cased (part ++ t) := by
  induction part generalizing cased with
  | nil => exact List.nil_prefix
  | cons c part ih =>
      rw [List.map_cons] at hpart
      have hc := toNat_lt_of_toLower (hpart _ List.mem_cons_self).2
      rw [List.cons_append, lowerAfter_of_ascii hc, List.map_cons, List.cons_prefix_cons]
      exact ⟨rfl, ih (fun p hp => hpart p (List.mem_cons_of_mem _ hp)) _⟩

theorem exists_suffix_lowerAfter (cased : Bool) (u t : Text) :
    ∃ cased', lowerAfter cased' t <:+ lowerAfter cased (u ++ t) := by
  induction u generalizing cased with
  | nil => exact ⟨cased, List.suffix_refl _⟩
  | cons c u ih =>
      obtain ⟨cased', hsuffix⟩ := ih (if isCaseIgnorable c then cased else isCased c)
      exact ⟨cased', hsuffix.trans (List.suffix_append _ _)⟩

/-- The lower form of a text holds a phrase just when the text holds it in some letter case. -/
theorem infix_lower_iff {phrase t : Text} (hphrase : IsPhrase phrase) :
    phrase <:+: lower t ↔ HoldsCased phrase t := by
  constructor
  · exact holdsCased_of_infix_lowerAfter hphrase
  · rintro ⟨part, ⟨u, v, rfl⟩, rfl⟩
    obtain ⟨cased, hsuffix⟩ := exists_suffix_lowerAfter false u (part ++ v)
    rw [← List.append_assoc] at hsuffix
    exact (prefix_lowerAfter hphrase.isAscii cased v).isInfix.trans hsuffix.isInfix

end MetaDesk.Text
