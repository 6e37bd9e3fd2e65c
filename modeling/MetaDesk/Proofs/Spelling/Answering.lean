import MetaDesk.Proofs.Spelling.Closest
import MetaDesk.Spelling.Suggestion

/-! # Tokens without an answer

A token is answered by a list of names, which may be empty.  There is one way in which it is not: a
token whose own drawer has nothing close is looked for under the neighbours of its first letter, and
a letter whose upper form has several characters, such as a sharp s, has no neighbours.  `IsLost`
says when this comes about, and a diagnostic goes without an answer when the name that it quotes
does (`answers_unless_lost`). -/

namespace MetaDesk.Spelling

/-- What is made of an answer is missing just when the answer is. -/
theorem bind_pure_eq_error_iff {ε α β : Type} {x : Except ε α} {f : α → β} {e : ε} :
    (x >>= fun a => pure (f a)) = .error e ↔ x = .error e := by
  cases x with
  | error e' => exact ⟨fun h => by cases h; rfl, fun h => by cases h; rfl⟩
  | ok a => exact iff_of_false (fun h => by cases h) fun h => by cases h

theorem bind_pure_eq_ok_iff {ε α β : Type} {x : Except ε α} {f : α → β} {b : β} :
    (x >>= fun a => pure (f a)) = .ok b ↔ ∃ a, x = .ok a ∧ b = f a := by
  cases x with
  | error e => exact iff_of_false (fun h => by cases h) fun ⟨_, h, _⟩ => by cases h
  | ok a =>
      constructor
      · intro h
        cases h
        exact ⟨a, rfl, rfl⟩
      · rintro ⟨_, ⟨⟩, rfl⟩
        rfl

theorem exists_ok_iff {ε α : Type} {x : Except ε α} :
    (∃ a, x = .ok a) ↔ ¬ ∃ e, x = .error e := by
  cases x with
  | error e => simp
  | ok a => simp

namespace Dictionary

variable {d : Dictionary} {names : List Text} {most count : ℤ} {token lowered letters : Text}
  {e : ManyLetters}

/-! ### Drawers and neighbours -/

/-- Nothing in a drawer is close when every name is too long, too short or too far away. -/
theorem closeNames_eq_nil_iff : closeNames most lowered names = [] ↔
    ∀ name ∈ names, (((name.length : ℤ) - lowered.length).natAbs : ℤ) ≤ most →
      most < editDistance lowered (Text.lower name) := by
  rw [List.eq_nil_iff_forall_not_mem]
  constructor
  · intro hnone name hname hlength
    by_contra hnear
    exact hnone ⟨name, _⟩ (mem_closeNames_iff.mpr ⟨hname, hlength, rfl, not_lt.mp hnear⟩)
  · intro hfar m hm
    obtain ⟨hname, hlength, hdistance, hnear⟩ := mem_closeNames_iff.mp hm
    have hbeyond := hfar m.name hname hlength
    omega

/-- A form of one character has neighbours, whatever the character is. -/
theorem neighbours_eq_error_iff :
    neighbours letters = .error e ↔ letters.length ≠ 1 ∧ e = ⟨letters⟩ := by
  unfold neighbours
  split
  · exact iff_of_false (fun h => by cases h) fun h => h.1 rfl
  · next hletters =>
      have hlength : letters.length ≠ 1 := fun hone => by
        obtain ⟨c, hc⟩ := List.length_eq_one_iff.mp hone
        exact hletters c hc
      rw [Except.error.injEq, and_iff_right hlength, eq_comm]

/-- No upper form is empty. -/
theorem length_upperChar_pos (c : Char) : 0 < (Text.upperChar c).length := by
  have hlong : ∀ entry ∈ Text.longUppers, 0 < entry.2.length := by decide
  unfold Text.upperChar
  split
  · exact Nat.one_pos
  · split
    · next codes hcodes =>
        obtain ⟨before, after, htable, -⟩ := List.lookup_eq_some_iff.mp hcodes
        rw [List.length_map]
        exact hlong (c.toNat, codes) (by simp [htable])
    · exact Nat.one_pos

theorem length_drawerOf_pos (h : token ≠ []) : 0 < (drawerOf token).length := by
  obtain ⟨c, rest, rfl⟩ := List.exists_cons_of_ne_nil h
  simpa [drawerOf] using length_upperChar_pos c

/-! ### Looking for a token -/

theorem close_eq_error_iff : d.close most token = .error e ↔
    (closeNames most (Text.lower token) (d.drawer (drawerOf token)) = [] ∧
      shortestNearby ≤ token.length ∧ (drawerOf token).length ≠ 1) ∧ e = ⟨drawerOf token⟩ := by
  unfold close
  extract_lets lowered letters found
  change (if _ then _ else _ : Except ManyLetters (List Match)) = _ ↔ _
  by_cases hdone : (!found.isEmpty || decide (token.length < shortestNearby)) = true
  · rw [if_pos hdone]
    refine iff_of_false (fun h => by cases h) fun h => ?_
    obtain ⟨⟨hnone, hlong, -⟩, -⟩ := h
    have hempty : found.isEmpty = true := List.isEmpty_iff.mpr hnone
    simp only [hempty, Bool.not_true, Bool.false_or, decide_eq_true_eq] at hdone
    omega
  · rw [if_neg hdone]
    simp only [Bool.or_eq_true, Bool.not_eq_true', decide_eq_true_eq, not_or, Bool.not_eq_false,
      List.isEmpty_iff, not_lt] at hdone
    rw [and_iff_right hdone.1, and_iff_right hdone.2, ← neighbours_eq_error_iff]
    exact bind_pure_eq_error_iff

theorem closest_eq_error_iff : d.closest token most count = .error e ↔
    (shortest ≤ token.length ∧ d.contains token = false) ∧ d.close most token = .error e := by
  unfold closest
  by_cases hskip : (decide (token.length < shortest) || d.contains token) = true
  · rw [if_pos hskip]
    refine iff_of_false (fun h => by cases h) fun h => ?_
    simp only [Bool.or_eq_true, decide_eq_true_eq, h.1.2, Bool.false_eq_true, or_false] at hskip
    omega
  · rw [if_neg hskip]
    simp only [Bool.or_eq_true, decide_eq_true_eq, not_or, not_lt, Bool.not_eq_true] at hskip
    rw [and_iff_right hskip]
    exact bind_pure_eq_error_iff

/-- A token that is not answered: it is long enough to be looked for under neighbouring letters and
is not a name, the upper form of its first character has several characters, and no name with the
same form of its first character is close. -/
structure IsLost (names : List Text) (most : ℤ) (token : Text) : Prop where
  long : shortestNearby ≤ token.length
  new : token ∉ names
  several : 1 < (drawerOf token).length
  far : ∀ name ∈ names, shortest ≤ name.length → drawerOf name = drawerOf token →
    (((name.length : ℤ) - (Text.lower token).length).natAbs : ℤ) ≤ most →
    most < editDistance (Text.lower token) (Text.lower name)

theorem closest_ofNames_eq_error_iff : (ofNames names).closest token most count = .error e ↔
    IsLost names most token ∧ e = ⟨drawerOf token⟩ := by
  have hholds := holds_ofNames names
  rw [closest_eq_error_iff, close_eq_error_iff, closeNames_eq_nil_iff, Bool.eq_false_iff,
    ne_eq, hholds.contains_iff, ← and_assoc]
  refine and_congr_left fun _ => ?_
  constructor
  · rintro ⟨⟨hshort, hnew⟩, hfar, hlong, hone⟩
    have hne : token ≠ [] := List.ne_nil_of_length_pos (lt_of_lt_of_le (by decide) hlong)
    have hpos := length_drawerOf_pos hne
    refine ⟨hlong, fun hmem => hnew ⟨hmem, hshort⟩, by omega, fun name hname hlen hletter => ?_⟩
    exact hfar name ((hholds.mem_drawer _ _).mpr ⟨hname, hlen, hletter⟩)
  · rintro ⟨hlong, hnew, hseveral, hfar⟩
    have hshort : shortest ≤ token.length := le_trans (by decide) hlong
    refine ⟨⟨hshort, fun h => hnew h.1⟩, fun name hname => ?_, hlong, by omega⟩
    obtain ⟨hmem, hlen, hletter⟩ := (hholds.mem_drawer _ _).mp hname
    exact hfar name hmem hlen hletter

end Dictionary

/-! ### Diagnostics -/

open Dictionary

variable {dictionary : Dictionary} {names : List Text} {d : Diagnostic} {e : ManyLetters}

/-- A diagnostic about an unknown name, and the name, which is long enough to be looked for. -/
def Quotes (d : Diagnostic) (quoted : Text) : Prop :=
  quotedName? d.message = some quoted ∧ isUnresolved d = true ∧ shortestQuoted ≤ quoted.length

theorem corrections_of_quotes {quoted : Text} (h : Quotes d quoted) :
    corrections dictionary d = dictionary.closest quoted := by
  obtain ⟨hquoted, hunresolved, hlong⟩ := h
  simp [corrections, hquoted, hunresolved, hlong]

theorem corrections_of_not_quotes (h : ¬ ∃ quoted, Quotes d quoted) :
    corrections dictionary d = .ok [] := by
  unfold corrections
  split
  · next quoted hquoted =>
      rw [if_neg fun hasked => h ⟨quoted, hquoted, by simpa using hasked⟩]
  · rfl

theorem corrections_eq_error_iff : corrections dictionary d = .error e ↔
    ∃ quoted, Quotes d quoted ∧ dictionary.closest quoted = .error e := by
  by_cases hquotes : ∃ quoted, Quotes d quoted
  · obtain ⟨quoted, hquoted⟩ := hquotes
    rw [corrections_of_quotes hquoted]
    refine ⟨fun h => ⟨quoted, hquoted, h⟩, ?_⟩
    rintro ⟨other, hother, h⟩
    obtain rfl := Option.some.inj (hother.1.symm.trans hquoted.1)
    exact h
  · rw [corrections_of_not_quotes hquotes]
    refine iff_of_false (fun h => by cases h) ?_
    rintro ⟨quoted, hquoted, -⟩
    exact hquotes ⟨quoted, hquoted⟩

theorem suggestions_eq_error_iff :
    suggestions dictionary d = .error e ↔ corrections dictionary d = .error e := by
  unfold suggestions
  split
  · exact bind_pure_eq_error_iff
  · next hnone =>
      refine iff_of_false (fun h => by cases h) fun h => ?_
      obtain ⟨quoted, hquoted, -⟩ := corrections_eq_error_iff.mp h
      rw [hquoted.1] at hnone
      cases hnone

/-- **Every token and every diagnostic is answered by a list**, but for the tokens that are lost and
the diagnostics that quote such a token as an unknown name; and these never are. -/
theorem answers_unless_lost (names : List Text) :
    (∀ (token : Text) (most count : ℤ),
      (∃ ms, (ofNames names).closest token most count = .ok ms) ↔ ¬ IsLost names most token) ∧
    ∀ d : Diagnostic,
      ((∃ ms, corrections (ofNames names) d = .ok ms) ↔
        ¬ ∃ quoted, Quotes d quoted ∧ IsLost names 2 quoted) ∧
      ((∃ ss, suggestions (ofNames names) d = .ok ss) ↔
        ¬ ∃ quoted, Quotes d quoted ∧ IsLost names 2 quoted) := by
  have hlost : ∀ d : Diagnostic, (∃ e, corrections (ofNames names) d = .error e) ↔
      ∃ quoted, Quotes d quoted ∧ IsLost names 2 quoted := fun d => by
    simp only [corrections_eq_error_iff, closest_ofNames_eq_error_iff]
    constructor
    · rintro ⟨-, quoted, hquotes, hlost, -⟩
      exact ⟨quoted, hquotes, hlost⟩
    · rintro ⟨quoted, hquotes, hlost⟩
      exact ⟨_, quoted, hquotes, hlost, rfl⟩
  refine ⟨fun token most count => ?_, fun d => ⟨?_, ?_⟩⟩
  · rw [exists_ok_iff]
    simp only [closest_ofNames_eq_error_iff]
    exact not_congr ⟨fun h => h.elim fun _ h => h.1, fun h => ⟨_, h, rfl⟩⟩
  · rw [exists_ok_iff, hlost]
  · rw [exists_ok_iff, ← hlost]
    simp only [suggestions_eq_error_iff]

/-- An unknown name that starts with a sharp s. -/
def sharpUnknown : Diagnostic :=
  ⟨"C:\\a.mq5", 0, 0, .error, "'ßabc' - undeclared identifier", some unknownNameCode⟩

/-- A sharp s has no neighbours, so the names that could stand for this one cannot be told. -/
theorem not_answered_of_sharpS :
    (¬ ∃ ms, (ofNames ["OrderSend"]).closest "ßabc" = .ok ms) ∧
      (¬ ∃ ms, corrections (.ofNames ["OrderSend"]) sharpUnknown = .ok ms) ∧
      ¬ ∃ ss, suggestions (.ofNames ["OrderSend"]) sharpUnknown = .ok ss := by
  have hclosest : (ofNames ["OrderSend"]).closest "ßabc" = .error ⟨"SS"⟩ := by decide
  have hquotes : Quotes sharpUnknown "ßabc" := ⟨by decide, by decide, by decide⟩
  have hcorrections : corrections (.ofNames ["OrderSend"]) sharpUnknown = .error ⟨"SS"⟩ :=
    (corrections_of_quotes hquotes).trans hclosest
  simp only [exists_ok_iff, not_not]
  exact ⟨⟨_, hclosest⟩, ⟨_, hcorrections⟩, ⟨_, suggestions_eq_error_iff.mpr hcorrections⟩⟩

end MetaDesk.Spelling
