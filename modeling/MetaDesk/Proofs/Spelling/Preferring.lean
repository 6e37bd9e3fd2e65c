import MetaDesk.Proofs.Spelling.Answering

/-! # The order of suggestions

The names that are found come with their distances from the token, the nearest first
(`closest_eq_ok`), whatever dictionary they are taken from and however many are asked for.  So do
the suggestions that are made of them, and of these the ones that are a single slip away are
preferred.  Only a name that differs from the quoted one by its case is nearer and not preferred
(`preferred_suggestions`). -/

namespace MetaDesk.Spelling

namespace Match

theorem distance_le_of_rank_le {m n : Match} (h : m.rank ≤ n.rank) : m.distance ≤ n.distance := by
  rcases Prod.Lex.le_iff.mp h with hlt | ⟨heq, -⟩
  · exact le_of_lt hlt
  · exact le_of_eq heq

end Match

namespace Dictionary

variable {d : Dictionary} {names : List Text} {most count : ℤ} {token lowered : Text}
  {found ms : List Match} {m : Match}

/-! ### Distances -/

theorem distance_of_close (h : d.close most token = .ok found) :
    ∀ m ∈ found, m.distance = editDistance (Text.lower token) (Text.lower m.name) := by
  unfold close at h
  dsimp only at h
  split at h
  · cases h
    exact fun m hm => (mem_closeNames_iff.mp hm).2.2.1
  · obtain ⟨letters, -, rfl⟩ := bind_pure_eq_ok_iff.mp h
    intro m hm
    obtain ⟨letter, -, hmem⟩ := List.mem_flatMap.mp hm
    exact (mem_closeNames_iff.mp hmem).2.2.1

theorem firstOf_sublist {α : Type} (n : ℤ) (xs : List α) : (firstOf n xs).Sublist xs := by
  unfold firstOf
  split <;> exact List.take_sublist _ _

theorem closest_eq_ok (h : d.closest token most count = .ok ms) :
    ms.Pairwise (fun m n => m.distance ≤ n.distance) ∧
      ∀ m ∈ ms, m.distance = editDistance (Text.lower token) (Text.lower m.name) := by
  unfold closest at h
  split at h
  · cases h
    exact ⟨.nil, by simp⟩
  · obtain ⟨found, hclose, rfl⟩ := bind_pure_eq_ok_iff.mp h
    have hsublist := firstOf_sublist count (found.mergeSort Match.notAfter)
    have hsorted : (found.mergeSort Match.notAfter).Pairwise fun m n => m.rank ≤ n.rank :=
      pairwise_le_mergeSort_of_rank (fun m n => Match.notAfter_iff (m := m) (n := n)) found
    refine ⟨(hsorted.sublist hsublist).imp Match.distance_le_of_rank_le, fun m hm => ?_⟩
    exact distance_of_close hclose m (List.mem_mergeSort.mp (hsublist.subset hm))

/-- A token that is looked for is answered by the first of the names that are close. -/
theorem closest_of_close (count : ℤ) (hlong : shortest ≤ token.length)
    (hnew : d.contains token = false) (hclose : d.close most token = .ok found) :
    d.closest token most count = .ok (firstOf count (found.mergeSort Match.notAfter)) := by
  unfold closest
  rw [if_neg (by simpa [hnew] using hlong), hclose]
  rfl

end Dictionary

/-! ### Suggestions -/

variable {dictionary : Dictionary} {d : Diagnostic} {ss : List Suggestion} {quoted : Text}

/-- How far the name of a suggestion is from the quoted one, whatever their case. -/
def Suggestion.distanceFrom (quoted : Text) (s : Suggestion) : ℕ :=
  editDistance (Text.lower quoted) (Text.lower s.replacement)

theorem suggestions_of_quoted (hquoted : quotedName? d.message = some quoted)
    (h : suggestions dictionary d = .ok ss) :
    ∃ ms : List Match, ss = ms.map (suggestion d quoted) ∧
      ms.Pairwise (fun m n => m.distance ≤ n.distance) ∧
      ∀ m ∈ ms, m.distance = editDistance (Text.lower quoted) (Text.lower m.name) := by
  unfold suggestions at h
  rw [hquoted] at h
  obtain ⟨ms, hcorrections, rfl⟩ := bind_pure_eq_ok_iff.mp h
  refine ⟨ms, rfl, ?_⟩
  by_cases hquotes : ∃ name, Quotes d name
  · obtain ⟨name, hname⟩ := hquotes
    obtain rfl := Option.some.inj (hname.1.symm.trans hquoted)
    rw [corrections_of_quotes hname] at hcorrections
    exact Dictionary.closest_eq_ok hcorrections
  · rw [corrections_of_not_quotes hquotes] at hcorrections
    cases hcorrections
    exact ⟨.nil, by simp⟩

/-- **Preference follows closeness, but for the case of letters.**  The suggestions are ordered by
their distance from the quoted name, and those at distance one are preferred.  So whatever stands
before a preferred suggestion, or is not farther away, is preferred too, unless it is the quoted
name in another case. -/
theorem preferred_suggestions (h : suggestions dictionary d = .ok ss) :
    (quotedName? d.message = none → ss = []) ∧
    ∀ quoted, quotedName? d.message = some quoted →
      ss.Pairwise (fun s t => s.distanceFrom quoted ≤ t.distanceFrom quoted) ∧
      (∀ s ∈ ss, s.preferred = true ↔ s.distanceFrom quoted = 1) ∧
      ss.Pairwise (fun s t => t.preferred = true →
        s.preferred = true ∨ Text.lower s.replacement = Text.lower quoted) ∧
      ∀ s ∈ ss, s.preferred = true → ∀ t ∈ ss, t.distanceFrom quoted ≤ s.distanceFrom quoted →
        t.preferred = true ∨ Text.lower t.replacement = Text.lower quoted := by
  constructor
  · intro hnone
    unfold suggestions at h
    rw [hnone] at h
    cases h
    rfl
  · intro quoted hquoted
    obtain ⟨ms, rfl, hsorted, hdistance⟩ := suggestions_of_quoted hquoted h
    have hfrom : ∀ m ∈ ms, (suggestion d quoted m).distanceFrom quoted = m.distance :=
      fun m hm => (hdistance m hm).symm
    have hpreferred : ∀ s ∈ ms.map (suggestion d quoted),
        s.preferred = true ↔ s.distanceFrom quoted = 1 := by
      intro s hs
      obtain ⟨m, hm, rfl⟩ := List.mem_map.mp hs
      rw [hfrom m hm]
      exact decide_eq_true_iff
    have horder : (ms.map (suggestion d quoted)).Pairwise fun s t =>
        s.distanceFrom quoted ≤ t.distanceFrom quoted := by
      refine List.pairwise_map.mpr (hsorted.imp_of_mem fun {m n} hm hn hle => ?_)
      rwa [hfrom m hm, hfrom n hn]
    -- What is not farther away than one slip is one slip away or no slip at all.
    have hnearer : ∀ s ∈ ms.map (suggestion d quoted), s.preferred = true →
        ∀ t ∈ ms.map (suggestion d quoted), t.distanceFrom quoted ≤ s.distanceFrom quoted →
          t.preferred = true ∨ Text.lower t.replacement = Text.lower quoted := by
      intro s hs hs_preferred t ht hle
      rw [(hpreferred s hs).mp hs_preferred] at hle
      rcases Nat.le_one_iff_eq_zero_or_eq_one.mp hle with hzero | hone
      · exact Or.inr (editDistance_eq_zero_iff.mp hzero).symm
      · exact Or.inl ((hpreferred t ht).mpr hone)
    refine ⟨horder, hpreferred, horder.imp_of_mem fun {s t} hs ht hle ht_preferred => ?_, hnearer⟩
    exact hnearer t ht ht_preferred s hs hle

/-- Names that are no slip, one slip and two slips away from one in lower case. -/
def namesOfSending : List Text := ["OrderSend", "OrderSent", "OrderSender"]

/-- An unknown name that differs from a known one by its case. -/
def lowerUnknown : Diagnostic :=
  ⟨"C:\\a.mq5", 3, 4, .error, "'ordersend' - undeclared identifier", some unknownNameCode⟩

theorem quotes_lowerUnknown : Quotes lowerUnknown "ordersend" := by
  refine ⟨?_, ?_, ?_⟩ <;> decide +kernel

theorem suggestions_lowerUnknown : suggestions (.ofNames namesOfSending) lowerUnknown = .ok
    ([⟨"OrderSend", 0⟩, ⟨"OrderSent", 1⟩, ⟨"OrderSender", 2⟩].map
      (suggestion lowerUnknown "ordersend")) := by
  have hclose : (Dictionary.ofNames namesOfSending).close 2 "ordersend" =
      .ok [⟨"OrderSend", 0⟩, ⟨"OrderSent", 1⟩, ⟨"OrderSender", 2⟩] := by
    decide +kernel
  have hclosest := Dictionary.closest_of_close 3 (by decide) (by decide +kernel) hclose
  rw [List.mergeSort_of_pairwise (by decide +kernel)] at hclosest
  have hcorrections := (corrections_of_quotes quotes_lowerUnknown).trans hclosest
  unfold suggestions
  rw [quotes_lowerUnknown.1, hcorrections]
  rfl

/-- Of three names, the one in the middle is preferred, and the first is the quoted one in another
case. -/
theorem preferred_suggestions_of_lowerCase :
    ∃ ss, suggestions (.ofNames namesOfSending) lowerUnknown = .ok ss ∧
      ss.map (fun s => (s.replacement, s.preferred)) =
        [("OrderSend".toList, false), ("OrderSent".toList, true), ("OrderSender".toList, false)] ∧
      ss.Pairwise (fun s t => t.preferred = true →
        s.preferred = true ∨ Text.lower s.replacement = Text.lower "ordersend".toList) := by
  have hall := (preferred_suggestions suggestions_lowerUnknown).2 _ quotes_lowerUnknown.1
  exact ⟨_, suggestions_lowerUnknown, by decide, hall.2.2.1⟩

/-- The name that is nearest of all is not preferred, and one that is farther away is. -/
theorem not_preferred_of_lowerCase :
    ¬ ∀ ss, suggestions (.ofNames namesOfSending) lowerUnknown = .ok ss →
      ∀ s ∈ ss, s.preferred = true → ∀ t ∈ ss,
        t.distanceFrom "ordersend" ≤ s.distanceFrom "ordersend" → t.preferred = true := by
  intro h
  have hsame : (suggestion lowerUnknown "ordersend" ⟨"OrderSend", 0⟩).distanceFrom "ordersend" =
      0 := editDistance_eq_zero_iff.mpr (by decide)
  have hfirst := h _ suggestions_lowerUnknown
    (suggestion lowerUnknown "ordersend" ⟨"OrderSent", 1⟩) (by simp) (by decide)
    (suggestion lowerUnknown "ordersend" ⟨"OrderSend", 0⟩) (by simp)
    (by rw [hsame]; exact Nat.zero_le _)
  exact absurd hfirst (by decide)

end MetaDesk.Spelling
