import MetaDesk.Proofs.Spelling.BoundedDistance
import MetaDesk.Proofs.Spelling.Drawers
import MetaDesk.Proofs.Sorting
import MetaDesk.Proofs.Text.Order
import Mathlib.Data.Prod.Lex

/-! # The closest names

`closest` looks into one drawer, leaves out names by their length before it takes their distance,
looks into neighbouring drawers when it has found nothing, and sorts what it has.  None of this
loses a name or adds one: the result is the beginning of the list of all near names, in strict
order of distance and name (`closest_ofNames`).

The length of a name stands for that of its lower form, which is right for all names without a
dotted capital i (`length_lower`). -/

namespace MetaDesk.Spelling

/-! ### The order of matches -/

namespace Match

/-- What matches are ordered by: the distance, the name in lower case, and the name. -/
def rank (m : Match) : ℕ ×ₗ Text ×ₗ Text := toLex (m.distance, toLex (Text.lower m.name, m.name))

theorem rank_injective : Function.Injective rank := by
  rintro ⟨name, distance⟩ ⟨name', distance'⟩ h
  obtain ⟨hdistance, hlast⟩ := Prod.mk.inj (toLex.injective h)
  obtain ⟨-, hname⟩ := Prod.mk.inj (toLex.injective hlast)
  exact congrArg₂ Match.mk hname hdistance

theorem notAfter_iff {m n : Match} : m.notAfter n = true ↔ m.rank ≤ n.rank := by
  unfold rank
  rw [Prod.Lex.le_iff, Prod.Lex.le_iff]
  simp [notAfter, Text.before_iff, Text.notAfter_iff]

theorem pairwise_mergeSort_notAfter {ms : List Match} (hnodup : ms.Nodup) :
    (ms.mergeSort notAfter).Pairwise fun m n => m.rank < n.rank :=
  pairwise_mergeSort_of_rank (fun m n => notAfter_iff (m := m) (n := n)) hnodup
    fun _ _ _ _ heq => rank_injective heq

end Match

namespace Dictionary

/-! ### Names in one drawer -/

/-- A match whose name is one of the names that are long enough, has this first letter, and is near
enough to the token. -/
structure IsNear (names : List Text) (most : ℤ) (token letter : Text) (m : Match) : Prop where
  mem : m.name ∈ names
  long : shortest ≤ m.name.length
  letter : drawerOf m.name = letter
  distance : m.distance = editDistance (Text.lower token) (Text.lower m.name)
  near : (m.distance : ℤ) ≤ most

variable {names : List Text} {most : ℤ} {token lowered letter : Text} {m : Match}

/-- What is close: the names that are neither too long nor too short nor too far away. -/
theorem mem_closeNames_iff : m ∈ closeNames most lowered names ↔
    m.name ∈ names ∧ (((m.name.length : ℤ) - lowered.length).natAbs : ℤ) ≤ most ∧
      m.distance = editDistance lowered (Text.lower m.name) ∧ (m.distance : ℤ) ≤ most := by
  unfold closeNames
  rw [List.mem_filterMap]
  constructor
  · rintro ⟨name, hmem, h⟩
    split_ifs at h with hlength
    rw [distanceWithin?_eq_atMost?, atMost?] at h
    split_ifs at h with hnear
    · cases h
      exact ⟨hmem, not_lt.mp hlength, rfl, hnear⟩
    · cases h
  · rintro ⟨hmem, hlength, hdistance, hnear⟩
    refine ⟨m.name, hmem, ?_⟩
    rw [if_neg (not_lt.mpr hlength), distanceWithin?_eq_atMost?, ← hdistance, atMost?,
      if_pos hnear]
    rfl

/-- No near name is left out for its length. -/
theorem mem_closeNames (hdot : ∀ name ∈ names, 'İ' ∉ name) : m ∈ closeNames most lowered names ↔
    m.name ∈ names ∧ m.distance = editDistance lowered (Text.lower m.name) ∧
      (m.distance : ℤ) ≤ most := by
  rw [mem_closeNames_iff]
  refine and_congr_right fun hmem => and_iff_right_of_imp fun ⟨hdistance, hnear⟩ => ?_
  have hlength := Text.length_lower (hdot m.name hmem)
  have hdifference := length_sub_le_editDistance lowered (Text.lower m.name)
  omega

theorem nodup_closeNames (hnodup : names.Nodup) : (closeNames most lowered names).Nodup := by
  have hname : ∀ name m, m ∈ (if most < ((name.length : ℤ) - lowered.length).natAbs then none
      else (distanceWithin? most lowered (Text.lower name)).map fun n => (⟨name, n⟩ : Match)) →
      m.name = name := by
    intro name m h
    split_ifs at h with hlength
    · cases h
    · obtain ⟨n, -, rfl⟩ := Option.map_eq_some_iff.mp h
      rfl
  refine hnodup.filterMap fun name name' m hm hm' => ?_
  rw [← hname name m hm, hname name' m hm']

theorem mem_closeNames_drawer (hdot : ∀ name ∈ names, 'İ' ∉ name) :
    m ∈ closeNames most (Text.lower token) ((ofNames names).drawer letter) ↔
      IsNear names most token letter m := by
  have hholds := holds_ofNames names
  have hdrawer : ∀ name ∈ (ofNames names).drawer letter, 'İ' ∉ name := fun name hname =>
    hdot name ((hholds.mem_drawer _ _).mp hname).1
  rw [mem_closeNames hdrawer, hholds.mem_drawer]
  constructor
  · rintro ⟨⟨hmem, hlong, hletter⟩, hdistance, hnear⟩
    exact ⟨hmem, hlong, hletter, hdistance, hnear⟩
  · rintro ⟨hmem, hlong, hletter, hdistance, hnear⟩
    exact ⟨⟨hmem, hlong, hletter⟩, hdistance, hnear⟩

/-! ### Neighbouring letters -/

/-- A capital letter just before or after a character. -/
def IsNeighbour (c d : Char) : Prop :=
  'A' ≤ d ∧ d ≤ 'Z' ∧ (d.toNat + 1 = c.toNat ∨ d.toNat = c.toNat + 1)

theorem toNat_ofNat_of_le {n : ℕ} (h : n ≤ 'Z'.toNat) : (Char.ofNat n).toNat = n := by
  have hvalid : n.isValidChar := Or.inl (by have hZ : 'Z'.toNat = 90 := rfl; omega)
  rw [Char.ofNat, dif_pos hvalid]
  rfl

theorem neighbours_eq (c : Char) :
    ∃ letters, neighbours [c] = .ok letters ∧ letters.Nodup ∧
      ∀ letter, letter ∈ letters ↔ ∃ d, IsNeighbour c d ∧ letter = [d] := by
  have hA : 'A'.toNat = 65 := rfl
  refine ⟨_, rfl, ?_, fun letter => ?_⟩
  · refine List.Nodup.map_on ?_ (List.Nodup.filter _ (by simp))
    intro m hm n hn h
    simp only [List.mem_filter, Bool.and_eq_true, decide_eq_true_eq] at hm hn
    rw [← toNat_ofNat_of_le hm.2.2, ← toNat_ofNat_of_le hn.2.2, (List.cons.inj h).1]
  · simp only [List.mem_map, List.mem_filter, List.mem_cons, List.not_mem_nil, or_false,
      Bool.and_eq_true, decide_eq_true_eq]
    constructor
    · rintro ⟨n, ⟨hn, hfirst, hlast⟩, rfl⟩
      have hval := toNat_ofNat_of_le hlast
      have hle : 'A'.toNat ≤ (Char.ofNat n).toNat ∧ (Char.ofNat n).toNat ≤ 'Z'.toNat := by
        rw [hval]
        exact ⟨hfirst, hlast⟩
      exact ⟨Char.ofNat n, ⟨hle.1, hle.2, by omega⟩, rfl⟩
    · rintro ⟨d, ⟨hfirst, hlast, hd⟩, rfl⟩
      have hle : 'A'.toNat ≤ d.toNat ∧ d.toNat ≤ 'Z'.toNat := ⟨hfirst, hlast⟩
      exact ⟨d.toNat, ⟨by omega, hle⟩, by rw [Char.ofNat_toNat]⟩

/-! ### All near names -/

variable {count : ℤ} {c : Char}

theorem mem_flatMap_closeNames (hdot : ∀ name ∈ names, 'İ' ∉ name) (most : ℤ) (token : Text)
    {letters : List Text} (hnodup : letters.Nodup) :
    (letters.flatMap fun letter =>
        closeNames most (Text.lower token) ((ofNames names).drawer letter)).Nodup ∧
      ∀ m, m ∈ (letters.flatMap fun letter =>
        closeNames most (Text.lower token) ((ofNames names).drawer letter)) ↔
          ∃ letter ∈ letters, IsNear names most token letter m := by
  constructor
  · refine List.nodup_flatMap.mpr ⟨fun letter _ => nodup_closeNames ((holds_ofNames names).nodup _),
      hnodup.imp fun {letter letter'} hne => ?_⟩
    intro m hm hm'
    rw [mem_closeNames_drawer hdot] at hm hm'
    exact hne (hm.letter.symm.trans hm'.letter)
  · intro m
    simp only [List.mem_flatMap, mem_closeNames_drawer hdot]

/-- What `close` finds: the near names with the first letter of the token, or when there are none
and the token is long enough, those with a neighbouring letter. -/
theorem close_eq (hdot : ∀ name ∈ names, 'İ' ∉ name) (most : ℤ) (hletter : drawerOf token = [c]) :
    ∃ found, (ofNames names).close most token = .ok found ∧ found.Nodup ∧
      ∀ m, m ∈ found ↔ IsNear names most token [c] m ∨
        (∀ m', ¬ IsNear names most token [c] m') ∧ shortestNearby ≤ token.length ∧
          ∃ d, IsNeighbour c d ∧ IsNear names most token [d] m := by
  have hfirst : ∀ m, m ∈ closeNames most (Text.lower token) ((ofNames names).drawer [c]) ↔
      IsNear names most token [c] m := fun m => mem_closeNames_drawer hdot
  unfold close
  rw [hletter]
  dsimp only
  by_cases hempty : closeNames most (Text.lower token) ((ofNames names).drawer [c]) = []
  · have hnone : ∀ m, ¬ IsNear names most token [c] m := fun m hm => by
      rw [← hfirst, hempty] at hm
      cases hm
    by_cases hlong : shortestNearby ≤ token.length
    · obtain ⟨letters, hneighbours, hnodup, hmem⟩ := neighbours_eq c
      obtain ⟨hnodupAll, hmemAll⟩ := mem_flatMap_closeNames hdot most token hnodup
      refine ⟨_, ?_, hnodupAll, fun m => ?_⟩
      · rw [hempty, hneighbours, if_neg (by simpa using hlong)]
        rfl
      · rw [hmemAll]
        constructor
        · rintro ⟨letter, hl, hm⟩
          obtain ⟨d, hd, rfl⟩ := (hmem letter).mp hl
          exact Or.inr ⟨hnone, hlong, d, hd, hm⟩
        · rintro (hm | ⟨-, -, d, hd, hm⟩)
          · exact absurd hm (hnone m)
          · exact ⟨[d], (hmem _).mpr ⟨d, hd, rfl⟩, hm⟩
    · refine ⟨[], ?_, List.nodup_nil, fun m => ?_⟩
      · rw [hempty, if_pos (by simpa using hlong)]
        rfl
      · refine iff_of_false (List.not_mem_nil) ?_
        rintro (hm | ⟨-, h, -⟩)
        · exact hnone m hm
        · exact hlong h
  · refine ⟨closeNames most (Text.lower token) ((ofNames names).drawer [c]), ?_,
      nodup_closeNames ((holds_ofNames names).nodup [c]), fun m => ?_⟩
    · rw [if_pos (by simp [hempty])]
      rfl
    · rw [hfirst]
      obtain ⟨m', hm'⟩ := List.exists_mem_of_ne_nil _ hempty
      rw [hfirst] at hm'
      refine (or_iff_left ?_).symm
      rintro ⟨hnone, -⟩
      exact hnone m' hm'

/-- **The closest names are the beginning of all near names in order.**  A token that is too short
or a name itself has none.  For another token whose first letter has one capital, the near names
are those with this letter, or if there are none and the token has at least four characters, those
with a neighbouring capital letter; each is listed once and with its distance, which is the least
number of edits, by distance, name in lower case and name. -/
theorem closest_ofNames {names : List Text} (hdot : ∀ name ∈ names, 'İ' ∉ name) (most : ℤ)
    {count : ℤ} (hcount : 0 ≤ count) (token : Text) :
    (token.length < shortest ∨ token ∈ names →
      (ofNames names).closest token most count = .ok []) ∧
    (shortest ≤ token.length → token ∉ names → ∀ c, drawerOf token = [c] →
      ∃ all : List Match, (ofNames names).closest token most count = .ok (all.take count.toNat) ∧
        all.Pairwise (fun m n => m.rank < n.rank) ∧
        ∀ m, m ∈ all ↔ IsNear names most token [c] m ∨
          (∀ m', ¬ IsNear names most token [c] m') ∧ shortestNearby ≤ token.length ∧
            ∃ d, IsNeighbour c d ∧ IsNear names most token [d] m) := by
  have hcontains : (ofNames names).contains token = true ↔
      token ∈ names ∧ shortest ≤ token.length := (holds_ofNames names).contains_iff
  constructor
  · intro hskip
    have hright : token.length < shortest ∨ (ofNames names).contains token = true := by
      rw [hcontains]
      by_cases hshort : token.length < shortest
      · exact Or.inl hshort
      · exact Or.inr ⟨hskip.resolve_left hshort, by omega⟩
    unfold closest
    rw [if_pos (by simpa using hright)]
    rfl
  · intro hlong hnew c hletter
    have hwrong : ¬ (token.length < shortest ∨ (ofNames names).contains token = true) := by
      rw [hcontains]
      rintro (hshort | ⟨hmem, -⟩)
      · omega
      · exact hnew hmem
    obtain ⟨found, hclose, hnodup, hmem⟩ := close_eq hdot most hletter
    refine ⟨found.mergeSort Match.notAfter, ?_, Match.pairwise_mergeSort_notAfter hnodup,
      fun m => by rw [List.mem_mergeSort, hmem]⟩
    unfold closest
    rw [if_neg (by simpa using hwrong), hclose]
    change Except.ok (firstOf count (found.mergeSort Match.notAfter)) = _
    rw [firstOf, if_pos hcount]

/-- Two names that differ by their case only, and one that is found under a neighbouring letter. -/
def namesOfOrders : List Text := ["OrderSend", "ORDERSEND", "Print"]

/-- The best of two names with the first letter of the token, and the name with a neighbouring
letter for a token whose own letter begins no name. -/
theorem closest_namesOfOrders :
    (∀ name ∈ namesOfOrders, 'İ' ∉ name) ∧ (ofNames namesOfOrders).closest "Print" 2 1 = .ok [] ∧
      (∃ all : List Match, (ofNames namesOfOrders).closest "OrdrSend" 2 1 = .ok (all.take 1) ∧
        all.Pairwise (fun m n => m.rank < n.rank) ∧
        ∀ m ∈ [(⟨"ORDERSEND", 1⟩ : Match), ⟨"OrderSend", 1⟩], m ∈ all) ∧
      ∃ all : List Match, (ofNames namesOfOrders).closest "Qrint" 2 3 = .ok (all.take 3) ∧
        ⟨"Print", 1⟩ ∈ all := by
  have hdot : ∀ name ∈ namesOfOrders, 'İ' ∉ name := by decide
  have hnear : ∀ token letter (m : Match),
      m ∈ closeNames 2 (Text.lower token) ((ofNames namesOfOrders).drawer letter) ↔
        IsNear namesOfOrders 2 token letter m := fun _ _ _ => mem_closeNames_drawer hdot
  have hone : (0 : ℤ) ≤ 1 := by decide
  have hthree : (0 : ℤ) ≤ 3 := by decide
  refine ⟨hdot, (closest_ofNames hdot 2 hone "Print").1 (by decide), ?_, ?_⟩
  · obtain ⟨all, hclosest, hsorted, hmem⟩ :=
      (closest_ofNames hdot 2 hone "OrdrSend").2 (by decide) (by decide) 'O' (by decide)
    refine ⟨all, hclosest, hsorted, fun m hm => (hmem m).mpr (Or.inl ((hnear _ _ m).mp ?_))⟩
    revert m
    decide
  · obtain ⟨all, hclosest, -, hmem⟩ :=
      (closest_ofNames hdot 2 hthree "Qrint").2 (by decide) (by decide) 'Q' (by decide)
    have hnone : ∀ m, ¬ IsNear namesOfOrders 2 "Qrint" ['Q'] m := fun m hm =>
      absurd ((hnear _ _ m).mpr hm) (List.eq_nil_iff_forall_not_mem.mp (by decide) m)
    have hP : IsNear namesOfOrders 2 "Qrint" ['P'] ⟨"Print", 1⟩ := (hnear _ _ _).mp (by decide)
    exact ⟨all, hclosest, (hmem _).mpr
      (Or.inr ⟨hnone, by decide, 'P', ⟨by decide, by decide, by decide⟩, hP⟩)⟩

end Dictionary

end MetaDesk.Spelling
