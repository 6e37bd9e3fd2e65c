import MetaDesk.Proofs.Spelling.EditDistance
import MetaDesk.Spelling.Distance

/-! # The bounded distance

`distanceWithin?` works on one row at a time and gives up early.  A row belongs to the part of the
longer text that was read, and its cells are the edit distances of that part from the beginnings of
the shorter text.  Both are kept with their last character first (`distancesFrom`), since a cell is
made by comparing last characters; reversing two texts does not change their distance.

* `nextRow_distancesFrom`: the next row is the row of one more character;
* `isBeyond_nextRow`: a row above the bound is followed only by rows above it, so giving up early
  loses nothing;
* `distanceWithin?_eq`: the result is the edit distance if that is not above the bound, and none
  otherwise. -/

namespace MetaDesk.Spelling

/-- The distances of `a` from `s` with more and more characters of `b` before it.  Read backwards,
`s` is a beginning of a text and `b` is the rest of it. -/
def distancesFrom (a : Text) : Text → Text → List ℕ
  | s, [] => [editDistance a s]
  | s, d :: b => editDistance a s :: distancesFrom a (d :: s) b

/-! ### Cells and rows -/

theorem distancesFrom_eq_cons (a s b : Text) :
    distancesFrom a s b = editDistance a s :: (distancesFrom a s b).tail := by
  cases b <;> rfl

theorem cellsAfter_distancesFrom (c : Char) (a s b : Text) :
    cellsAfter c (editDistance a s) (editDistance (c :: a) s) b (distancesFrom a s b).tail =
      (distancesFrom (c :: a) s b).tail := by
  induction b generalizing s with
  | nil => rfl
  | cons d b ih =>
      have hcell : min (min (editDistance a (d :: s) + 1) (editDistance (c :: a) s + 1))
          (editDistance a s + exchangeCost c d) = editDistance (c :: a) (d :: s) := by
        rw [editDistance_cons_cons]
        rfl
      rw [distancesFrom, distancesFrom, List.tail_cons, List.tail_cons,
        distancesFrom_eq_cons a (d :: s) b, distancesFrom_eq_cons (c :: a) (d :: s) b, cellsAfter]
      simp only [hcell, ih]

/-- The next row belongs to one more character. -/
theorem nextRow_distancesFrom (c : Char) (a b : Text) :
    nextRow c (a.length + 1) b (distancesFrom a [] b) = distancesFrom (c :: a) [] b := by
  have hcells := cellsAfter_distancesFrom c a [] b
  rw [editDistance_nil_right (c :: a), List.length_cons] at hcells
  rw [distancesFrom_eq_cons a [] b, nextRow, hcells]
  conv_rhs => rw [distancesFrom_eq_cons, editDistance_nil_right, List.length_cons]

theorem distancesFrom_nil (s b : Text) :
    distancesFrom [] s b = List.range' s.length (b.length + 1) := by
  induction b generalizing s with
  | nil => simp [distancesFrom, editDistance_nil_left]
  | cons d b ih =>
      rw [distancesFrom, ih, editDistance_nil_left, List.length_cons, List.length_cons]
      rfl

theorem getLast?_distancesFrom (a s b : Text) :
    (distancesFrom a s b).getLast? = some (editDistance a (b.reverse ++ s)) := by
  induction b generalizing s with
  | nil => rfl
  | cons d b ih =>
      rw [distancesFrom, List.getLast?_cons, ih, List.reverse_cons, List.append_assoc]
      rfl

/-! ### Giving up early -/

theorem isBeyond_iff {most : ℤ} {row : List ℕ} :
    isBeyond most row = true ↔ ∀ n ∈ row, most < n := by
  simp [isBeyond]

theorem isBeyond_cons {most : ℤ} {n : ℕ} {row : List ℕ} :
    isBeyond most (n :: row) = true ↔ most < n ∧ isBeyond most row = true := by
  simp [isBeyond]

theorem isBeyond_cellsAfter {most : ℤ} (c : Char) (b : Text) :
    ∀ {corner last : ℕ} {row : List ℕ}, most < corner → most < last → isBeyond most row = true →
      isBeyond most (cellsAfter c corner last b row) = true := by
  induction b with
  | nil => intro corner last row _ _ _; simp [cellsAfter, isBeyond]
  | cons d b ih =>
      intro corner last row hcorner hlast hrow
      cases row with
      | nil => simp [cellsAfter, isBeyond]
      | cons above row =>
          obtain ⟨habove, hrow⟩ := isBeyond_cons.mp hrow
          have hcell :
              most < (min (min (above + 1) (last + 1)) (corner + exchangeCost c d) : ℕ) := by
            omega
          rw [cellsAfter, isBeyond_cons]
          exact ⟨hcell, ih habove hcell hrow⟩

/-- Distances do not come back below the bound: the least cell of a row never decreases. -/
theorem isBeyond_nextRow {most : ℤ} (c : Char) (n : ℕ) (b : Text) {row : List ℕ}
    (hn : ∀ corner ∈ row.head?, corner ≤ n) (h : isBeyond most row = true) :
    isBeyond most (nextRow c n b row) = true := by
  cases row with
  | nil => exact h
  | cons corner row =>
      obtain ⟨hcorner, hrow⟩ := isBeyond_cons.mp h
      have hle := hn corner rfl
      have hfirst : most < n := by omega
      rw [nextRow, isBeyond_cons]
      exact ⟨hfirst, isBeyond_cellsAfter c b hcorner hfirst hrow⟩

theorem isBeyond_distancesFrom_append {most : ℤ} (a a' b : Text)
    (h : isBeyond most (distancesFrom a [] b) = true) :
    isBeyond most (distancesFrom (a' ++ a) [] b) = true := by
  induction a' with
  | nil => exact h
  | cons c a' ih =>
      rw [List.cons_append, ← nextRow_distancesFrom]
      refine isBeyond_nextRow c _ b ?_ ih
      intro corner hcorner
      rw [distancesFrom_eq_cons, editDistance_nil_right] at hcorner
      simp only [List.head?_cons, Option.mem_some_iff] at hcorner
      omega

/-- The rows end with the row of the whole text, or that row is above the bound. -/
theorem lastRow?_distancesFrom (most : ℤ) (b a done : Text) :
    lastRow? most b done.length (distancesFrom done [] b) a =
        some (distancesFrom (a.reverse ++ done) [] b) ∨
      lastRow? most b done.length (distancesFrom done [] b) a = none ∧
        isBeyond most (distancesFrom (a.reverse ++ done) [] b) = true := by
  induction a generalizing done with
  | nil => exact Or.inl rfl
  | cons c a ih =>
      simp only [lastRow?, nextRow_distancesFrom, List.reverse_cons, List.append_assoc,
        List.singleton_append]
      split_ifs with h
      · exact Or.inr ⟨rfl, isBeyond_distancesFrom_append (c :: done) a.reverse b h⟩
      · exact ih (c :: done)

/-! ### The result -/

theorem atMost?_eq_none {most : ℤ} {n : ℕ} (h : most < n) : atMost? most n = none :=
  if_neg (by omega)

theorem distanceByRows?_eq (most : ℤ) (a b : Text) :
    distanceByRows? most a b = atMost? most (editDistance a b) := by
  have hfirst : List.range (a.length + 1) = distancesFrom [] [] a := by
    rw [distancesFrom_nil, List.range_eq_range']
    rfl
  have hlast : (distancesFrom b.reverse [] a).getLast? = some (editDistance a b) := by
    rw [getLast?_distancesFrom, List.append_nil, editDistance_reverse, editDistance_comm]
  unfold distanceByRows?
  rw [hfirst]
  rcases lastRow?_distancesFrom most a b [] with h | ⟨h, hbeyond⟩
  · rw [List.append_nil, List.length_nil] at h
    rw [h, Option.bind_some, hlast, Option.bind_some]
  · rw [List.append_nil] at hbeyond
    rw [List.length_nil] at h
    have hmem := List.mem_of_getLast? hlast
    rw [h, Option.bind_none, atMost?_eq_none (isBeyond_iff.mp hbeyond _ hmem)]

theorem distanceWithin?_eq_atMost? (most : ℤ) (a b : Text) :
    distanceWithin? most a b = atMost? most (editDistance a b) := by
  unfold distanceWithin?
  split_ifs with hlength hempty ha hlt
  · have := length_sub_le_editDistance a b
    rw [atMost?_eq_none (by omega)]
  · rw [List.isEmpty_iff.mp ha, editDistance_nil_left]
  · have hb : b = [] := by simpa [ha] using hempty
    rw [hb, editDistance_nil_right]
  · exact distanceByRows?_eq most a b
  · rw [distanceByRows?_eq, editDistance_comm]

/-- **The bounded distance is the edit distance within the bound**: the least number of edits
from one text to the other if that is not above the bound, and none otherwise. -/
theorem distanceWithin?_eq (most : ℤ) (a b : Text) :
    distanceWithin? most a b =
        (if (editDistance a b : ℤ) ≤ most then some (editDistance a b) else none) ∧
      IsLeast {n | Edits n a b} (editDistance a b) := by
  refine ⟨?_, editDistance_isLeast a b⟩
  exact distanceWithin?_eq_atMost? most a b

example : distanceWithin? 3 "kitten" "sitting" = some 3 ∧
    distanceWithin? 2 "kitten" "sitting" = none := by
  decide

end MetaDesk.Spelling
