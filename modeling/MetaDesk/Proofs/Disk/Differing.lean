import MetaDesk.Disk.Basic
import Mathlib.Data.Nat.Notation

/-! # Disks that differ in one file

Two disks are the same but at a place when at that place each has a file or nothing (`SameBut`).  A
path leads to the same place on both, or to nowhere on both, since no way leads on from a file
(`SameBut.find`).  So a question about a path that does not lead to the place has the same answer
(`SameBut.exists?_eq`), and once the file is taken away the disks are equal (`HasAtMostFile.unlink`). -/

namespace MetaDesk.Disk

variable {d d' : Disk} {place : Place}

/-- At the place there is nothing or a file. -/
def HasAtMostFile (d : Disk) (place : Place) : Prop :=
  ∃ content : Option Bytes, d.node? place = content.map .file

/-- The disks differ at most in whether there is a file at the place and in what it holds. -/
structure SameBut (place : Place) (d d' : Disk) : Prop where
  others : d.remove place = d'.remove place
  first : d.HasAtMostFile place
  second : d'.HasAtMostFile place

/-- The disks differ at most in a file at a path; where the path leads to no place they are equal. -/
def DifferAt (here : Place) (p : Path) (d d' : Disk) : Prop :=
  match d.find false here p with
  | .ok place => SameBut place d d'
  | .error _ => d = d'

theorem lookup_filter_of_ne {entries : List (Place × Node)} {q : Place} (hq : q ≠ place) :
    (entries.filter fun e => e.1 ≠ place).lookup q = entries.lookup q := by
  induction entries with
  | nil => rfl
  | cons e entries ih =>
      obtain ⟨p, n⟩ := e
      by_cases hp : p = place
      · have hother : (q == p) = false := by simpa using fun h => hq (h.trans hp)
        rw [List.filter_cons_of_neg (by simp [hp]), ih, List.lookup_cons, hother]
      · rw [List.filter_cons_of_pos (by simp [hp]), List.lookup_cons, List.lookup_cons, ih]

theorem node?_remove_of_ne {q : Place} (hq : q ≠ place) :
    (d.remove place).node? q = d.node? q := by
  have hlookup : (d.remove place).entries.lookup q = d.entries.lookup q := lookup_filter_of_ne hq
  rw [node?, node?, hlookup]

/-- Taking away what is not there changes nothing. -/
theorem remove_of_node?_eq_none (hnone : d.node? place = none) : d.remove place = d := by
  have hplace : place.isEmpty = false := by
    cases place with
    | nil => cases hnone
    | cons => rfl
  unfold node? at hnone
  rw [hplace, if_neg Bool.false_ne_true, List.lookup_eq_none_iff] at hnone
  unfold remove
  rw [List.filter_eq_self.mpr]
  intro e he
  have hother : e.1 ≠ place := fun h => by simpa [h] using hnone e he
  exact decide_eq_true hother

theorem SameBut.node?_eq (hsame : SameBut place d d') {q : Place} (hq : q ≠ place) :
    d.node? q = d'.node? q := by
  rw [← node?_remove_of_ne hq, hsame.others, node?_remove_of_ne hq]

/-! ### Following paths -/

/-- Two ways are the same, or both lead to nothing. -/
def SameOrAbsent {α : Type} (failed : Errno → α) (way way' : α) : Prop :=
  way = way' ∨ ∃ e e', way = failed e ∧ way' = failed e' ∧
    e.meansAbsent = true ∧ e'.meansAbsent = true

/-- A way does not lead on from a file or from nothing. -/
theorem HasAtMostFile.walk (hfile : d.HasAtMostFile place) (through : Bool) (name : Text)
    (rest : List Text) :
    ∃ e, d.walk through place (name :: rest) = .failed e ∧ e.meansAbsent = true := by
  obtain ⟨content, hnode⟩ := hfile
  rw [Disk.walk, hnode]
  cases content <;> exact ⟨_, rfl, rfl⟩

theorem SameBut.walk (hsame : SameBut place d d') (through : Bool) (cur : Place)
    (names : List Text) :
    SameOrAbsent Step.failed (d.walk through cur names) (d'.walk through cur names) := by
  induction names generalizing cur with
  | nil =>
      rw [walk_arrived, walk_arrived]
      exact Or.inl rfl
  | cons name rest ih =>
      by_cases hcur : cur = place
      · subst hcur
        obtain ⟨e, hwalk, habsent⟩ := hsame.first.walk through name rest
        obtain ⟨e', hwalk', habsent'⟩ := hsame.second.walk through name rest
        exact Or.inr ⟨e, e', hwalk, hwalk', habsent, habsent'⟩
      rw [Disk.walk, Disk.walk, ← hsame.node?_eq hcur]
      rcases d.node? cur with _ | content | _ | target
      · exact Or.inl rfl
      · exact Or.inl rfl
      · dsimp only
        by_cases hlong : maxName < (Utf8.encode name).length
        · rw [if_pos hlong, if_pos hlong]
          exact Or.inl rfl
        rw [if_neg hlong, if_neg hlong]
        by_cases hup : name = Path.up
        · rw [if_pos hup, if_pos hup]
          exact ih _
        rw [if_neg hup, if_neg hup]
        by_cases hnext : cur ++ [name] = place
        · -- a file is passed like nothing, so that the next name fails on both disks
          obtain ⟨content, hnode⟩ := hsame.first
          obtain ⟨content', hnode'⟩ := hsame.second
          rw [hnext, hnode, hnode']
          cases content <;> cases content' <;> exact ih _
        · rw [← hsame.node?_eq hnext]
          split
          · exact Or.inl rfl
          · exact ih _
      · exact Or.inl rfl

theorem SameBut.follow (hsame : SameBut place d d') (through : Bool) (links : ℕ) (cur : Place)
    (names : List Text) :
    SameOrAbsent Except.error (d.follow through links cur names)
      (d'.follow through links cur names) := by
  induction links generalizing cur names with
  | zero => exact Or.inl rfl
  | succ links ih =>
      rw [Disk.follow, Disk.follow]
      rcases hsame.walk through cur names with hwalk | ⟨e, e', hwalk, hwalk', habsent, habsent'⟩
      · rw [hwalk]
        split
        · exact Or.inl rfl
        · exact Or.inl rfl
        · dsimp only
          split
          · exact Or.inl rfl
          · exact ih _ _
      · rw [hwalk, hwalk']
        exact Or.inr ⟨e, e', rfl, rfl, habsent, habsent'⟩

/-- A path leads to the same place on both disks, or to nothing. -/
theorem SameBut.find (hsame : SameBut place d d') (through : Bool) (here : Place) (p : Path) :
    SameOrAbsent Except.error (d.find through here p) (d'.find through here p) := by
  unfold Disk.find
  split
  · exact Or.inl rfl
  · exact hsame.follow through _ _ _

theorem SameBut.find_eq_ok (hsame : SameBut place d d') {through : Bool} {here q : Place} {p : Path}
    (hfind : d.find through here p = .ok q) : d'.find through here p = .ok q := by
  rcases hsame.find through here p with heq | ⟨e, e', herror, -⟩
  · rw [← heq, hfind]
  · rw [hfind] at herror
    cases herror

/-! ### Asking and taking away -/

theorem exists?_of_error {here : Place} {p : Path} {e : Errno}
    (hfind : d.find true here p = .error e) :
    d.exists? here p = if e.meansAbsent then .ok false else .error e := by
  unfold exists? look
  rw [hfind]
  rfl

theorem exists?_of_find {here q : Place} {p : Path} (hfind : d.find true here p = .ok q) :
    d.exists? here p = .ok (d.node? q).isSome := by
  unfold exists? look
  rw [hfind]
  simp only [bind, Except.bind]
  cases d.node? q <;> rfl

/-- Whether something is at a path that does not lead to the place is the same on both disks. -/
theorem SameBut.exists?_eq (hsame : SameBut place d d') {here : Place} {p : Path}
    (hother : d.find true here p ≠ .ok place) : d.exists? here p = d'.exists? here p := by
  rcases hsame.find true here p with heq | ⟨e, e', herror, herror', habsent, habsent'⟩
  · cases hfind : d.find true here p with
    | error e => rw [exists?_of_error hfind, exists?_of_error (heq ▸ hfind)]
    | ok q =>
        have hq : q ≠ place := by
          rintro rfl
          exact hother hfind
        rw [exists?_of_find hfind, exists?_of_find (heq ▸ hfind), hsame.node?_eq hq]
  · rw [exists?_of_error herror, exists?_of_error herror', habsent, habsent']
    rfl

/-- Taking away a file succeeds, or there is none and then nothing is to be done. -/
theorem HasAtMostFile.unlink (hfile : d.HasAtMostFile place) {here : Place} {p : Path}
    (hfind : d.find false here p = .ok place) :
    d.unlink here p = .ok (d.remove place) ∨
      d.unlink here p = .error .notFound ∧ d.remove place = d := by
  unfold Disk.unlink
  rw [hfind]
  obtain ⟨content, hnode⟩ := hfile
  simp only [bind, Except.bind]
  cases content with
  | none =>
      rw [hnode]
      exact Or.inr ⟨rfl, remove_of_node?_eq_none hnode⟩
  | some content =>
      rw [hnode]
      exact Or.inl rfl

end MetaDesk.Disk
