import MetaDesk.Disk.Basic
import Mathlib.Data.Nat.Notation

/-! # Looking at paths

What goes wrong on the way along a path means that there is nothing at it, or that a name or the path
is too long (`isOfLookup_of_look`).  The question whether there is a file is answered in the first
case and left open in the second (`isFile?_eq_error_iff`). -/

namespace MetaDesk.Disk

variable {d : Disk} {here : Place} {p : Path} {e : Errno}

/-- An error that means absence, or that a name or a path is too long. -/
def IsOfLookup (e : Errno) : Prop := e.meansAbsent = true ∨ e = .nameTooLong

theorem isOfLookup_of_walk {through : Bool} {place : Place} {names : List Text}
    (hwalk : d.walk through place names = .failed e) : IsOfLookup e := by
  fun_induction walk d through place names with
  | case1 => cases hwalk
  | case2 => cases hwalk; exact Or.inl rfl
  | case3 => cases hwalk; exact Or.inr rfl
  | case4 _ _ _ _ ih => exact ih hwalk
  | case5 => cases hwalk
  | case6 => cases hwalk
  | case7 _ _ _ _ _ _ _ ih => exact ih hwalk
  | case8 => cases hwalk; exact Or.inl rfl

theorem isOfLookup_of_follow {through : Bool} {links : ℕ} {place : Place} {names : List Text}
    (hfollow : d.follow through links place names = .error e) : IsOfLookup e := by
  induction links generalizing place names with
  | zero => cases hfollow; exact Or.inl rfl
  | succ links ih =>
      rw [follow] at hfollow
      split at hfollow
      · cases hfollow
      · next hwalk => cases hfollow; exact isOfLookup_of_walk hwalk
      · dsimp only at hfollow
        split at hfollow
        · cases hfollow; exact Or.inl rfl
        · exact ih hfollow

/-- Nothing else goes wrong when one looks at a path. -/
theorem isOfLookup_of_look (hlook : d.look here p = .error e) : IsOfLookup e := by
  unfold look at hlook
  cases hfind : d.find true here p with
  | error e' =>
      rw [hfind] at hlook
      cases hlook
      unfold find at hfind
      split at hfind
      · cases hfind; exact Or.inr rfl
      · exact isOfLookup_of_follow hfind
  | ok place =>
      cases hnode : d.node? place with
      | some n =>
          simp only [hfind, bind, Except.bind, hnode] at hlook
          cases hlook
      | none =>
          simp only [hfind, bind, Except.bind, hnode] at hlook
          cases hlook
          exact Or.inl rfl

theorem isFile?_eq_true_iff : d.isFile? here p = .ok true ↔
    ∃ content, d.look here p = .ok (.file content) := by
  unfold isFile?
  split <;> simp_all
  split <;> simp_all

/-- Whether there is a file is told unless a name or the path is too long. -/
theorem isFile?_eq_error_iff : d.isFile? here p = .error e ↔
    e = .nameTooLong ∧ d.look here p = .error .nameTooLong := by
  have hpresent : Errno.nameTooLong.meansAbsent = false := by decide
  unfold isFile?
  split
  · simp_all
  · simp_all
  · next e' hlook =>
      rw [hlook]
      rcases isOfLookup_of_look hlook with habsent | rfl
      · have hother : e' ≠ .nameTooLong := by
          rintro rfl
          rw [habsent] at hpresent
          cases hpresent
        simp [habsent, hother]
      · simp [hpresent, eq_comm]

/-- In the root there is no name that is too long, whatever else is on the disk. -/
theorem look_of_longName {name : Text} {root : Root} {names : List Text}
    (habsolute : Path.isAbsolute ⟨root, name :: names⟩ = true)
    (hname : maxName < (Utf8.encode name).length) :
    d.look here ⟨root, name :: names⟩ = .error .nameTooLong := by
  have hwalk : d.walk true [] (name :: names) = .failed .nameTooLong := by
    have hroot : d.node? [] = some .folder := rfl
    rw [walk, hroot]
    exact if_pos hname
  have hfind : d.find true here ⟨root, name :: names⟩ = .error .nameTooLong := by
    unfold find
    split
    · rfl
    · rw [follow, hwalk]
  unfold look
  rw [hfind]
  rfl

theorem exists?_of_longName {name : Text} {root : Root} {names : List Text}
    (habsolute : Path.isAbsolute ⟨root, name :: names⟩ = true)
    (hname : maxName < (Utf8.encode name).length) :
    d.exists? here ⟨root, name :: names⟩ = .error .nameTooLong := by
  unfold exists?
  rw [look_of_longName habsolute hname]
  rfl

end MetaDesk.Disk
