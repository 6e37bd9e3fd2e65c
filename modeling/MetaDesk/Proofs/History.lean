import Mathlib.Data.List.DropRight
import Mathlib.Data.List.TakeWhile

/-! # Histories

A history is the list of what has happened, the oldest event first.  Some events start a thing if it is
not there yet, and some end it: a name that is looked up starts a dictionary, and forgetting the
dictionary ends it.  `since` is the part of a history in which the thing is there, from the event that
started it, and `before` is what had happened until then.

An event that ends the thing leaves nothing of `since`; another one is added to it, and then `before`
stays as it was (`before_append`). -/

namespace MetaDesk.History

variable {α : Type} (ends starts : α → Bool)

/-- The events since the last one that ended the thing. -/
def sinceEnd (events : List α) : List α := events.rtakeWhile fun event => !ends event

/-- The events since the thing is there, the one that started it included. -/
def since (events : List α) : List α := (sinceEnd ends events).dropWhile fun event => !starts event

/-- The events before the thing was there; all of them when it is not there. -/
def before (events : List α) : List α := events.rdrop (since ends starts events).length

variable {ends starts} {events later : List α} {event : α}

theorem since_suffix : since ends starts events <:+ events :=
  (List.dropWhile_suffix _).trans (List.rtakeWhile_suffix _ _)

theorem before_append_since : before ends starts events ++ since ends starts events = events :=
  List.suffix_iff_eq_append.mp since_suffix

theorem length_before_lt (h : since ends starts events ≠ []) :
    (before ends starts events).length < events.length := by
  have hpos : 0 < (since ends starts events).length := List.length_pos_iff.mpr h
  have hsum : (before ends starts events).length + (since ends starts events).length =
      events.length := by
    rw [← List.length_append, before_append_since]
  omega

/-- Nothing is there when nothing started it since the last end. -/
theorem since_eq_nil_iff :
    since ends starts events = [] ↔ ∀ event ∈ sinceEnd ends events, starts event = false := by
  rw [since, List.dropWhile_eq_nil_iff]
  simp only [Bool.not_eq_true']

theorem before_of_since_eq_nil (h : since ends starts events = []) :
    before ends starts events = events := by
  rw [before, h, List.length_nil, List.rdrop_zero]

/-! ### One more event -/

theorem sinceEnd_concat_of_ends (h : ends event = true) : sinceEnd ends (events ++ [event]) = [] :=
  List.rtakeWhile_concat_neg _ _ _ (by simp [h])

theorem sinceEnd_concat (h : ends event = false) :
    sinceEnd ends (events ++ [event]) = sinceEnd ends events ++ [event] :=
  List.rtakeWhile_concat_pos _ _ _ (by simp [h])

theorem since_concat_of_ends (h : ends event = true) : since ends starts (events ++ [event]) = [] := by
  rw [since, sinceEnd_concat_of_ends h, List.dropWhile_nil]

theorem since_concat (h : ends event = false) : since ends starts (events ++ [event]) =
    if since ends starts events = [] ∧ starts event = false then []
    else since ends starts events ++ [event] := by
  rw [since, sinceEnd_concat h, List.dropWhile_append]
  -- the event that started the thing is in the old part, or it can only be the new one
  change (if (since ends starts events).isEmpty then _ else since ends starts events ++ [event]) = _
  cases hsince : since ends starts events with
  | nil => cases hstarts : starts event <;> simp [hstarts]
  | cons first rest => simp

theorem since_concat_ne_nil (h : ends event = false) (hthere : since ends starts events ≠ []) :
    since ends starts (events ++ [event]) ≠ [] := by
  rw [since_concat h, if_neg fun hnone => hthere hnone.1]
  exact List.concat_ne_nil _ _

/-- A thing that is there stays as long as nothing ends it, and started when it did. -/
theorem before_concat (h : ends event = false) (hthere : since ends starts events ≠ []) :
    before ends starts (events ++ [event]) = before ends starts events := by
  rw [before, since_concat h, if_neg fun hnone => hthere hnone.1, List.length_append,
    List.length_singleton, List.rdrop_concat_succ]
  rfl

/-- A thing that was not there starts with the event. -/
theorem before_concat_of_starts (h : ends event = false) (hstarts : starts event = true)
    (hnone : since ends starts events = []) : before ends starts (events ++ [event]) = events := by
  have hfirst : since ends starts (events ++ [event]) = [event] := by
    rw [since_concat h, if_neg (by simp [hstarts]), hnone, List.nil_append]
  rw [before, hfirst, List.length_singleton, List.rdrop_concat_succ, List.rdrop_zero]

/-! ### Many more -/

theorem since_append_ne_nil (hlater : ∀ event ∈ later, ends event = false)
    (hthere : since ends starts events ≠ []) : since ends starts (events ++ later) ≠ [] := by
  induction later using List.reverseRecOn with
  | nil => rwa [List.append_nil]
  | append_singleton later event ih =>
      rw [← List.append_assoc]
      exact since_concat_ne_nil (hlater event (by simp))
        (ih fun event hevent => hlater event (by simp [hevent]))

theorem before_append (hlater : ∀ event ∈ later, ends event = false)
    (hthere : since ends starts events ≠ []) :
    before ends starts (events ++ later) = before ends starts events := by
  induction later using List.reverseRecOn with
  | nil => rw [List.append_nil]
  | append_singleton later event ih =>
      have hrest : ∀ event ∈ later, ends event = false := fun event hevent =>
        hlater event (by simp [hevent])
      rw [← List.append_assoc, before_concat (hlater event (by simp))
        (since_append_ne_nil hrest hthere), ih hrest]

end MetaDesk.History
