import MetaDesk.Disk.Settle
import MetaDesk.Proofs.Disk.Tree
import MetaDesk.Proofs.Path.Reading

/-! # Arriving without links

Where names lead without a link is told by the names alone (`foldl_push_of_walk`).  So for a path that
leads to something without one, following links does no more than taking the double dots away
(`settle_of_arrived`). -/

namespace MetaDesk.Disk

open MetaDesk.Path (isKept push up)

/-- A path keeps each name on the disk: none is empty or a single dot. -/
def NamesKept (d : Disk) : Prop := ∀ e ∈ d.entries, ∀ name ∈ e.1, isKept name = true

/-- The place that a name means, as seen from a place. -/
def next (place : Place) (name : Text) : Place := (push true place.reverse name).reverse

variable {d : Disk} {here place place' : Place} {name : Text} {names : List Text}

theorem NamesKept.of_node? (hd : d.NamesKept) (hthere : d.node? place ≠ none) :
    ∀ name ∈ place, isKept name = true := by
  rcases List.eq_nil_or_concat' place with rfl | ⟨before, last, rfl⟩
  · exact List.forall_mem_nil _
  · obtain ⟨n, hn⟩ := Option.ne_none_iff_exists'.mp hthere
    exact hd _ (mem_entries_of_node? hn)

theorem next_of_ne (hname : name ≠ up) : next place name = place ++ [name] := by
  rw [next, Path.push_of_ne hname, List.reverse_cons, List.reverse_reverse]

theorem next_up (hup : up ∉ place) : next place up = place.dropLast := by
  unfold next push
  rw [if_pos rfl, ← List.reverse_reverse place.dropLast, ← List.tail_reverse]
  cases hback : place.reverse with
  | nil => rfl
  | cons last rest =>
      have hlast : last ≠ up := by
        rintro rfl
        exact hup (List.mem_reverse.mp (hback ▸ List.mem_cons_self))
      dsimp only
      rw [if_neg hlast, List.tail_cons]

theorem up_notMem_next (hup : up ∉ place) : up ∉ next place name := by
  have hback : up ∉ place.reverse := fun hmem => hup (List.mem_reverse.mp hmem)
  exact fun hmem => Path.not_mem_push hback (List.mem_reverse.mp hmem)

/-! ### Walking -/

theorem walk_next (hup : up ∉ place) (hwalk : d.walk true place (name :: names) = .arrived place') :
    d.walk true (next place name) names = .arrived place' ∧
      (name ≠ up → ∀ target, d.node? (next place name) ≠ some (.link target)) := by
  unfold walk at hwalk
  split at hwalk
  · cases hwalk
  · split at hwalk
    · cases hwalk
    · split at hwalk
      · next hname =>
          subst hname
          rw [next_up hup]
          exact ⟨hwalk, fun hne => absurd rfl hne⟩
      · next hname =>
          rw [next_of_ne hname]
          split at hwalk
          · cases hwalk
          · next hlink => exact ⟨hwalk, fun _ target hn => hlink target hn⟩
  · cases hwalk

theorem node?_ne_none_of_walk (hwalk : d.walk true place names = .arrived place')
    (hthere : d.node? place' ≠ none) : d.node? place ≠ none := by
  cases names with
  | nil =>
      rw [walk] at hwalk
      cases hwalk
      exact hthere
  | cons name names =>
      intro hnone
      rw [walk, hnone] at hwalk
      cases hwalk

/-- Where names lead without a link is told by the names. -/
theorem foldl_push_of_walk (hup : up ∉ place) (hwalk : d.walk true place names = .arrived place') :
    names.foldl (push true) place.reverse = place'.reverse := by
  induction names generalizing place with
  | nil =>
      rw [walk] at hwalk
      cases hwalk
      rfl
  | cons name names ih =>
      have hnext := ih (up_notMem_next hup) (walk_next hup hwalk).1
      rwa [next, List.reverse_reverse] at hnext

/-! ### Settling -/

theorem link?_pathOf (hup : up ∉ place) (hlink : ∀ target, d.node? place ≠ some (.link target)) :
    d.link? here (pathOf place) = none := by
  have hwhole : ((pathOf here).join (pathOf place)).collapse = pathOf place :=
    (congrArg _ (Path.join_of_isAbsolute rfl)).trans (Path.collapse_of_not_mem hup)
  rw [link?, hwhole]
  split
  · next target hn => exact absurd hn (hlink target)
  · rfl

/-- Following the pieces of a way without links leads to its end, whatever is done at links. -/
theorem settleFrom_of_walk (hd : d.NamesKept) (through : Path → Path → Text → Except Path Path)
    (hup : up ∉ place) (hwalk : d.walk true place names = .arrived place')
    (hthere : d.node? place' ≠ none) :
    d.settleFrom here through (pathOf place) names = .ok (pathOf place') := by
  induction names generalizing place with
  | nil =>
      rw [walk] at hwalk
      cases hwalk
      rfl
  | cons name names ih =>
      obtain ⟨hrest, hlink⟩ := walk_next hup hwalk
      have hwhole := ih (up_notMem_next hup) hrest
      by_cases hname : name = up
      · subst hname
        exact hwhole
      · have hkept : isKept name = true := by
          refine hd.of_node? (node?_ne_none_of_walk hrest hthere) name ?_
          rw [next_of_ne hname]
          exact List.mem_append_right _ (List.mem_singleton_self _)
        have hnone : d.link? here (pathOf (next place name)) = none :=
          link?_pathOf (up_notMem_next hup) (hlink hname)
        have hstep : (⟨(pathOf place).root, (push (pathOf place).isAbsolute
            (pathOf place).names.reverse name).reverse⟩ : Path) = pathOf (next place name) := rfl
        unfold settleFrom
        rw [hkept, Bool.not_true, if_neg Bool.false_ne_true]
        dsimp only
        rw [if_neg hname, hstep, hnone]
        exact hwhole

/-- **Arriving without links.**  The path without links is the path without double dots. -/
theorem settle_of_arrived (hd : d.NamesKept) {q : Path} (hq : q.isAbsolute = true)
    (hwalk : d.walk true [] q.names = .arrived place) (hthere : d.node? place ≠ none) :
    d.settle here q = some q.collapse.names := by
  have hcollapse : q.collapse.names = place := by
    have hfold := foldl_push_of_walk List.not_mem_nil hwalk
    rw [List.reverse_nil] at hfold
    rw [Path.collapse, hq, hfold, List.reverse_reverse]
  have hup : up ∉ place := hcollapse ▸ Path.not_mem_collapse hq
  have hway : ∀ depth, d.settleWithin here depth [] (pathOf []) q.names = .ok (pathOf place) := by
    intro depth
    cases depth <;> exact settleFrom_of_walk hd _ List.not_mem_nil hwalk hthere
  have hwhole : ((pathOf here).join ⟨.single, place.filter isKept⟩).collapse = pathOf place := by
    rw [List.filter_eq_self.mpr (hd.of_node? hthere)]
    exact (congrArg _ (Path.join_of_isAbsolute rfl)).trans (Path.collapse_of_not_mem hup)
  unfold settle
  rw [hq, if_pos rfl, hcollapse]
  dsimp only
  rw [hway]
  exact congrArg (fun p : Path => some p.names) hwhole

theorem node?_of_look {q : Path} {n : Node} (hq : q.isAbsolute = true)
    (hwalk : d.walk true [] q.names = .arrived place) (hlook : d.look here q = .ok n) :
    d.node? place = some n := by
  rw [look, find, hq, if_pos rfl] at hlook
  split at hlook
  · cases hlook
  · rw [follow, hwalk] at hlook
    simp only [bind, Except.bind] at hlook
    cases hnode : d.node? place with
    | none =>
        rw [hnode] at hlook
        cases hlook
    | some n' =>
        rw [hnode] at hlook
        cases hlook
        rfl

end MetaDesk.Disk
