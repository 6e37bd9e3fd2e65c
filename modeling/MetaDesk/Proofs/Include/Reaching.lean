import MetaDesk.Include.Index
import MetaDesk.Proofs.Distinct
import MetaDesk.Proofs.Keyed
import MetaDesk.Proofs.Path.Order

/-! # From a header up to main files

`Include.Climbs` says that one gets from a key to another by going from a file to a header that
includes it, any number of times.  `reach` finds exactly the keys one gets to (`mem_reachOf`): a
round that finds nothing new ends it, and there are not more rounds than keys in the index that are
still unknown.  Includes in a circle do no harm.  So the main files that are found are those that
include something on the way up (`mem_mainsOf`). -/

namespace MetaDesk

/-- One gets from a key to this one through headers, the first of which includes the file of the
first key and each of which includes the one before. -/
inductive Include.Climbs (includes : Path → Text → Prop) (start : Text) : Text → Prop where
  | start : Climbs includes start start
  | up {key : Text} {p : Path} (hkey : Climbs includes start key) (hp : includes p key)
      (hheader : Flavor.isHeader p.suffix = true) : Climbs includes start (Include.keyOf p)

namespace IncludeIndex

open Include (Climbs)

/-- By the index, the source includes the file of the key. -/
def Includes (i : IncludeIndex) (p : Path) (key : Text) : Prop := p ∈ i.ofKey key

variable {i : IncludeIndex} {known : List Text} {key : Text}

theorem mem_headerKeys {key' : Text} : key' ∈ i.headerKeys key ↔
    ∃ p ∈ i.ofKey key, Flavor.isHeader p.suffix = true ∧ Include.keyOf p = key' := by
  simp only [headerKeys, List.mem_map, List.mem_filter, and_assoc]

/-- The headers above the known keys are known. -/
def IsClosed (i : IncludeIndex) (known : List Text) : Prop :=
  ∀ key ∈ known, ∀ key' ∈ i.headerKeys key, key' ∈ known

/-- The keys that one round adds. -/
def newKeys (i : IncludeIndex) (known : List Text) : List Text :=
  ((known.flatMap i.headerKeys).filter fun key => !known.contains key).eraseDups

theorem mem_newKeys : key ∈ i.newKeys known ↔
    (∃ key' ∈ known, key ∈ i.headerKeys key') ∧ key ∉ known := by
  simp [newKeys]

theorem reach_succ (steps : ℕ) : i.reach (steps + 1) known =
    if (i.newKeys known).isEmpty then known else i.reach steps (known ++ i.newKeys known) := rfl

theorem isClosed_iff : IsClosed i known ↔ i.newKeys known = [] := by
  rw [List.eq_nil_iff_forall_not_mem]
  constructor
  · intro hclosed key hnew
    obtain ⟨⟨key', hkey', hup⟩, hunknown⟩ := mem_newKeys.mp hnew
    exact hunknown (hclosed key' hkey' key hup)
  · intro hnone key hkey key' hup
    by_contra hunknown
    exact hnone key' (mem_newKeys.mpr ⟨⟨key, hkey, hup⟩, hunknown⟩)

theorem reach_of_isClosed (hclosed : IsClosed i known) (steps : ℕ) :
    i.reach steps known = known := by
  cases steps with
  | zero => rfl
  | succ steps => rw [reach_succ, isClosed_iff.mp hclosed, List.isEmpty_nil, if_pos rfl]

/-! ### Rounds -/

/-- The keys of the index that are not known yet. -/
def unknownKeys (i : IncludeIndex) (known : List Text) : List Text :=
  i.includers.keys.filter fun key => !known.contains key

theorem mem_keys_of_mem_headerKeys {key' : Text} (h : key' ∈ i.headerKeys key) :
    key ∈ i.includers.keys := by
  by_contra hkey
  obtain ⟨p, hp, -⟩ := mem_headerKeys.mp h
  rw [ofKey, Keyed.get?_eq_none_iff.mpr hkey] at hp
  cases hp

/-- A round that does not come to an end finds a key of the index. -/
theorem length_unknownKeys_lt (hopen : ¬ IsClosed i (known ++ i.newKeys known)) :
    (i.unknownKeys (known ++ i.newKeys known)).length < (i.unknownKeys known).length := by
  unfold IsClosed at hopen
  push Not at hopen
  obtain ⟨key, hkey, key', hup, hunknown⟩ := hopen
  rw [List.mem_append, not_or] at hunknown
  -- A header above a key that was known before is known now, so this key is a new one.
  have hnew : key ∈ i.newKeys known := by
    rcases List.mem_append.mp hkey with hkey | hnew
    · exact absurd (mem_newKeys.mpr ⟨⟨key, hkey, hup⟩, hunknown.1⟩) hunknown.2
    · exact hnew
  have hbefore : key ∉ known := (mem_newKeys.mp hnew).2
  have hfilter : i.unknownKeys (known ++ i.newKeys known) =
      (i.unknownKeys known).filter fun key => !(i.newKeys known).contains key := by
    simp [unknownKeys, Bool.and_comm]
  rw [hfilter, List.length_filter_lt_length_iff_exists]
  refine ⟨key, ?_, by simpa using hnew⟩
  exact List.mem_filter.mpr ⟨mem_keys_of_mem_headerKeys hup, by simpa using hbefore⟩

/-- As many rounds as there are unknown keys, and one more, find all headers. -/
theorem isClosed_reach {steps : ℕ} (hsteps : (i.unknownKeys known).length < steps) :
    IsClosed i (i.reach steps known) := by
  induction steps generalizing known with
  | zero => exact absurd hsteps (Nat.not_lt_zero _)
  | succ steps ih =>
      rw [reach_succ]
      split_ifs with hnone
      · exact isClosed_iff.mpr (List.isEmpty_iff.mp hnone)
      · by_cases hclosed : IsClosed i (known ++ i.newKeys known)
        · rwa [reach_of_isClosed hclosed]
        · exact ih (by have := length_unknownKeys_lt hclosed; omega)

theorem subset_reach (steps : ℕ) : known ⊆ i.reach steps known := by
  induction steps generalizing known with
  | zero => exact List.Subset.refl known
  | succ steps ih =>
      rw [reach_succ]
      split_ifs
      · exact List.Subset.refl known
      · exact List.Subset.trans (List.subset_append_left known _) ih

theorem forall_mem_reach {P : Text → Prop} (hknown : ∀ key ∈ known, P key)
    (hup : ∀ key, P key → ∀ key' ∈ i.headerKeys key, P key') (steps : ℕ) :
    ∀ key ∈ i.reach steps known, P key := by
  induction steps generalizing known with
  | zero => exact hknown
  | succ steps ih =>
      rw [reach_succ]
      split_ifs
      · exact hknown
      · refine ih fun key hkey => ?_
        rcases List.mem_append.mp hkey with hkey | hnew
        · exact hknown key hkey
        · obtain ⟨⟨key', hkey', habove⟩, -⟩ := mem_newKeys.mp hnew
          exact hup key' (hknown key' hkey') key habove

/-- What is found from a file are the keys that one gets to. -/
theorem mem_reachOf {p : Path} :
    key ∈ i.reachOf p ↔ Climbs i.Includes (Include.keyOf p) key := by
  constructor
  · refine forall_mem_reach (P := Climbs i.Includes (Include.keyOf p)) (fun key hkey => ?_)
      (fun key hkey key' hup => ?_) _ key
    · rw [List.mem_singleton.mp hkey]
      exact .start
    · obtain ⟨q, hq, hheader, rfl⟩ := mem_headerKeys.mp hup
      exact .up hkey hq hheader
  · intro hclimbs
    have hclosed : IsClosed i (i.reachOf p) := by
      refine isClosed_reach (Nat.lt_succ_of_le ?_)
      exact (List.length_filter_le _ _).trans (List.length_map _).le
    induction hclimbs with
    | start => exact subset_reach _ (List.mem_singleton_self _)
    | up _ hq hheader ih => exact hclosed _ ih _ (mem_headerKeys.mpr ⟨_, hq, hheader, rfl⟩)

/-- The main files of a header are those that include a file on the way up from it. -/
theorem mem_mainsOf {header m : Path} : m ∈ i.mainsOf header ↔
    (Flavor.ofSuffix? m.suffix).isSome = true ∧
      ∃ key, Climbs i.Includes (Include.keyOf header) key ∧ i.Includes m key := by
  simp only [Includes, mainsOf, List.mem_mergeSort, List.mem_eraseDups, List.mem_filter, List.mem_flatMap,
    mem_reachOf]
  exact and_comm

theorem pairwise_mainsOf {header : Path} {root : Root}
    (hroot : ∀ key p, i.Includes p key → p.root = root) :
    (i.mainsOf header).Pairwise fun p q => Path.before p q = true := by
  refine Path.pairwise_mergeSort_notAfter (nodup_eraseDups _) root ?_
  intro p hp
  obtain ⟨hp, -⟩ := List.mem_filter.mp (List.mem_eraseDups.mp hp)
  obtain ⟨key, -, hp⟩ := List.mem_flatMap.mp hp
  exact hroot key p hp

end IncludeIndex

end MetaDesk
