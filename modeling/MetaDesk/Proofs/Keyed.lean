import MetaDesk.Keyed
import MetaDesk.Proofs.Distinct
import Mathlib.Data.List.Induction
import Mathlib.Data.List.Nodup

/-! # Entries of tables

A table in which each key is there once stays one when a key is set, and its entries are what its
keys give.  Setting or erasing a key leaves the entries of other keys at their places.

A table is brought up to date with another one by setting its entries one by one (`update`).  The
table of two lists of entries is that of the first brought up to date with that of the second
(`ofList_append`). -/

namespace MetaDesk

namespace Keyed

variable {κ α : Type} [DecidableEq κ]

theorem filter_put {p : κ → Bool} {k : κ} (hk : p k = false) (t : Keyed κ α) (v : α) :
    (t.put k v).filter (fun e => p e.1) = t.filter fun e => p e.1 := by
  induction t with
  | nil => simp [put, hk]
  | cons e t ih =>
      obtain ⟨k', v'⟩ := e
      rw [put]
      split_ifs with hkey
      · subst hkey
        rw [List.filter_cons_of_neg (by simp [hk]), List.filter_cons_of_neg (by simp [hk])]
      · rw [List.filter_cons, List.filter_cons, ih]

theorem filter_erase {p : κ → Bool} {k : κ} (hk : p k = false) (t : Keyed κ α) :
    (t.erase k).filter (fun e => p e.1) = t.filter fun e => p e.1 := by
  unfold erase
  rw [List.filter_filter]
  refine List.filter_congr fun e _ => ?_
  by_cases hkey : e.1 = k <;> simp [hkey, hk]

theorem nodup_keys_put {t : Keyed κ α} (ht : t.keys.Nodup) (k : κ) (v : α) :
    (t.put k v).keys.Nodup := by
  rw [keys_put]
  split_ifs with hk
  · exact ht
  · rw [← List.concat_eq_append]
    exact ht.concat hk

theorem get?_eq_none_iff {t : Keyed κ α} {k : κ} : t.get? k = none ↔ k ∉ t.keys := by
  induction t with
  | nil => simp
  | cons e t ih =>
      obtain ⟨k', v⟩ := e
      rw [get?_cons]
      split_ifs with hk
      · simp [keys, hk]
      · rw [ih]
        simp [keys, hk]

theorem get?_of_mem {t : Keyed κ α} (ht : t.keys.Nodup) {e : κ × α} (he : e ∈ t) :
    t.get? e.1 = some e.2 := by
  induction t with
  | nil => cases he
  | cons e' t ih =>
      obtain ⟨k', v'⟩ := e'
      obtain ⟨hfirst, hrest⟩ := List.nodup_cons.mp ht
      rw [get?_cons]
      rcases List.mem_cons.mp he with rfl | he
      · rw [if_pos rfl]
      · have hmem : e.1 ∈ keys t := List.mem_map.mpr ⟨e, he, rfl⟩
        have hkey : e.1 ≠ k' := fun h => hfirst (h ▸ hmem)
        rw [if_neg hkey, ih hrest he]

/-! ### Bringing a table up to date -/

/-- The table with the entries of another one set in their order. -/
def update (t u : Keyed κ α) : Keyed κ α := u.foldl (fun t e => put t e.1 e.2) t

theorem update_cons (t : Keyed κ α) (k : κ) (v : α) (u : Keyed κ α) :
    update t ((k, v) :: u) = update (t.put k v) u := rfl

omit [DecidableEq κ] in
theorem keys_cons (k : κ) (v : α) (t : Keyed κ α) : keys ((k, v) :: t) = k :: keys t := rfl

theorem keys_erase (t : Keyed κ α) (k : κ) : (t.erase k).keys = t.keys.filter (· ≠ k) := by
  unfold keys erase
  rw [List.filter_map]
  rfl

theorem put_of_not_mem {t : Keyed κ α} {k : κ} (hk : k ∉ t.keys) (v : α) :
    t.put k v = t ++ [(k, v)] := by
  induction t with
  | nil => rfl
  | cons e t ih =>
      obtain ⟨a, b⟩ := e
      rw [keys_cons, List.mem_cons, not_or] at hk
      rw [put, if_neg (Ne.symm hk.1), ih hk.2, List.cons_append]

theorem mem_keys_put {t : Keyed κ α} {k k' : κ} {v : α} :
    k' ∈ (t.put k v).keys ↔ k' = k ∨ k' ∈ t.keys := by
  rw [keys_put]
  split_ifs with hk
  · exact ⟨Or.inr, fun h => h.elim (fun heq => heq ▸ hk) id⟩
  · rw [List.mem_append, List.mem_singleton, or_comm]

theorem put_put (t : Keyed κ α) (k : κ) (v v' : α) : (t.put k v).put k v' = t.put k v' := by
  induction t with
  | nil => simp [put]
  | cons e t ih =>
      obtain ⟨a, b⟩ := e
      by_cases hak : a = k <;> simp [put, hak, ih]

/-- A key that is there already can be set before or after another one. -/
theorem put_put_of_mem {t : Keyed κ α} {k k' : κ} (hk : k ∈ t.keys) (hne : k' ≠ k) (v v' : α) :
    (t.put k' v').put k v = (t.put k v).put k' v' := by
  induction t with
  | nil => cases hk
  | cons e t ih =>
      obtain ⟨a, b⟩ := e
      by_cases hak : a = k
      · subst hak
        simp [put, hne.symm]
      · have hmem : k ∈ keys t := by simpa [keys, Ne.symm hak] using hk
        by_cases hak' : a = k'
        · subst hak'
          simp [put, hak]
        · simp [put, hak, hak', ih hmem]

theorem update_put_of_mem {t : Keyed κ α} {k : κ} (hk : k ∈ t.keys) (v : α) {u : Keyed κ α}
    (hu : k ∉ u.keys) : (update t u).put k v = update (t.put k v) u := by
  induction u generalizing t with
  | nil => rfl
  | cons e u ih =>
      obtain ⟨a, b⟩ := e
      rw [keys_cons, List.mem_cons, not_or] at hu
      obtain ⟨hne, hu⟩ := hu
      rw [update_cons, update_cons, ih (mem_keys_put.mpr (Or.inr hk)) hu,
        put_put_of_mem hk (Ne.symm hne)]

/-- Setting a key in the newer table sets it in the table brought up to date. -/
theorem update_put (t : Keyed κ α) {u : Keyed κ α} (hu : u.keys.Nodup) (k : κ) (v : α) :
    update t (u.put k v) = (update t u).put k v := by
  induction u generalizing t with
  | nil => rfl
  | cons e u ih =>
      obtain ⟨a, b⟩ := e
      rw [keys_cons, List.nodup_cons] at hu
      obtain ⟨hfirst, hu⟩ := hu
      rw [put]
      split_ifs with hkey
      · subst hkey
        have hmem : a ∈ (t.put a b).keys := mem_keys_put.mpr (Or.inl rfl)
        rw [update_cons, update_cons, update_put_of_mem hmem v hfirst, put_put]
      · rw [update_cons, update_cons, ih _ hu]

theorem ofList_concat (es : List (κ × α)) (e : κ × α) :
    ofList (es ++ [e]) = (ofList es).put e.1 e.2 := by
  rw [ofList, List.foldl_append]
  rfl

/-- The keys are those of the entries, each at its first place. -/
theorem keys_ofList [BEq κ] [LawfulBEq κ] (es : List (κ × α)) :
    (ofList es).keys = (es.map (·.1)).eraseDups := by
  induction es using List.reverseRecOn with
  | nil => rfl
  | append_singleton es e ih =>
      have hmem : e.1 ∈ (ofList es).keys ↔ e.1 ∈ es.map (·.1) := by rw [ih, List.mem_eraseDups]
      rw [ofList_concat, keys_put, List.map_append, List.map_singleton, eraseDups_concat]
      by_cases hold : e.1 ∈ (ofList es).keys
      · rw [if_pos hold, if_pos (hmem.mp hold), ih]
      · rw [if_neg hold, if_neg (mt hmem.mpr hold), ih]

/-- A key gives what its last entry says. -/
theorem get?_ofList_eq_some_iff {es : List (κ × α)} {k : κ} {v : α} : (ofList es).get? k = some v ↔
    ∃ before after, es = before ++ (k, v) :: after ∧ ∀ e ∈ after, e.1 ≠ k := by
  induction es using List.reverseRecOn with
  | nil =>
      refine iff_of_false (by simp [ofList]) ?_
      rintro ⟨before, after, hes, -⟩
      simp at hes
  | append_singleton es e ih =>
      obtain ⟨k', v'⟩ := e
      rw [ofList_concat, get?_put]
      split_ifs with hk
      · subst hk
        constructor
        · rintro ⟨⟩
          exact ⟨es, [], rfl, by simp⟩
        · rintro ⟨before, after, hes, hlater⟩
          rcases List.eq_nil_or_concat after with rfl | ⟨after, e, rfl⟩
          · have := (List.append_inj' hes rfl).2
            simpa using this
          · rw [List.concat_eq_append, ← List.cons_append, ← List.append_assoc] at hes
            obtain rfl := List.singleton_inj.mp (List.append_inj' hes rfl).2
            exact absurd rfl (hlater (k, v') (by simp))
      · rw [ih]
        constructor
        · rintro ⟨before, after, rfl, hlater⟩
          refine ⟨before, after ++ [(k', v')], by simp, ?_⟩
          intro e he
          rcases List.mem_append.mp he with he | he
          · exact hlater e he
          · rw [List.mem_singleton.mp he]
            exact Ne.symm hk
        · rintro ⟨before, after, hes, hlater⟩
          rcases List.eq_nil_or_concat after with rfl | ⟨after, e, rfl⟩
          · obtain ⟨rfl, -⟩ := Prod.mk.inj (List.singleton_inj.mp (List.append_inj' hes rfl).2)
            exact absurd rfl hk
          · rw [List.concat_eq_append, ← List.cons_append, ← List.append_assoc] at hes
            exact ⟨before, after, (List.append_inj' hes rfl).1, fun e he => hlater e (by simp [he])⟩

theorem get?_ofList_of_mem {es : List (κ × α)} (hkeys : (es.map (·.1)).Nodup) {e : κ × α}
    (he : e ∈ es) : (ofList es).get? e.1 = some e.2 := by
  obtain ⟨before, after, rfl⟩ := List.append_of_mem he
  refine get?_ofList_eq_some_iff.mpr ⟨before, after, rfl, fun e' he' hsame => ?_⟩
  rw [List.map_append, List.map_cons] at hkeys
  have hrest := (List.nodup_cons.mp (List.nodup_append.mp hkeys).2.1).1
  exact hrest (List.mem_map.mpr ⟨e', he', hsame⟩)

/-- Where entries are made one by one, a key gives what was made for it last. -/
theorem get?_ofList_filterMap_eq_some_iff {β : Type} {f : β → Option (κ × α)} {bs : List β} {k : κ}
    {v : α} : (ofList (bs.filterMap f)).get? k = some v ↔
      ∃ before b after, bs = before ++ b :: after ∧ f b = some (k, v) ∧
        ∀ b' ∈ after, ∀ e, f b' = some e → e.1 ≠ k := by
  rw [get?_ofList_eq_some_iff]
  constructor
  · rintro ⟨before, after, hes, hlater⟩
    obtain ⟨bs₁, bs₂, rfl, -, hrest⟩ := List.filterMap_eq_append_iff.mp hes
    obtain ⟨bs₃, b, bs₄, rfl, -, hb, rfl⟩ := List.filterMap_eq_cons_iff.mp hrest
    refine ⟨bs₁ ++ bs₃, b, bs₄, by rw [List.append_assoc], hb, fun b' hb' e he => ?_⟩
    exact hlater e (List.mem_filterMap.mpr ⟨b', hb', he⟩)
  · rintro ⟨before, b, after, rfl, hb, hlater⟩
    refine ⟨before.filterMap f, after.filterMap f, ?_, fun e he => ?_⟩
    · rw [List.filterMap_append, List.filterMap_cons_some hb]
    · obtain ⟨b', hb', he⟩ := List.mem_filterMap.mp he
      exact hlater b' hb' e he

theorem nodup_keys_ofList (es : List (κ × α)) : (ofList es).keys.Nodup := by
  induction es using List.reverseRecOn with
  | nil => exact List.nodup_nil
  | append_singleton es e ih =>
      rw [ofList_concat]
      exact nodup_keys_put ih e.1 e.2

theorem update_ofList (t : Keyed κ α) (es : List (κ × α)) : update t (ofList es) = update t es := by
  induction es using List.reverseRecOn with
  | nil => rfl
  | append_singleton es e ih =>
      rw [ofList_concat, update_put t (nodup_keys_ofList es), ih, update, update, List.foldl_append]
      rfl

/-- The table of two lists is that of the first brought up to date with that of the second. -/
theorem ofList_append (es es' : List (κ × α)) :
    ofList (es ++ es') = (ofList es).update (ofList es') := by
  rw [update_ofList, ofList, List.foldl_append]
  rfl

/-- The newer table says what a key gives, and the older one where the newer does not know it. -/
theorem get?_update (t : Keyed κ α) {u : Keyed κ α} (hu : u.keys.Nodup) (k : κ) :
    (update t u).get? k = (u.get? k).or (t.get? k) := by
  induction u generalizing t with
  | nil => rfl
  | cons e u ih =>
      obtain ⟨a, b⟩ := e
      rw [keys_cons, List.nodup_cons] at hu
      obtain ⟨hfirst, hu⟩ := hu
      rw [update_cons, ih _ hu, get?_put, get?_cons]
      split_ifs with hk
      · subst hk
        rw [get?_eq_none_iff.mpr hfirst]
        rfl
      · rfl

theorem mem_put {t : Keyed κ α} {k : κ} {v : α} {e : κ × α} (he : e ∈ t.put k v) :
    e ∈ t ∨ e = (k, v) := by
  induction t with
  | nil => exact Or.inr (List.mem_singleton.mp he)
  | cons e' t ih =>
      obtain ⟨a, b⟩ := e'
      rw [put] at he
      split_ifs at he with hkey
      · subst hkey
        rcases List.mem_cons.mp he with rfl | he
        · exact Or.inr rfl
        · exact Or.inl (List.mem_cons_of_mem _ he)
      · rcases List.mem_cons.mp he with rfl | he
        · exact Or.inl List.mem_cons_self
        · exact (ih he).imp (List.mem_cons_of_mem _) id

theorem mem_update {t u : Keyed κ α} {e : κ × α} (he : e ∈ update t u) : e ∈ t ∨ e ∈ u := by
  induction u generalizing t with
  | nil => exact Or.inl he
  | cons e' u ih =>
      obtain ⟨k, v⟩ := e'
      rw [update_cons] at he
      rcases ih he with he | he
      · exact (mem_put he).imp id fun heq => List.mem_cons.mpr (Or.inl heq)
      · exact Or.inr (List.mem_cons_of_mem _ he)

/-- The keys that were there keep their places, and the new ones follow in their order. -/
theorem keys_update (t : Keyed κ α) {u : Keyed κ α} (hu : u.keys.Nodup) :
    (update t u).keys = t.keys ++ u.keys.filter fun k => (t.get? k).isNone := by
  induction u generalizing t with
  | nil => exact (List.append_nil _).symm
  | cons e u ih =>
      obtain ⟨a, b⟩ := e
      rw [keys_cons, List.nodup_cons] at hu
      obtain ⟨hfirst, hu⟩ := hu
      have hothers : (keys u).filter (fun k => ((t.put a b).get? k).isNone) =
          (keys u).filter fun k => (t.get? k).isNone := by
        refine List.filter_congr fun k hk => ?_
        have hne : k ≠ a := fun heq => hfirst (heq ▸ hk)
        rw [get?_put, if_neg hne]
      have hnew : (t.get? a).isNone = true ↔ a ∉ t.keys := by
        rw [Option.isNone_iff_eq_none, get?_eq_none_iff]
      rw [update_cons, ih _ hu, hothers, keys_put, keys_cons, List.filter_cons]
      by_cases hmem : a ∈ t.keys
      · rw [if_pos hmem, if_neg fun h => hnew.mp h hmem]
      · rw [if_neg hmem, if_pos (hnew.mpr hmem), List.append_assoc, List.singleton_append]

end Keyed

end MetaDesk
