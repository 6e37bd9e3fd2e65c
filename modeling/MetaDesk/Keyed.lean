/-! # Tables in order of insertion

A table is the list of its entries.  A key keeps its place when its value is set again and goes to
the end when it comes back after having been taken out. -/

namespace MetaDesk

/-- Values by key, in the order in which the keys came in. -/
abbrev Keyed (κ α : Type) := List (κ × α)

namespace Keyed

variable {κ α : Type} [DecidableEq κ]

/-- The value of a key. -/
def get? (t : Keyed κ α) (k : κ) : Option α := List.lookup k t

/-- Set the value of a key. -/
def put : Keyed κ α → κ → α → Keyed κ α
  | [], k, v => [(k, v)]
  | (k', v') :: rest, k, v => if k' = k then (k', v) :: rest else (k', v') :: put rest k v

/-- Take a key out. -/
def erase (t : Keyed κ α) (k : κ) : Keyed κ α := t.filter fun e => e.1 ≠ k

/-- The keys in order. -/
def keys (t : Keyed κ α) : List κ := t.map (·.1)

/-- The table of a list of entries, of which later ones win. -/
def ofList (entries : List (κ × α)) : Keyed κ α := entries.foldl (fun t e => put t e.1 e.2) []

omit [DecidableEq κ] in
@[simp] theorem keys_nil : keys ([] : Keyed κ α) = [] := rfl

@[simp] theorem get?_nil (k : κ) : get? ([] : Keyed κ α) k = none := rfl

theorem get?_cons (a : κ) (b : α) (rest : Keyed κ α) (k : κ) :
    get? ((a, b) :: rest) k = if k = a then some b else get? rest k := by
  simp only [get?]
  by_cases h : k = a
  · simp [h]
  · have hne : (k == a) = false := by simp [h]
    rw [List.lookup_cons, hne, if_neg h]

theorem get?_put (t : Keyed κ α) (k k' : κ) (v : α) :
    get? (put t k v) k' = if k' = k then some v else get? t k' := by
  induction t with
  | nil => rw [put, get?_cons]
  | cons e rest ih =>
    obtain ⟨a, b⟩ := e
    by_cases hak : a = k
    · subst hak
      by_cases hk : k' = a <;> simp [put, get?_cons, hk]
    · by_cases hka : k' = a
      · subst hka
        simp [put, get?_cons, hak]
      · simp [put, get?_cons, hak, hka, ih]

theorem keys_put (t : Keyed κ α) (k : κ) (v : α) :
    keys (put t k v) = if k ∈ keys t then keys t else keys t ++ [k] := by
  induction t with
  | nil => simp [put, keys]
  | cons e rest ih =>
    obtain ⟨a, b⟩ := e
    simp only [keys] at ih
    by_cases hak : a = k
    · simp [put, keys, hak]
    · have hka : ¬ k = a := fun h => hak h.symm
      by_cases hm : k ∈ List.map (·.1) rest
      · simp [put, keys, hak, ih, hm]
      · simp [put, keys, hak, hka, ih, hm]

theorem get?_erase (t : Keyed κ α) (k k' : κ) :
    get? (erase t k) k' = if k' = k then none else get? t k' := by
  induction t with
  | nil => simp [erase]
  | cons e rest ih =>
    obtain ⟨a, b⟩ := e
    by_cases hak : a = k
    · subst hak
      have : erase ((a, b) :: rest) a = erase rest a := by simp [erase]
      rw [this, ih, get?_cons]
      by_cases hk : k' = a <;> simp [hk]
    · have : erase ((a, b) :: rest) k = (a, b) :: erase rest k := by simp [erase, hak]
      rw [this, get?_cons, get?_cons, ih]
      by_cases hka : k' = a
      · subst hka
        simp [hak]
      · simp [hka]

end Keyed

end MetaDesk
