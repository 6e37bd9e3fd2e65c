import MetaDesk.Settings.Check

/-! # Settings that pass the check

Whatever values a document has, settings that are read from it keep to their bounds
(`ofValue_isValid`), and so do the defaults (`isValid_default`).  A section is read setting by
setting, and each setting is its default or was read from a value (`setting_induction`), so a bound
that holds of both holds of every setting. -/

namespace MetaDesk

variable {α β : Type}

/-! ### Parts of settings -/

namespace Checked

theorem apply_eq_ok {f : Checked (α → β)} {a : Checked α} {b : β} (h : Checked.apply f a = .ok b) :
    ∃ g x, f = .ok g ∧ a = .ok x ∧ b = g x := by
  unfold Checked.apply at h
  split at h
  · next g x =>
      obtain rfl := Except.ok.inj h
      exact ⟨g, x, rfl, rfl, rfl⟩
  · cases h

theorem under_eq_ok {name : Text} {a : Checked α} {x : α} (h : Checked.under name a = .ok x) :
    a = .ok x := by
  cases a with
  | ok y => exact h
  | error is => cases h

theorem bind_eq_ok {a : Checked α} {f : α → Checked β} {b : β} (h : a >>= f = .ok b) :
    ∃ x, a = .ok x ∧ f x = .ok b := by
  cases a with
  | ok x => exact ⟨x, rfl, h⟩
  | error is => cases h

end Checked

namespace Settings

open Yaml (Value)

/-- What holds of the default and of all that can be read holds of a setting. -/
theorem setting_induction {P : α → Prop} {es : List (Value × Value)} {name : Text} {default : α}
    {read : Value → Checked α} (hdefault : P default) (hread : ∀ v a, read v = .ok a → P a) {a : α}
    (h : setting es name default read = .ok a) : P a := by
  unfold setting at h
  split at h
  · cases h
    exact hdefault
  · next v _ => exact hread v a (Checked.under_eq_ok h)

theorem readSection_eq_ok {kind : Text} {names : List Text}
    {read : List (Value × Value) → Checked α} {v : Value} {a : α}
    (h : readSection kind names read v = .ok a) : ∃ es, read es = .ok a := by
  unfold readSection at h
  split at h
  · next es =>
      obtain ⟨g, _, hg, -, rfl⟩ := Checked.apply_eq_ok h
      obtain ⟨k, b, hk, hb, rfl⟩ := Checked.apply_eq_ok hg
      cases hk
      exact ⟨es, hb⟩
  · cases h

/-! ### Bounds -/

/-- All settings keep to their bounds. -/
structure IsValid (s : Settings) : Prop where
  binary : s.wine.binary ≠ []
  timeout : 0 < s.wine.timeout
  pollInterval : s.tail.pollInterval.isPositive = true
  maxFiles : 0 < s.headers.maxFiles

theorem isValid_default : IsValid {} where
  binary := by decide
  timeout := by decide
  pollInterval := by decide
  maxFiles := by decide

theorem readSomeText_ne_nil {v : Value} {t : Text} (h : readSomeText v = .ok t) : t ≠ [] := by
  obtain ⟨t', -, h⟩ := Checked.bind_eq_ok h
  split at h
  · cases h
  · next hempty =>
      cases h
      simpa using hempty

theorem readCount_pos {v : Value} {n : Int} (h : readCount v = .ok n) : 0 < n := by
  obtain ⟨n', -, h⟩ := Checked.bind_eq_ok h
  split at h
  · next hpos =>
      cases h
      exact hpos
  · cases h

theorem readLapse_isPositive {v : Value} {x : Binary64} (h : readLapse v = .ok x) :
    x.isPositive = true := by
  obtain ⟨x', -, h⟩ := Checked.bind_eq_ok h
  split at h
  · next hpos =>
      cases h
      exact hpos
  · cases h

theorem readWine_isValid {v : Value} {w : WineSettings} (h : readWine v = .ok w) :
    w.binary ≠ [] ∧ 0 < w.timeout := by
  obtain ⟨es, hes⟩ := readSection_eq_ok h
  obtain ⟨f₃, timeout, h₃, htimeout, rfl⟩ := Checked.apply_eq_ok hes
  obtain ⟨f₂, bottle, h₂, -, rfl⟩ := Checked.apply_eq_ok h₃
  obtain ⟨f₁, binary, h₁, hbinary, rfl⟩ := Checked.apply_eq_ok h₂
  obtain ⟨f₀, enabled, h₀, -, rfl⟩ := Checked.apply_eq_ok h₁
  cases h₀
  exact ⟨setting_induction (P := (· ≠ [])) isValid_default.binary
      (fun _ _ => readSomeText_ne_nil) hbinary,
    setting_induction (P := (0 < ·)) isValid_default.timeout (fun _ _ => readCount_pos) htimeout⟩

theorem readTail_isValid {v : Value} {t : TailSettings} (h : readTail v = .ok t) :
    t.pollInterval.isPositive = true := by
  obtain ⟨es, hes⟩ := readSection_eq_ok h
  obtain ⟨f₁, interval, h₁, hinterval, rfl⟩ := Checked.apply_eq_ok hes
  obtain ⟨f₀, mode, h₀, -, rfl⟩ := Checked.apply_eq_ok h₁
  cases h₀
  exact setting_induction (P := (·.isPositive = true)) isValid_default.pollInterval
    (fun _ _ => readLapse_isPositive) hinterval

theorem readHeaders_isValid {v : Value} {s : HeaderSettings} (h : readHeaders v = .ok s) :
    0 < s.maxFiles := by
  obtain ⟨es, hes⟩ := readSection_eq_ok h
  obtain ⟨f₁, most, h₁, hmost, rfl⟩ := Checked.apply_eq_ok hes
  obtain ⟨f₀, saved, h₀, -, rfl⟩ := Checked.apply_eq_ok h₁
  cases h₀
  exact setting_induction (P := (0 < ·)) isValid_default.maxFiles (fun _ _ => readCount_pos) hmost

/-- Settings that are read from a value keep to their bounds. -/
theorem ofValue_isValid {v : Value} {s : Settings} (h : ofValue v = .ok s) : s.IsValid := by
  obtain ⟨es, hes⟩ := readSection_eq_ok h
  obtain ⟨f₄, headers, h₄, hheaders, rfl⟩ := Checked.apply_eq_ok hes
  obtain ⟨f₃, deleteLogs, h₃, -, rfl⟩ := Checked.apply_eq_ok h₄
  obtain ⟨f₂, tail, h₂, htail, rfl⟩ := Checked.apply_eq_ok h₃
  obtain ⟨f₁, wine, h₁, hwine, rfl⟩ := Checked.apply_eq_ok h₂
  obtain ⟨f₀, compilers, h₀, -, rfl⟩ := Checked.apply_eq_ok h₁
  cases h₀
  have hwineValid : wine.binary ≠ [] ∧ 0 < wine.timeout :=
    setting_induction (P := fun w : WineSettings => w.binary ≠ [] ∧ 0 < w.timeout)
      ⟨isValid_default.binary, isValid_default.timeout⟩ (fun _ _ => readWine_isValid) hwine
  exact ⟨hwineValid.1, hwineValid.2,
    setting_induction (P := fun t : TailSettings => t.pollInterval.isPositive = true)
      isValid_default.pollInterval (fun _ _ => readTail_isValid) htail,
    setting_induction (P := fun s : HeaderSettings => 0 < s.maxFiles)
      isValid_default.maxFiles (fun _ _ => readHeaders_isValid) hheaders⟩

end Settings

end MetaDesk
