import MetaDesk.Host.Basic
import Mathlib.Data.Nat.Notation

/-! # Running actions

An action is run on a host, and an action on something else too (`ActOn`) is run on both.  The
equations here carry a run through a sequence of actions step by step; a sequence that gives a
result has done each of its steps (`Act.bind_eq_ok`, `ActOn.bind_eq_ok`).

What an action leaves alone is said by `Act.Keeps` and `ActOn.Keeps`: a property that holds before
holds after, however the action ends.  An action that only asks keeps every property. -/

namespace MetaDesk

variable {α β σ : Type}

namespace Act

theorem get_apply (h : Host) : (get : Act Host) h = (.ok h, h) := rfl

theorem bind_apply (act : Act α) (f : α → Act β) (h : Host) :
    (act >>= f) h = match act h with
      | (.ok a, h') => f a h'
      | (.error m, h') => (.error m, h') := by
  simp only [bind, ExceptT.bind, ExceptT.mk, StateT.bind]
  rcases act h with ⟨_ | _, _⟩ <;> rfl

theorem bind_of_ok {act : Act α} {f : α → Act β} {h h' : Host} {a : α}
    (hact : act h = (.ok a, h')) : (act >>= f) h = f a h' := by
  rw [bind_apply, hact]

theorem bind_of_error {act : Act α} {h h' : Host} {m : Mishap} (f : α → Act β)
    (hact : act h = (.error m, h')) : (act >>= f) h = (.error m, h') := by
  rw [bind_apply, hact]

/-- A sequence gives a result when both parts do. -/
theorem bind_eq_ok {act : Act α} {f : α → Act β} {h h' : Host} {b : β}
    (hrun : (act >>= f) h = (.ok b, h')) :
    ∃ a h₁, act h = (.ok a, h₁) ∧ f a h₁ = (.ok b, h') := by
  rw [bind_apply] at hrun
  rcases hact : act h with ⟨m | a, h₁⟩
  · rw [hact] at hrun
    cases hrun
  · rw [hact] at hrun
    exact ⟨a, h₁, rfl, hrun⟩

/-- A sequence ends with a mishap when one of its parts does. -/
theorem bind_eq_error {act : Act α} {f : α → Act β} {h h' : Host} {m : Mishap}
    (hrun : (act >>= f) h = (.error m, h')) :
    act h = (.error m, h') ∨ ∃ a h₁, act h = (.ok a, h₁) ∧ f a h₁ = (.error m, h') := by
  rw [bind_apply] at hrun
  rcases hact : act h with ⟨m' | a, h₁⟩
  · rw [hact] at hrun
    cases hrun
    exact Or.inl rfl
  · rw [hact] at hrun
    exact Or.inr ⟨a, h₁, rfl, hrun⟩

theorem tryConfigured_eq_ok {act : Act α} {h h' : Host} {a : α}
    (hrun : tryConfigured act h = (.ok (.ok a), h')) : act h = (.ok a, h') := by
  unfold tryConfigured at hrun
  split at hrun
  · split at hrun <;> cases hrun
  · cases hrun
  · cases hrun
    assumption

theorem tryConfigured_eq_error {act : Act α} {h h' : Host} {f : Failure}
    (hrun : tryConfigured act h = (.ok (.error f), h')) :
    act h = (.error (.failed f), h') ∧ f.category = .configuration := by
  unfold tryConfigured at hrun
  split at hrun
  · split at hrun
    · cases hrun
      exact ⟨by assumption, by assumption⟩
    · cases hrun
  · cases hrun
  · cases hrun

/-- A mishap that is not caught is no failure of the configuration. -/
theorem tryConfigured_of_error {act : Act α} {h h' : Host} {m : Mishap}
    (hrun : tryConfigured act h = (.error m, h')) :
    act h = (.error m, h') ∧ ∀ f, m = .failed f → f.category ≠ .configuration := by
  unfold tryConfigured at hrun
  split at hrun
  · split at hrun
    · cases hrun
    · next hother =>
        cases hrun
        refine ⟨by assumption, ?_⟩
        rintro f ⟨⟩
        exact hother
  · next m' h₁ hnot hact =>
      cases hrun
      exact ⟨hact, fun f hf => (hnot f hf).elim⟩
  · cases hrun

theorem tryConfigured_of_failed {act : Act α} {h h' : Host} {f : Failure}
    (hact : act h = (.error (.failed f), h')) (hf : f.category = .configuration) :
    tryConfigured act h = (.ok (.error f), h') := by
  unfold tryConfigured
  rw [hact]
  exact if_pos hf

theorem tryConfigured_of_mishap {act : Act α} {h h' : Host} {m : Mishap}
    (hact : act h = (.error m, h')) (hm : ∀ f, m ≠ .failed f) :
    tryConfigured act h = (.error m, h') := by
  unfold tryConfigured
  rw [hact]
  cases m with
  | failed f => exact absurd rfl (hm f)
  | _ => rfl

theorem tryConfigured_host (act : Act α) (h : Host) : (tryConfigured act h).2 = (act h).2 := by
  unfold tryConfigured
  split
  · next hact =>
      rw [hact]
      split <;> rfl
  · next hact => rw [hact]
  · next hact => rw [hact]

theorem trySystem_of_ok {act : Act α} {h h' : Host} {a : α} (hact : act h = (.ok a, h')) :
    trySystem act h = (.ok (.ok a), h') := by
  simp [trySystem, hact]

theorem trySystem_of_system {act : Act α} {h h' : Host} {e : SystemError}
    (hact : act h = (.error (.system e), h')) : trySystem act h = (.ok (.error e), h') := by
  simp [trySystem, hact]

theorem trySystem_eq_ok {act : Act α} {h h' : Host} {a : α}
    (hrun : trySystem act h = (.ok (.ok a), h')) : act h = (.ok a, h') := by
  unfold trySystem at hrun
  split at hrun
  · cases hrun
  · cases hrun
  · cases hrun
    assumption

theorem orRefuse_eq_ok {result : Except Refusal α} {h h' : Host} {a : α}
    (hrun : orRefuse result h = (.ok a, h')) : result = .ok a ∧ h' = h := by
  cases result with
  | error r => cases hrun
  | ok b =>
      cases hrun
      exact ⟨rfl, rfl⟩

/-- The result of a run, told by its value. -/
theorem eq_ok_of_toOption {act : Act α} {h : Host} {a : α} (hrun : (act h).1.toOption = some a) :
    ∃ h', act h = (.ok a, h') := by
  rcases hact : act h with ⟨m | a', h'⟩ <;> rw [hact] at hrun <;> cases hrun
  exact ⟨h', rfl⟩

/-- What the disk says about a path is the result. -/
theorem ask_apply {p : Path} (hp : hasNull p = false) (f : Disk → Place → Path → Except Errno α)
    (h : Host) : ask p f h = match f h.disk h.here p with
      | .ok a => (.ok a, h)
      | .error e => (.error (.system ⟨e, p.text⟩), h) := by
  unfold ask
  rw [hp, if_neg Bool.false_ne_true]
  dsimp only
  rw [bind_of_ok (get_apply h)]
  cases f h.disk h.here p <;> rfl

/-! ### What an action keeps -/

/-- A property of the host that holds before the action holds after it, however it ends. -/
def Keeps (P : Host → Prop) (act : Act α) : Prop := ∀ h, P h → P (act h).2

namespace Keeps

variable {P : Host → Prop}

theorem pure (a : α) : Keeps P (Pure.pure a : Act α) := fun _ hP => hP

theorem throw (m : Mishap) : Keeps P (MonadExcept.throw m : Act α) := fun _ hP => hP

theorem get : Keeps P (MonadState.get : Act Host) := fun _ hP => hP

theorem modify {f : Host → Host} (hf : ∀ h, P h → P (f h)) : Keeps P (modify f : Act Unit) := hf

theorem bind {act : Act α} {f : α → Act β} (hact : Keeps P act) (hf : ∀ a, Keeps P (f a)) :
    Keeps P (act >>= f) := by
  intro h hP
  have hfirst := hact h hP
  rw [bind_apply]
  rcases hrun : act h with ⟨m | a, h₁⟩ <;> rw [hrun] at hfirst
  · exact hfirst
  · exact hf a h₁ hfirst

theorem trySystem {act : Act α} (hact : Keeps P act) : Keeps P (trySystem act) := by
  intro h hP
  have hlast := hact h hP
  unfold Act.trySystem
  split <;> simp_all

theorem tryConfigured {act : Act α} (hact : Keeps P act) : Keeps P (tryConfigured act) := by
  intro h hP
  rw [tryConfigured_host]
  exact hact h hP

theorem orRefuse (result : Except Refusal α) : Keeps P (orRefuse result) := by
  cases result with
  | error r => exact throw (.refused r)
  | ok a => exact pure a

theorem ask (p : Path) (f : Disk → Place → Path → Except Errno α) : Keeps P (ask p f) := by
  unfold Act.ask
  split
  · exact throw _
  · refine bind get fun h => ?_
    cases f h.disk h.here p with
    | error e => exact throw _
    | ok a => exact pure a

theorem pathExists (p : Path) : Keeps P (pathExists p) := by
  unfold Act.pathExists
  split
  · exact pure false
  · exact ask p _

theorem isFile (p : Path) : Keeps P (isFile p) := by
  unfold Act.isFile
  split
  · exact pure false
  · exact ask p _

theorem isFolder (p : Path) : Keeps P (isFolder p) := by
  unfold Act.isFolder
  split
  · exact pure false
  · exact ask p _

theorem resolve (p : Path) : Keeps P (resolve p) := by
  unfold Act.resolve
  split
  · exact throw _
  · refine bind get fun h => ?_
    cases h.disk.settle h.here p with
    | none => exact throw _
    | some place => exact pure _

theorem mapM {f : α → Act β} (hf : ∀ a, Keeps P (f a)) (as : List α) : Keeps P (as.mapM f) := by
  induction as with
  | nil => exact pure []
  | cons a as ih =>
      rw [List.mapM_cons]
      exact bind (hf a) fun b => bind ih fun bs => pure (b :: bs)

theorem foldlM {f : β → α → Act β} (hf : ∀ b a, Keeps P (f b a)) (as : List α) (b : β) :
    Keeps P (as.foldlM f b) := by
  induction as generalizing b with
  | nil => exact pure b
  | cons a as ih =>
      rw [List.foldlM_cons]
      exact bind (hf b a) fun b' => ih b'

theorem filterM {f : α → Act Bool} (hf : ∀ a, Keeps P (f a)) (as : List α) :
    Keeps P (as.filterM f) := by
  have hkept : ∀ kept, Keeps P (as.filterAuxM f kept) := by
    induction as with
    | nil => exact fun kept => pure kept
    | cons a as ih => exact fun kept => bind (hf a) fun _ => ih _
  exact bind (hkept []) fun kept => pure kept.reverse

end Keeps

/-! ### What a change of the disk keeps -/

section Disk

variable {P : Host → Prop} (hdisk : ∀ h d, P h → P { h with disk := d })
include hdisk

theorem Keeps.change (p : Path) (f : Disk → Place → Path → Except Errno Disk) :
    Keeps P (change p f) :=
  (Keeps.ask p f).bind fun disk => Keeps.modify fun h hP => hdisk h disk hP

theorem Keeps.makeFolder (p : Path) : Keeps P (makeFolders.again p) := by
  intro h hP
  unfold makeFolders.again
  rw [bind_of_ok (get_apply h)]
  cases h.disk.makeFolder h.here p with
  | ok disk => exact hdisk h disk hP
  | error e =>
      refine ((Keeps.isFolder p).bind fun isThere => ?_) h hP
      split
      · exact Keeps.throw _
      · exact Keeps.pure ()

/-- Making folders, one below the other, only changes the disk. -/
theorem Keeps.makeFolders (p : Path) : Keeps P (makeFolders p) := by
  have hgo : ∀ fuel p, Keeps P (makeFolders.go fuel p) := by
    intro fuel
    induction fuel with
    | zero => exact fun p => Keeps.change hdisk p _
    | succ fuel ih =>
        intro p h hP
        unfold makeFolders.go
        split
        · exact hP
        · dsimp only
          rw [bind_of_ok (get_apply h)]
          cases h.disk.makeFolder h.here p with
          | ok disk => exact hdisk h disk hP
          | error e =>
              dsimp only
              split
              · exact ((ih p.parent).bind fun _ => Keeps.makeFolder hdisk p) h hP
              · refine ((Keeps.isFolder p).bind fun isThere => ?_) h hP
                split
                · exact Keeps.throw _
                · exact Keeps.pure ()
  exact hgo _ p

end Disk

/-- What keeps every property leaves the host as it is. -/
theorem host_eq {act : Act α} (hact : ∀ P : Host → Prop, Keeps P act) (h : Host) :
    (act h).2 = h := hact (· = h) h rfl

end Act

namespace ActOn

theorem getThe_apply (s : σ) (h : Host) : (getThe σ : ActOn σ σ) s h = ((.ok s, s), h) := rfl

theorem getThe_host_apply (s : σ) (h : Host) : (getThe Host : ActOn σ Host) s h = ((.ok h, s), h) :=
  rfl

theorem lift_apply (act : Act α) (s : σ) (h : Host) :
    (monadLift act : ActOn σ α) s h = (((act h).1, s), (act h).2) := rfl

theorem bind_apply (act : ActOn σ α) (f : α → ActOn σ β) (s : σ) (h : Host) :
    (act >>= f) s h = match act s h with
      | ((.ok a, s'), h') => f a s' h'
      | ((.error m, s'), h') => ((.error m, s'), h') := by
  simp only [bind, ExceptT.bind, ExceptT.mk, StateT.bind]
  rcases act s h with ⟨⟨_ | _, _⟩, _⟩ <;> rfl

theorem bind_of_ok {act : ActOn σ α} {f : α → ActOn σ β} {s s' : σ} {h h' : Host} {a : α}
    (hact : act s h = ((.ok a, s'), h')) : (act >>= f) s h = f a s' h' := by
  rw [bind_apply, hact]

theorem bind_of_error {act : ActOn σ α} {s : σ} {h : Host} {m : Mishap} (f : α → ActOn σ β)
    (hact : (act s h).1.1 = .error m) : ((act >>= f) s h).1.1 = .error m := by
  rw [bind_apply]
  rcases hrun : act s h with ⟨⟨m' | a, s'⟩, h'⟩ <;> rw [hrun] at hact <;> cases hact
  rfl

/-- A sequence gives a result when both parts do. -/
theorem bind_eq_ok {act : ActOn σ α} {f : α → ActOn σ β} {s s' : σ} {h h' : Host} {b : β}
    (hrun : (act >>= f) s h = ((.ok b, s'), h')) :
    ∃ a s₁ h₁, act s h = ((.ok a, s₁), h₁) ∧ f a s₁ h₁ = ((.ok b, s'), h') := by
  rw [bind_apply] at hrun
  rcases hact : act s h with ⟨⟨m | a, s₁⟩, h₁⟩
  · rw [hact] at hrun
    cases hrun
  · rw [hact] at hrun
    exact ⟨a, s₁, h₁, rfl, hrun⟩

/-- A sequence ends with a mishap when one of its parts does. -/
theorem bind_eq_error {act : ActOn σ α} {f : α → ActOn σ β} {s s' : σ} {h h' : Host} {m : Mishap}
    (hrun : (act >>= f) s h = ((.error m, s'), h')) :
    act s h = ((.error m, s'), h') ∨
      ∃ a s₁ h₁, act s h = ((.ok a, s₁), h₁) ∧ f a s₁ h₁ = ((.error m, s'), h') := by
  rw [bind_apply] at hrun
  rcases hact : act s h with ⟨⟨m' | a, s₁⟩, h₁⟩
  · rw [hact] at hrun
    cases hrun
    exact Or.inl rfl
  · rw [hact] at hrun
    exact Or.inr ⟨a, s₁, h₁, rfl, hrun⟩

theorem lift_eq {act : Act α} {s s' : σ} {h h' : Host} {result : Except Mishap α}
    (hrun : (monadLift act : ActOn σ α) s h = ((result, s'), h')) :
    act h = (result, h') ∧ s' = s := by
  rw [lift_apply] at hrun
  obtain ⟨hpair, hhost⟩ := Prod.mk.inj hrun
  obtain ⟨hresult, hs⟩ := Prod.mk.inj hpair
  exact ⟨Prod.ext hresult hhost, hs.symm⟩

/-- The result of a run, told by something about its value. -/
theorem eq_ok_of_toOption {act : ActOn σ α} {s : σ} {h : Host} {f : α → β} {b : β}
    (hrun : ((act s h).1.1.toOption.map f) = some b) :
    ∃ a s' h', act s h = ((.ok a, s'), h') ∧ f a = b := by
  rcases hact : act s h with ⟨⟨m | a, s'⟩, h'⟩ <;> rw [hact] at hrun <;> cases hrun
  exact ⟨a, s', h', rfl, rfl⟩

/-- An action on the host alone leaves the rest as it is. -/
theorem bind_lift_eq_ok {act : Act α} {f : α → ActOn σ β} {s s' : σ} {h h' : Host} {b : β}
    (hrun : (monadLift act >>= f) s h = ((.ok b, s'), h')) :
    ∃ a h₁, act h = (.ok a, h₁) ∧ f a s h₁ = ((.ok b, s'), h') := by
  obtain ⟨a, s₁, h₁, hact, hrest⟩ := bind_eq_ok hrun
  obtain ⟨hlift, rfl⟩ := lift_eq hact
  exact ⟨a, h₁, hlift, hrest⟩

theorem bind_lift_of_ok {act : Act α} {f : α → ActOn σ β} {s : σ} {h h' : Host} {a : α}
    (hact : act h = (.ok a, h')) : (monadLift act >>= f) s h = f a s h' := by
  rw [bind_apply, lift_apply, hact]

theorem bind_lift_of_error {act : Act α} {f : α → ActOn σ β} {s : σ} {h h' : Host} {m : Mishap}
    (hact : act h = (.error m, h')) : (monadLift act >>= f) s h = ((.error m, s), h') := by
  rw [bind_apply, lift_apply, hact]

/-! ### What an action keeps -/

/-- A property that holds before the action holds after it, however it ends. -/
def Keeps (P : σ → Host → Prop) (act : ActOn σ α) : Prop :=
  ∀ s h, P s h → P (act s h).1.2 (act s h).2

namespace Keeps

variable {P : σ → Host → Prop}

theorem pure (a : α) : Keeps P (Pure.pure a : ActOn σ α) := fun _ _ hP => hP

theorem of_run {act : ActOn σ α} (hact : Keeps P act) {s s' : σ} {h h' : Host}
    {result : Except Mishap α} (hP : P s h) (hrun : act s h = ((result, s'), h')) : P s' h' := by
  have hlast := hact s h hP
  rw [hrun] at hlast
  exact hlast

theorem getThe : Keeps P (getThe σ : ActOn σ σ) := fun _ _ hP => hP

theorem modifyThe {f : σ → σ} (hf : ∀ s h, P s h → P (f s) h) :
    Keeps P (modifyThe σ f : ActOn σ Unit) := hf

theorem lift {act : Act α} (hact : ∀ s, Act.Keeps (P s) act) :
    Keeps P (monadLift act : ActOn σ α) := fun s h hP => hact s h hP

theorem bind {act : ActOn σ α} {f : α → ActOn σ β} (hact : Keeps P act)
    (hf : ∀ a, Keeps P (f a)) : Keeps P (act >>= f) := by
  intro s h hP
  have hfirst := hact s h hP
  rw [bind_apply]
  rcases hrun : act s h with ⟨⟨m | a, s₁⟩, h₁⟩ <;> rw [hrun] at hfirst
  · exact hfirst
  · exact hf a s₁ h₁ hfirst

theorem throw (m : Mishap) : Keeps P (MonadExcept.throw m : ActOn σ α) := fun _ _ hP => hP

theorem foldlM {f : β → α → ActOn σ β} (hf : ∀ b a, Keeps P (f b a)) (as : List α) (b : β) :
    Keeps P (as.foldlM f b) := by
  induction as generalizing b with
  | nil => exact pure b
  | cons a as ih =>
      rw [List.foldlM_cons]
      exact bind (hf b a) fun b' => ih b'

end Keeps

/-! ### Where an action leads -/

/-- From where `P` holds the action leads to where `Q` holds of its end, a result or a mishap. -/
def Leads (P : σ → Host → Prop) (Q : Except Mishap α → σ → Host → Prop) (act : ActOn σ α) : Prop :=
  ∀ s h, P s h → Q (act s h).1.1 (act s h).1.2 (act s h).2

namespace Leads

variable {P P' : σ → Host → Prop} {Q : Except Mishap β → σ → Host → Prop}

theorem pure {b : β} (hQ : ∀ s h, P s h → Q (.ok b) s h) : Leads P Q (Pure.pure b : ActOn σ β) :=
  hQ

/-- The first part leads to where the rest may begin, and a mishap in it ends well. -/
theorem bind {act : ActOn σ α} {f : α → ActOn σ β} {R : Except Mishap α → σ → Host → Prop}
    (hact : Leads P R act) (herror : ∀ m s h, R (.error m) s h → Q (.error m) s h)
    (hf : ∀ a, Leads (R (.ok a)) Q (f a)) : Leads P Q (act >>= f) := by
  intro s h hP
  have hfirst := hact s h hP
  rw [bind_apply]
  rcases hrun : act s h with ⟨⟨m | a, s₁⟩, h₁⟩ <;> rw [hrun] at hfirst
  · exact herror m s₁ h₁ hfirst
  · exact hf a s₁ h₁ hfirst

theorem bind_keeps {act : ActOn σ α} {f : α → ActOn σ β} (hact : Keeps P act)
    (herror : ∀ m s h, P s h → Q (.error m) s h) (hf : ∀ a, Leads P Q (f a)) :
    Leads P Q (act >>= f) :=
  Leads.bind (R := fun _ => P) hact herror hf

end Leads

/-! ### What an action gives -/

/-- Whenever the action gives a result, it is so. -/
def Gives (Q : α → σ → Host → Prop) (act : ActOn σ α) : Prop :=
  ∀ s h a s' h', act s h = ((.ok a, s'), h') → Q a s' h'

/-- What the rest of a sequence gives, the sequence gives. -/
theorem Gives.bind {Q : β → σ → Host → Prop} {act : ActOn σ α} {f : α → ActOn σ β}
    (hf : ∀ a, Gives Q (f a)) : Gives Q (act >>= f) := by
  intro s h b s' h' hrun
  obtain ⟨a, s₁, h₁, -, hrest⟩ := bind_eq_ok hrun
  exact hf a s₁ h₁ b s' h' hrest

end ActOn

end MetaDesk
