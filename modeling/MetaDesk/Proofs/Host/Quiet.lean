import MetaDesk.Proofs.Host.Act

/-! # Quiet actions

Most actions of a desk tell the user nothing: they may write to the journal and to the output, but
they add no notice.  `Act.Quiet E` says this of an action, and that it ends without a result only by
the mishaps of `E`; both are carried through a sequence, so that what may end a long action is read
off its steps.  An action that is quiet and for which `E` is empty gives a result on every host. -/

namespace MetaDesk

variable {α β : Type}

namespace Act

/-- The action adds no notice, and only some mishaps end it without a result. -/
structure Quiet (E : Mishap → Prop) (act : Act α) : Prop where
  notices : ∀ h, (act h).2.notices = h.notices
  ends : ∀ h m, (act h).1 = .error m → E m

/-- No mishap at all. -/
def never : Mishap → Prop := fun _ => False

/-- An error of the system. -/
def ofSystem : Mishap → Prop := fun m => ∃ e, m = .system e

/-- The path is refused for a character that no path has. -/
def NullIn (p : Path) (m : Mishap) : Prop := hasNull p = true ∧ m = .refused .nullInPath

theorem tryCatch_apply (act : Act α) (handle : Mishap → Act α) (h : Host) :
    (MonadExcept.tryCatch act handle : Act α) h = match act h with
      | (.ok a, h') => (.ok a, h')
      | (.error m, h') => handle m h' := by
  simp only [MonadExcept.tryCatch, tryCatchThe, MonadExceptOf.tryCatch, ExceptT.tryCatch,
    ExceptT.mk, bind, StateT.bind]
  rcases act h with ⟨_ | _, _⟩ <;> rfl

namespace Quiet

variable {E E' : Mishap → Prop}

theorem mono {act : Act α} (hact : Quiet E act) (hE : ∀ m, E m → E' m) : Quiet E' act :=
  ⟨hact.notices, fun h m hm => hE m (hact.ends h m hm)⟩

theorem notices_of_run {act : Act α} (hact : Quiet E act) {h h' : Host} {result : Except Mishap α}
    (hrun : act h = (result, h')) : h'.notices = h.notices := by
  rw [← hact.notices h, hrun]

theorem ends_of_run {act : Act α} (hact : Quiet E act) {h h' : Host} {m : Mishap}
    (hrun : act h = (.error m, h')) : E m :=
  hact.ends h m (by rw [hrun])

theorem pure (a : α) : Quiet E (Pure.pure a : Act α) :=
  ⟨fun _ => rfl, fun _ _ hm => by cases hm⟩

theorem throw {m : Mishap} (hm : E m) : Quiet E (MonadExcept.throw m : Act α) :=
  ⟨fun _ => rfl, fun _ _ h => by cases h; exact hm⟩

theorem get : Quiet E (MonadState.get : Act Host) :=
  ⟨fun _ => rfl, fun _ _ hm => by cases hm⟩

theorem modify {f : Host → Host} (hf : ∀ h, (f h).notices = h.notices) :
    Quiet E (modify f : Act Unit) :=
  ⟨hf, fun _ _ hm => by cases hm⟩

theorem bind {act : Act α} {f : α → Act β} (hact : Quiet E act) (hf : ∀ a, Quiet E (f a)) :
    Quiet E (act >>= f) := by
  constructor
  · intro h
    have hfirst := hact.notices h
    rw [bind_apply]
    rcases hrun : act h with ⟨m | a, h₁⟩ <;> rw [hrun] at hfirst
    · exact hfirst
    · exact ((hf a).notices h₁).trans hfirst
  · intro h m hm
    rw [bind_apply] at hm
    rcases hrun : act h with ⟨m' | a, h₁⟩ <;> rw [hrun] at hm
    · cases hm
      exact hact.ends_of_run hrun
    · exact (hf a).ends h₁ m hm

/-- What is caught no longer ends the action. -/
theorem trySystem {act : Act α} (hact : Quiet (fun m => ofSystem m ∨ E m) act) :
    Quiet E (trySystem act) := by
  constructor
  · intro h
    have hnotices := hact.notices h
    unfold Act.trySystem
    split <;> simp_all
  · intro h m hm
    unfold Act.trySystem at hm
    split at hm
    · cases hm
    · next m' h' hsystem hrun =>
        cases hm
        rcases hact.ends_of_run hrun with ⟨e, rfl⟩ | hE
        · exact (hsystem e rfl).elim
        · exact hE
    · cases hm

/-- What is done after a mishap before it goes on. -/
theorem tryCatch {act : Act α} {handle : Mishap → Act α} (hact : Quiet E act)
    (hhandle : ∀ m, E m → Quiet E (handle m)) : Quiet E (MonadExcept.tryCatch act handle) := by
  constructor
  · intro h
    have hfirst := hact.notices h
    rw [tryCatch_apply]
    rcases hrun : act h with ⟨m | a, h₁⟩ <;> rw [hrun] at hfirst
    · exact ((hhandle m (hact.ends_of_run hrun)).notices h₁).trans hfirst
    · exact hfirst
  · intro h m hm
    rw [tryCatch_apply] at hm
    rcases hrun : act h with ⟨m' | a, h₁⟩ <;> rw [hrun] at hm
    · exact (hhandle m' (hact.ends_of_run hrun)).ends h₁ m hm
    · cases hm

/-! ### What is written -/

theorem note (isError : Bool) (source : Source) (message : Text) :
    Quiet E (note isError source message) := modify fun _ => rfl

theorem display (f : Output → Output) : Quiet E (display f) := modify fun _ => rfl

theorem remark (message : Text) : Quiet E (remark message) :=
  (note false .reporting message).bind fun _ => display _

/-- A failure that is not for the user is told on the side only. -/
theorem report {f : Failure} (hf : f.category.isForUser = false) (target : Text) :
    Quiet E (report f target) := by
  have hnone : f.notice? = none := by simp [Failure.notice?, hf]
  refine (note _ _ _).bind fun _ => (display _).bind fun _ => modify fun h => ?_
  simp [hnone]

/-! ### What is asked -/

theorem ask (p : Path) (f : Disk → Place → Path → Except Errno α) :
    Quiet (fun m => ofSystem m ∨ NullIn p m) (ask p f) := by
  unfold Act.ask
  split
  · next hp => exact throw (.inr ⟨hp, rfl⟩)
  · refine get.bind fun h => ?_
    cases f h.disk h.here p with
    | error e => exact throw (.inl ⟨_, rfl⟩)
    | ok a => exact pure a

theorem change (p : Path) (f : Disk → Place → Path → Except Errno Disk) :
    Quiet (fun m => ofSystem m ∨ NullIn p m) (change p f) :=
  (ask p f).bind fun _ => modify fun _ => rfl

theorem pathExists (p : Path) : Quiet ofSystem (pathExists p) := by
  unfold Act.pathExists
  split
  · exact pure false
  · next hp => exact (ask p _).mono fun m hm => hm.resolve_right fun hnull => hp hnull.1

/-! ### Waiting -/

theorem notices_afterWait (h : Host) : h.afterWait.notices = h.notices := by
  have hfold : ∀ (due : List (Nat × Files)) (h : Host),
      (due.foldl (fun h e => h.putFiles e.2) h).notices = h.notices := by
    intro due
    induction due with
    | nil => exact fun _ => rfl
    | cons e due ih => exact fun h => ih (h.putFiles e.2)
  exact hfold _ _

theorem sleep (seconds : Binary64) : Quiet E (sleep seconds) :=
  modify fun h => notices_afterWait h

end Quiet

end Act

end MetaDesk
