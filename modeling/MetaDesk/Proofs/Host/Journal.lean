import MetaDesk.Proofs.Host.Asking
import MetaDesk.Proofs.Host.Quiet

/-! # The journal

Nothing that a desk does depends on what is in its journal.  `SameButJournal` says that hosts differ
in nothing else.  `Act.OnlyNotes E h` says of an action that on the host `h`, whatever its journal, it
changes at most the journal, and that only the mishaps of `E` end it.  As with actions that only ask,
`E` may speak of the host all along a sequence. -/

namespace MetaDesk

variable {α β : Type}

/-- The property does not speak of the journal. -/
def IgnoresJournal (P : Host → Prop) : Prop := ∀ h journal, P h → P { h with journal := journal }

theorem Act.Keeps.warn {P : Host → Prop} (hP : IgnoresJournal P) (source : Source) (message : Text) :
    Act.Keeps P (Act.warn source message) := fun h hh => hP h _ hh

/-- Everything but the journal is the same. -/
def SameButJournal (h h' : Host) : Prop := ∃ journal, h' = { h with journal := journal }

theorem SameButJournal.refl (h : Host) : SameButJournal h h := ⟨h.journal, rfl⟩

theorem SameButJournal.trans {h₁ h₂ h₃ : Host} (hfirst : SameButJournal h₁ h₂)
    (hnext : SameButJournal h₂ h₃) : SameButJournal h₁ h₃ := by
  obtain ⟨_, rfl⟩ := hfirst
  obtain ⟨journal, rfl⟩ := hnext
  exact ⟨journal, rfl⟩

theorem SameButJournal.ignoresJournal (h : Host) : IgnoresJournal (SameButJournal h) := by
  rintro _ journal ⟨_, rfl⟩
  exact ⟨journal, rfl⟩

namespace Act

/-- Where a path leads does not depend on the journal. -/
theorem resolve_of_sameButJournal {h h' : Host} (hsame : SameButJournal h h') (p : Path) :
    (resolve p h').1 = (resolve p h).1 := by
  obtain ⟨journal, rfl⟩ := hsame
  unfold resolve
  cases hasNull p with
  | true => rfl
  | false =>
      simp only [Bool.false_eq_true, if_false]
      rw [bind_of_ok (get_apply _), bind_of_ok (get_apply _)]
      dsimp only
      cases h.disk.settle h.here p <;> rfl

/-- What is on the disk does not depend on the journal. -/
theorem ask_of_sameButJournal {h h' : Host} (hsame : SameButJournal h h') (p : Path)
    (f : Disk → Place → Path → Except Errno α) : (ask p f h').1 = (ask p f h).1 := by
  obtain ⟨journal, rfl⟩ := hsame
  unfold ask
  cases hasNull p with
  | true => rfl
  | false =>
      simp only [Bool.false_eq_true, if_false]
      rw [bind_of_ok (get_apply _), bind_of_ok (get_apply _)]
      dsimp only
      cases f h.disk h.here p <;> rfl

/-- Whatever is in the journal of the host, the action changes nothing else, and only some mishaps end
it without a result. -/
structure OnlyNotes (E : Mishap → Prop) (h : Host) (act : Act α) : Prop where
  host : ∀ h', SameButJournal h h' → SameButJournal h (act h').2
  ends : ∀ h' m, SameButJournal h h' → (act h').1 = .error m → E m

namespace OnlyNotes

variable {E E' : Mishap → Prop} {h h' h'' : Host}

theorem ofAsks {act : Act α} (hact : ∀ h', SameButJournal h h' → Asks E h' act) :
    OnlyNotes E h act :=
  ⟨fun h' hsame => by rwa [(hact h' hsame).host], fun h' m hsame hm => (hact h' hsame).ends m hm⟩

theorem mono {act : Act α} (hact : OnlyNotes E h act) (hE : ∀ m, E m → E' m) :
    OnlyNotes E' h act :=
  ⟨hact.host, fun h' m hsame hm => hE m (hact.ends h' m hsame hm)⟩

theorem host_of_run {act : Act α} (hact : OnlyNotes E h act) (hsame : SameButJournal h h')
    {result : Except Mishap α} (hrun : act h' = (result, h'')) : SameButJournal h h'' := by
  have hlast := hact.host h' hsame
  rwa [hrun] at hlast

theorem ends_of_run {act : Act α} (hact : OnlyNotes E h act) (hsame : SameButJournal h h')
    {m : Mishap} (hrun : act h' = (.error m, h'')) : E m :=
  hact.ends h' m hsame (by rw [hrun])

theorem pure (a : α) : OnlyNotes E h (Pure.pure a : Act α) := ofAsks fun _ _ => .pure a

theorem warn (source : Source) (message : Text) : OnlyNotes E h (warn source message) :=
  ⟨fun h' hsame => SameButJournal.ignoresJournal h h' _ hsame, fun _ _ _ hm => by cases hm⟩

/-- The rest of a sequence may count on what the first part gives. -/
theorem bind {act : Act α} {f : α → Act β} (hact : OnlyNotes E h act)
    (hf : ∀ h' a, SameButJournal h h' → (act h').1 = .ok a → OnlyNotes E h (f a)) :
    OnlyNotes E h (act >>= f) := by
  constructor
  · intro h' hsame
    rw [bind_apply]
    rcases hrun : act h' with ⟨m | a, h₁⟩
    · exact hact.host_of_run hsame hrun
    · exact (hf h' a hsame (by rw [hrun])).host h₁ (hact.host_of_run hsame hrun)
  · intro h' m hsame hm
    rw [bind_apply] at hm
    rcases hrun : act h' with ⟨m' | a, h₁⟩ <;> rw [hrun] at hm
    · cases hm
      exact hact.ends_of_run hsame hrun
    · exact (hf h' a hsame (by rw [hrun])).ends h₁ m (hact.host_of_run hsame hrun) hm

/-- The steps of a sequence are all done on the same host but for its journal. -/
theorem bind_eq_ok {act : Act α} {f : α → Act β} (hact : OnlyNotes E h act)
    (hsame : SameButJournal h h') {b : β} (hrun : (act >>= f) h' = (.ok b, h'')) :
    ∃ a h₁, act h' = (.ok a, h₁) ∧ SameButJournal h h₁ ∧ f a h₁ = (.ok b, h'') := by
  obtain ⟨a, h₁, hfirst, hrest⟩ := Act.bind_eq_ok hrun
  exact ⟨a, h₁, hfirst, hact.host_of_run hsame hfirst, hrest⟩

theorem foldlM {f : β → α → Act β} {as : List α} (hf : ∀ b, ∀ a ∈ as, OnlyNotes E h (f b a))
    (b : β) : OnlyNotes E h (as.foldlM f b) := by
  induction as generalizing b with
  | nil => exact pure b
  | cons a as ih =>
      rw [List.foldlM_cons]
      exact (hf b a List.mem_cons_self).bind fun _ b' _ _ =>
        ih (fun b a ha => hf b a (List.mem_cons_of_mem _ ha)) b'

end OnlyNotes

end Act

end MetaDesk
