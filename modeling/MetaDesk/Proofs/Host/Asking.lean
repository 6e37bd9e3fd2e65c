import MetaDesk.Proofs.Host.Act
import Mathlib.Data.List.Basic

/-! # Actions that only ask

Some actions read the host and leave it as it is.  `Act.Asks E h` says this of an action on one
host `h`, and that only the mishaps of `E` end it there; because the host does not change, `E` may
speak of it all along a sequence. -/

namespace MetaDesk

variable {α β : Type}

namespace Act

/-- On this host the action changes nothing, and only some mishaps end it without a result. -/
structure Asks (E : Mishap → Prop) (h : Host) (act : Act α) : Prop where
  host : (act h).2 = h
  ends : ∀ m, (act h).1 = .error m → E m

namespace Asks

variable {E E' : Mishap → Prop} {h : Host}

theorem mono {act : Act α} (hact : Asks E h act) (hE : ∀ m, E m → E' m) : Asks E' h act :=
  ⟨hact.host, fun m hm => hE m (hact.ends m hm)⟩

theorem host_of_run {act : Act α} (hact : Asks E h act) {h' : Host} {result : Except Mishap α}
    (hrun : act h = (result, h')) : h' = h := by
  rw [← hact.host, hrun]

theorem ends_of_run {act : Act α} (hact : Asks E h act) {h' : Host} {m : Mishap}
    (hrun : act h = (.error m, h')) : E m :=
  hact.ends m (by rw [hrun])

/-- It matters only what the action does on this host. -/
theorem congr {act act' : Act α} (hsame : act h = act' h) (hact : Asks E h act') :
    Asks E h act :=
  ⟨by rw [hsame, hact.host], fun m hm => hact.ends m (hsame ▸ hm)⟩

theorem pure (a : α) : Asks E h (Pure.pure a : Act α) := ⟨rfl, fun _ hm => by cases hm⟩

theorem throw {m : Mishap} (hm : E m) : Asks E h (MonadExcept.throw m : Act α) :=
  ⟨rfl, fun _ h => by cases h; exact hm⟩

/-- The rest of a sequence may count on what the first part gives. -/
theorem bind_of_run {act : Act α} {f : α → Act β} (hact : Asks E h act)
    (hf : ∀ a, act h = (.ok a, h) → Asks E h (f a)) : Asks E h (act >>= f) := by
  constructor
  · rw [bind_apply]
    rcases hrun : act h with ⟨m | a, h₁⟩
    · exact hact.host_of_run hrun
    · cases hact.host_of_run hrun
      exact (hf a hrun).host
  · intro m hm
    rw [bind_apply] at hm
    rcases hrun : act h with ⟨m' | a, h₁⟩ <;> rw [hrun] at hm
    · cases hm
      exact hact.ends_of_run hrun
    · cases hact.host_of_run hrun
      exact (hf a hrun).ends m hm

theorem bind {act : Act α} {f : α → Act β} (hact : Asks E h act) (hf : ∀ a, Asks E h (f a)) :
    Asks E h (act >>= f) := hact.bind_of_run fun a _ => hf a

/-- After a step that only asks, the rest of a sequence is done on the same host. -/
theorem bind_eq_ok {act : Act α} {f : α → Act β} (hact : Asks E h act) {h' : Host} {b : β}
    (hrun : (act >>= f) h = (.ok b, h')) : ∃ a, act h = (.ok a, h) ∧ f a h = (.ok b, h') := by
  obtain ⟨a, h₁, hfirst, hrest⟩ := Act.bind_eq_ok hrun
  cases hact.host_of_run hfirst
  exact ⟨a, hfirst, hrest⟩

/-! ### Lists -/

theorem mapM {f : α → Act β} {as : List α} (hf : ∀ a ∈ as, Asks E h (f a)) :
    Asks E h (as.mapM f) := by
  induction as with
  | nil => exact pure []
  | cons a as ih =>
      rw [List.forall_mem_cons] at hf
      rw [List.mapM_cons]
      exact hf.1.bind fun b => (ih hf.2).bind fun bs => pure (b :: bs)

theorem foldlM {f : β → α → Act β} {as : List α} (hf : ∀ b, ∀ a ∈ as, Asks E h (f b a)) (b : β) :
    Asks E h (as.foldlM f b) := by
  induction as generalizing b with
  | nil => exact pure b
  | cons a as ih =>
      rw [List.foldlM_cons]
      exact (hf b a List.mem_cons_self).bind fun b' =>
        ih (fun b a ha => hf b a (List.mem_cons_of_mem _ ha)) b'

/-- What a mapped action gives are the results of the action for the members. -/
theorem mapM_eq_ok {f : α → Act β} {as : List α} (hf : ∀ a ∈ as, Asks E h (f a)) {h' : Host}
    {bs : List β} (hrun : as.mapM f h = (.ok bs, h')) :
    (∀ a ∈ as, ∃ b ∈ bs, f a h = (.ok b, h)) ∧ ∀ b ∈ bs, ∃ a ∈ as, f a h = (.ok b, h) := by
  induction as generalizing h' bs with
  | nil =>
      cases hrun
      simp
  | cons a as ih =>
      rw [List.forall_mem_cons] at hf
      rw [List.mapM_cons] at hrun
      obtain ⟨b, hb, hrest⟩ := hf.1.bind_eq_ok hrun
      obtain ⟨bs', hbs, hlast⟩ := (mapM hf.2).bind_eq_ok hrest
      cases hlast
      obtain ⟨hall, hof⟩ := ih hf.2 hbs
      constructor
      · refine List.forall_mem_cons.mpr ⟨⟨b, List.mem_cons_self, hb⟩, fun a' ha' => ?_⟩
        obtain ⟨b', hb', hrun'⟩ := hall a' ha'
        exact ⟨b', List.mem_cons_of_mem _ hb', hrun'⟩
      · refine List.forall_mem_cons.mpr ⟨⟨a, List.mem_cons_self, hb⟩, fun b' hb' => ?_⟩
        obtain ⟨a', ha', hrun'⟩ := hof b' hb'
        exact ⟨a', List.mem_cons_of_mem _ ha', hrun'⟩

theorem filterAuxM {f : α → Act Bool} {as : List α} (hf : ∀ a ∈ as, Asks E h (f a))
    (kept : List α) : Asks E h (as.filterAuxM f kept) := by
  induction as generalizing kept with
  | nil => exact pure kept
  | cons a as ih =>
      rw [List.forall_mem_cons] at hf
      exact hf.1.bind fun _ => ih hf.2 _

theorem filterM {f : α → Act Bool} {as : List α} (hf : ∀ a ∈ as, Asks E h (f a)) :
    Asks E h (as.filterM f) :=
  (filterAuxM hf []).bind fun kept => pure kept.reverse

theorem filterAuxM_eq_ok {f : α → Act Bool} {as start kept : List α}
    (hf : ∀ a ∈ as, Asks E h (f a)) {h' : Host}
    (hrun : as.filterAuxM f start h = (.ok kept, h')) :
    (∀ a ∈ as, ∃ b, f a h = (.ok b, h)) ∧
      ∀ a, a ∈ kept ↔ a ∈ start ∨ a ∈ as ∧ f a h = (.ok true, h) := by
  induction as generalizing start with
  | nil =>
      cases hrun
      simp
  | cons a as ih =>
      rw [List.forall_mem_cons] at hf
      obtain ⟨b, hb, hrest⟩ := hf.1.bind_eq_ok hrun
      obtain ⟨hall, hkept⟩ := ih hf.2 hrest
      refine ⟨List.forall_mem_cons.mpr ⟨⟨b, hb⟩, hall⟩, fun a' => ?_⟩
      rw [hkept]
      cases b <;> grind

/-- What is kept are the members for which the action says so; for each it says something. -/
theorem filterM_eq_ok {f : α → Act Bool} {as kept : List α} (hf : ∀ a ∈ as, Asks E h (f a))
    {h' : Host} (hrun : as.filterM f h = (.ok kept, h')) :
    (∀ a ∈ as, ∃ b, f a h = (.ok b, h)) ∧ ∀ a, a ∈ kept ↔ a ∈ as ∧ f a h = (.ok true, h) := by
  obtain ⟨reversed, haux, hlast⟩ := (filterAuxM hf []).bind_eq_ok hrun
  cases hlast
  simpa using filterAuxM_eq_ok hf haux

/-! ### Questions that are all answered -/

theorem mapM_apply {f : α → Act β} {g : α → β} {as : List α}
    (hf : ∀ a ∈ as, f a h = (.ok (g a), h)) : as.mapM f h = (.ok (as.map g), h) := by
  induction as with
  | nil => rfl
  | cons a as ih =>
      rw [List.forall_mem_cons] at hf
      rw [List.mapM_cons, bind_of_ok hf.1, bind_of_ok (ih hf.2)]
      rfl

theorem filterAuxM_apply {f : α → Act Bool} {g : α → Bool} {as : List α}
    (hf : ∀ a ∈ as, f a h = (.ok (g a), h)) (start : List α) :
    as.filterAuxM f start h = (.ok ((as.filter g).reverse ++ start), h) := by
  induction as generalizing start with
  | nil => rfl
  | cons a as ih =>
      rw [List.forall_mem_cons] at hf
      refine (bind_of_ok hf.1).trans ((ih hf.2 _).trans ?_)
      cases hg : g a <;> simp [hg]

theorem filterM_apply {f : α → Act Bool} {g : α → Bool} {as : List α}
    (hf : ∀ a ∈ as, f a h = (.ok (g a), h)) : as.filterM f h = (.ok (as.filter g), h) := by
  refine (bind_of_ok (filterAuxM_apply hf [])).trans ?_
  rw [List.append_nil, List.reverse_reverse]
  rfl

/-! ### The disk -/

/-- The system does not answer a question about a path. -/
def Unanswered (f : Disk → Place → Path → Except Errno Bool) (h : Host) (p : Path) (m : Mishap) :
    Prop :=
  ∃ e, f h.disk h.here p = .error e ∧ m = .system ⟨e, p.text⟩

/-- The disk is asked unless the path is none. -/
theorem ask (p : Path) (f : Disk → Place → Path → Except Errno α) :
    Asks (fun m => hasNull p = true ∧ m = .refused .nullInPath ∨
      ∃ e, f h.disk h.here p = .error e ∧ m = .system ⟨e, p.text⟩) h (ask p f) := by
  cases hnull : hasNull p with
  | true =>
      have hask : Act.ask p f h = (.error (.refused .nullInPath), h) := by
        unfold Act.ask
        rw [hnull]
        rfl
      refine ⟨by rw [hask], fun m hm => Or.inl ⟨rfl, ?_⟩⟩
      rw [hask] at hm
      cases hm
      rfl
  | false =>
      have hask := ask_apply hnull f h
      cases hanswer : f h.disk h.here p with
      | ok a =>
          rw [hanswer] at hask
          exact ⟨by rw [hask], fun m hm => by rw [hask] at hm; cases hm⟩
      | error e =>
          rw [hanswer] at hask
          refine ⟨by rw [hask], fun m hm => Or.inr ⟨e, rfl, ?_⟩⟩
          rw [hask] at hm
          cases hm
          rfl

theorem askUnlessNull (f : Disk → Place → Path → Except Errno Bool) (p : Path) :
    Asks (fun m => hasNull p = false ∧ Unanswered f h p m) h
      (if hasNull p then Pure.pure false else Act.ask p f) := by
  split
  · exact pure false
  · next hp =>
      refine (ask p f).mono ?_
      rintro m (⟨hnull, -⟩ | hanswer)
      · exact absurd hnull hp
      · exact ⟨Bool.not_eq_true _ ▸ hp, hanswer⟩

/-- The system does not tell whether something is at a path. -/
def Unseen (h : Host) (p : Path) (m : Mishap) : Prop := Unanswered Disk.exists? h p m

theorem pathExists (p : Path) : Asks (Unseen h p) h (pathExists p) :=
  (askUnlessNull Disk.exists? p).mono fun _ hm => hm.2

theorem isFile (p : Path) :
    Asks (fun m => hasNull p = false ∧ Unanswered Disk.isFile? h p m) h (isFile p) :=
  askUnlessNull Disk.isFile? p

/-- Finding out where a path leads changes nothing. -/
theorem resolve (p : Path) : Asks (fun m => (Act.resolve p h).1 = .error m) h (Act.resolve p) :=
  ⟨host_eq (fun _ => Keeps.resolve p) h, fun _ hm => hm⟩

/-- What the system does not do is a result, and ends nothing. -/
theorem trySystem {act : Act α} (hact : Asks E h act) :
    Asks (fun m => E m ∧ ∀ e, m ≠ .system e) h (trySystem act) := by
  constructor
  · have hhost := hact.host
    unfold Act.trySystem
    split <;> next hrun => rwa [hrun] at hhost
  · intro m hm
    unfold Act.trySystem at hm
    split at hm
    · cases hm
    · next m' h' hother hrun =>
        cases hm
        exact ⟨hact.ends_of_run hrun, fun e he => hother e he⟩
    · cases hm

end Asks

/-- A path leads to the place that is settled for it. -/
theorem resolve_eq_ok_iff {p q : Path} {h : Host} : (resolve p h).1 = .ok q ↔
    hasNull p = false ∧ ∃ place, h.disk.settle h.here p = some place ∧ q = Disk.pathOf place := by
  unfold resolve
  cases hasNull p with
  | true =>
      constructor
      · intro hrun
        cases hrun
      · rintro ⟨⟨⟩, -⟩
  | false =>
      simp only [Bool.false_eq_true, if_false, true_and]
      rw [bind_of_ok (get_apply h)]
      cases h.disk.settle h.here p with
      | none =>
          constructor
          · intro hrun
            cases hrun
          · rintro ⟨place, ⟨⟩, -⟩
      | some place =>
          constructor
          · intro hrun
            cases hrun
            exact ⟨place, rfl, rfl⟩
          · rintro ⟨_, ⟨⟩, rfl⟩
            rfl

/-- It starts at the root. -/
theorem isAbsolute_of_resolve {p q : Path} {h : Host} (hq : (resolve p h).1 = .ok q) :
    q.isAbsolute = true := by
  obtain ⟨-, place, -, rfl⟩ := resolve_eq_ok_iff.mp hq
  rfl

end Act

end MetaDesk
