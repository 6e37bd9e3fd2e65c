import MetaDesk.Proofs.Target.Header
import MetaDesk.Proofs.Target.Resolving

/-! # How the search for targets ends

On the way from one given path to the next only an index is made and the journal is written to
(`Midway`).  `Stops` says what may end the search before it is done, and nothing else does
(`resolve_eq_error`). -/

namespace MetaDesk

namespace Target

open HeaderResolver (GoesOn)

variable {ask who : HeaderFlavor} {given : Text} {gs : List Text} {p : Path} {ps mains : List Path}
  {f : Flavor} {ts : List Target} {vs : List Visit} {r r' r₁ r₂ : Option HeaderResolver}
  {h h' h₁ h₂ : Host} {m : Mishap}

/-! ### The way -/

/-- What may have changed on the way: an index may have been made, and the journal written to. -/
structure Midway (r : Option HeaderResolver) (h : Host) (r₁ : Option HeaderResolver) (h₁ : Host) :
    Prop where
  known : Option.Rel (GoesOn h) r r₁
  same : SameButJournal h h₁

theorem Midway.refl (r : Option HeaderResolver) (h : Host) : Midway r h r h := by
  refine ⟨?_, .refl h⟩
  cases r with
  | none => exact .none
  | some resolver => exact .some (Or.inl rfl)

theorem Midway.of_some {resolver₁ : HeaderResolver} (hmid : Midway r h (some resolver₁) h₁) :
    ∃ resolver, r = some resolver ∧ GoesOn h resolver resolver₁ := by
  obtain ⟨⟨hon⟩, -⟩ := hmid
  exact ⟨_, rfl, hon⟩

theorem Midway.mainsOf (hmid : Midway r h r₁ h₁)
    (hrun : Target.mainsOf p r₁ h₁ = ((.ok mains, r₂), h₂)) : Midway r h r₂ h₂ := by
  have hsame := (mainsOf_keeps (SameButJournal.ignoresJournal h) p).of_run hmid.same hrun
  refine ⟨?_, hsame⟩
  rcases mainsOf_cases hrun with
    ⟨-, -, rfl, -⟩ | ⟨-, resolver₁, rfl, ⟨m, -, ⟨⟩⟩ | ⟨_, _, hfor, -, rfl⟩⟩
  · exact hmid.known
  · obtain ⟨resolver, rfl, hon⟩ := hmid.of_some
    exact .some (hon.trans (HeaderResolver.mainsFor_eq_ok hmid.same hfor).1)

/-- The main files of each visit were looked up midway. -/
theorem Visits.midway (hvisits : Visits r h gs vs r' h') : Midway r h r' h' ∧
    ∀ v ∈ vs, ∃ r₁ h₁ r₂ h₂, Midway r h r₁ h₁ ∧ Target.mainsOf v.path r₁ h₁ = ((.ok v.mains, r₂), h₂) := by
  induction hvisits with
  | start => exact ⟨.refl _ _, List.forall_mem_nil _⟩
  | next _ _ hmains hsame ih =>
      obtain ⟨hmid, hbefore⟩ := ih
      have hnext := hmid.mainsOf hmains
      refine ⟨⟨hnext.known, hnext.same.trans hsame⟩, fun v hv => ?_⟩
      rcases List.mem_append.mp hv with hv | hv
      · exact hbefore v hv
      · obtain rfl := List.mem_singleton.mp hv
        exact ⟨_, _, _, _, hmid, hmains⟩

/-! ### What ends the search -/

/-- What may end the search for the targets of given paths: one of them is nowhere, somebody who is
asked for the flavor of a header does not answer, or the main files of a header cannot be looked up. -/
inductive Stops (ask : HeaderFlavor) (r : Option HeaderResolver) (h : Host) (gs : List Text)
    (m : Mishap) : Prop
  | lost {given : Text} : given ∈ gs → (locate given h).1 = .error m → Stops ask r h gs m
  | asked {given : Text} {p : Path} : given ∈ gs → (locate given h).1 = .ok p →
      Flavor.isHeader p.suffix = true → ask p = .error m → Stops ask r h gs m
  | mains {given : Text} {p : Path} {resolver : HeaderResolver} : given ∈ gs →
      (locate given h).1 = .ok p → Flavor.isHeader p.suffix = true → r = some resolver →
      resolver.Bars h p m → Stops ask r h gs m

theorem Stops.subset {gs' : List Text} (hstops : Stops ask r h gs m) (hsub : gs ⊆ gs') :
    Stops ask r h gs' m := by
  cases hstops with
  | lost hgiven hlost => exact .lost (hsub hgiven) hlost
  | asked hgiven hp hheader hask => exact .asked (hsub hgiven) hp hheader hask
  | mains hgiven hp hheader hr hbars => exact .mains (hsub hgiven) hp hheader hr hbars

theorem flavorOf_eq_error (hflavor : flavorOf who p = .error m) :
    Flavor.isHeader p.suffix = true ∧ who p = .error m := by
  unfold flavorOf at hflavor
  split at hflavor
  · cases hflavor
  · split at hflavor
    · next hheader =>
        refine ⟨hheader, ?_⟩
        cases hasked : who p with
        | error m' =>
            rw [hasked] at hflavor
            cases hflavor
            rfl
        | ok answer =>
            rw [hasked] at hflavor
            cases answer <;> cases hflavor
    · cases hflavor

theorem orEnd_eq_error {α : Type} {result : Except Mishap α}
    (hrun : orEnd result r h = ((.error m, r'), h')) : result = .error m := by
  cases result with
  | error m' =>
      cases hrun
      rfl
  | ok a => cases hrun

/-- A target that starts at the root is always made. -/
theorem add_eq_error (hrun : add ts p f r h = ((.error m, r'), h')) : p.isAbsolute = false := by
  unfold add at hrun
  split at hrun
  · cases hrun
  · cases hmake : make p f with
    | ok t =>
        rw [hmake] at hrun
        cases hrun
    | error refusal =>
        unfold make at hmake
        split at hmake
        · cases hmake
        · next hrelative => exact Bool.not_eq_true _ ▸ hrelative

theorem addMain_eq_error (hrun : addMain ts p r h = ((.error m, r'), h')) : p.isAbsolute = false := by
  unfold addMain at hrun
  rcases ActOn.bind_eq_error hrun with hend | ⟨flavor?, r₁, h₁, -, hrest⟩
  · cases (flavorOf_eq_error (orEnd_eq_error hend)).2
  · cases flavor? with
    | some f => exact add_eq_error hrest
    | none => cases hrest

theorem addMains_eq_error (hrun : ps.foldlM addMain ts r h = ((.error m, r'), h')) :
    ∃ p ∈ ps, p.isAbsolute = false := by
  induction ps generalizing ts r h with
  | nil => cases hrun
  | cons p ps ih =>
      rw [List.foldlM_cons] at hrun
      rcases ActOn.bind_eq_error hrun with hmain | ⟨ts₁, r₁, h₁, -, hrest⟩
      · exact ⟨p, List.mem_cons_self, addMain_eq_error hmain⟩
      · obtain ⟨q, hq, hrelative⟩ := ih hrest
        exact ⟨q, List.mem_cons_of_mem _ hq, hrelative⟩

theorem addFile_eq_error (hp : p.isAbsolute = true)
    (hrun : addFile ask ts p r h = ((.error m, r'), h')) :
    Flavor.isHeader p.suffix = true ∧ ask p = .error m := by
  unfold addFile at hrun
  rcases ActOn.bind_eq_error hrun with hend | ⟨flavor?, r₁, h₁, -, hrest⟩
  · exact flavorOf_eq_error (orEnd_eq_error hend)
  · cases flavor? with
    | some f =>
        rw [add_eq_error hrest] at hp
        cases hp
    | none => cases hrest

/-- What is known before the search speaks of no paths but those from the root on. -/
def IsRooted (r : Option HeaderResolver) : Prop :=
  ∀ resolver index, r = some resolver → resolver.index = some index → index.IsRooted

theorem isAbsolute_of_locate (hlocate : (locate given h).1 = .ok p) : p.isAbsolute = true := by
  unfold locate at hlocate
  rw [Act.bind_of_ok (Act.get_apply h)] at hlocate
  cases hhome : Path.fromHome h.homes (.ofText given) with
  | error m =>
      rw [hhome] at hlocate
      cases hlocate
  | ok q =>
      rw [hhome] at hlocate
      exact Act.isAbsolute_of_resolve hlocate

theorem isAbsolute_of_mainsOf (hrooted : IsRooted r) (hmid : Midway r h r₁ h₁)
    (hrun : mainsOf p r₁ h₁ = ((.ok mains, r₂), h₂)) : ∀ q ∈ mains, q.isAbsolute = true := by
  rcases mainsOf_cases hrun with ⟨-, ⟨⟩, -⟩ | ⟨-, resolver₁, rfl, ⟨m, -, ⟨⟩⟩ | ⟨_, _, hfor, ⟨⟩, -⟩⟩
  · exact List.forall_mem_nil _
  · obtain ⟨resolver, rfl, hon⟩ := hmid.of_some
    exact HeaderResolver.isAbsolute_of_mainsFor hmid.same
      (hon.isRooted fun index hindex => hrooted resolver index rfl hindex) hfor

theorem addGiven_eq_error (hrooted : IsRooted r) (hmid : Midway r h r₁ h₁)
    (hrun : addGiven ask ts given r₁ h₁ = ((.error m, r₂), h₂)) : Stops ask r h [given] m := by
  have hgiven : given ∈ [given] := List.mem_singleton_self given
  unfold addGiven at hrun
  rcases ActOn.bind_eq_error hrun with hlift | ⟨p, r₃, h₃, hlift, hrest⟩
  · have hlost := (ActOn.lift_eq hlift).1
    exact .lost hgiven (by rw [← locate_of_sameButJournal hmid.same, hlost])
  · obtain ⟨hlocate, rfl⟩ := ActOn.lift_eq hlift
    have hhost := Act.host_eq (fun _ => locate_keeps given) h₁
    rw [hlocate] at hhost
    obtain rfl : h₃ = h₁ := hhost
    have hp : (locate given h).1 = .ok p := by
      rw [← locate_of_sameButJournal hmid.same, hlocate]
    rcases ActOn.bind_eq_error hrest with hmains | ⟨mains, r₄, h₄, hmains, hadd⟩
    · rcases mainsOf_cases hmains with
        ⟨-, ⟨⟩, -⟩ | ⟨hheader, resolver₁, rfl, ⟨_, hfor, ⟨⟩⟩ | ⟨_, _, -, ⟨⟩, -⟩⟩
      obtain ⟨resolver, rfl, hon⟩ := hmid.of_some
      refine .mains hgiven hp hheader rfl (hon.bars ?_)
      exact (HeaderResolver.mainsFor_onlyNotes resolver₁ p).ends_of_run hmid.same hfor
    · split at hadd
      · obtain ⟨hheader, hask⟩ := addFile_eq_error (isAbsolute_of_locate hp) hadd
        exact .asked hgiven hp hheader hask
      · obtain ⟨q, hq, hrelative⟩ := addMains_eq_error hadd
        rw [isAbsolute_of_mainsOf hrooted hmid hmains q hq] at hrelative
        cases hrelative

theorem resolve_eq_error (hrooted : IsRooted r)
    (hrun : resolve ask gs r h = ((.error m, r'), h')) : Stops ask r h gs m := by
  induction gs using List.reverseRecOn generalizing r' h' with
  | nil => cases hrun
  | append_singleton gs given ih =>
      rw [resolve_concat] at hrun
      rcases ActOn.bind_eq_error hrun with hbefore | ⟨ts₁, r₁, h₁, hbefore, hgiven⟩
      · exact (ih hbefore).subset (List.subset_append_left gs _)
      · obtain ⟨vs, hvisits, -⟩ := resolve_eq_ok hbefore
        exact (addGiven_eq_error hrooted hvisits.midway.1 hgiven).subset
          (List.subset_append_right gs _)

end Target

end MetaDesk
