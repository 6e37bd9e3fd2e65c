import MetaDesk.Proofs.Command.Preparing
import MetaDesk.Proofs.Distinct
import Mathlib.Data.List.Forall2
import Mathlib.Data.List.Induction

/-! # The targets of given paths

Each given path is located, and the main files of a header are looked up.  `Visits` is the record of
this: where the given paths are, which main files were found for them, and how what is known about
headers went on.

The targets are the sources that the visits lead to, each once, in the order in which they are first
led to (`Collected`).  One more given path only adds targets at the end (`addGiven_eq_ok`), so the
targets of more paths begin with those of fewer. -/

namespace MetaDesk

namespace Target

variable {ask who : HeaderFlavor} {given : Text} {p : Path} {ps qs : List Path} {f : Flavor}
  {ts ts' new more : List Target} {r r' : Option HeaderResolver} {h h' : Host}

/-! ### Flavors -/

theorem isSome_of_flavorOf {flavor? : Option Flavor} (hflavor : flavorOf who p = .ok flavor?) :
    flavor?.isSome = Flavor.isSource p.suffix := by
  unfold flavorOf at hflavor
  unfold Flavor.isSource
  cases hsuffix : Flavor.ofSuffix? p.suffix with
  | some f =>
      rw [hsuffix] at hflavor
      cases hflavor
      rfl
  | none =>
      rw [hsuffix] at hflavor
      dsimp only at hflavor
      cases hheader : Flavor.isHeader p.suffix with
      | false =>
          rw [hheader] at hflavor
          cases hflavor
          rfl
      | true =>
          rw [hheader] at hflavor
          cases hasked : who p with
          | error m =>
              rw [hasked] at hflavor
              cases hflavor
          | ok answer =>
              rw [hasked] at hflavor
              cases answer <;> cases hflavor <;> rfl

/-- The suffix of a main file decides, whatever somebody says. -/
theorem flavorOf_of_ofSuffix? (hsuffix : Flavor.ofSuffix? p.suffix = some f) :
    flavorOf who p = .ok (some f) := by
  unfold flavorOf
  rw [hsuffix]

/-! ### Adding targets -/

/-- The sources among some files. -/
def sourcesOf (ps : List Path) : List Path := ps.filter fun p => Flavor.isSource p.suffix

/-- `Adds who ps ts new`: to the targets `ts` the files `ps` add the targets `new`, one for each
source that is not a target yet. -/
structure Adds (who : HeaderFlavor) (ps : List Path) (ts new : List Target) : Prop where
  paths_eq : ∀ all, ts.map path = all.eraseDups →
    (ts ++ new).map path = (all ++ sourcesOf ps).eraseDups
  fresh : ∀ t ∈ new, t.path ∉ ts.map path
  mem : ∀ t ∈ new, t.path ∈ sourcesOf ps
  flavor_eq : ∀ t ∈ new, flavorOf who t.path = .ok (some t.flavor)

theorem Adds.nothing (hnone : sourcesOf ps = []) : Adds who ps ts [] := by
  refine ⟨fun all hall => ?_, ?_, ?_, ?_⟩
  · rw [hnone, List.append_nil, List.append_nil]
    exact hall
  all_goals exact fun t ht => (List.not_mem_nil ht).elim

theorem Adds.append (hfirst : Adds who ps ts new) (hnext : Adds who qs (ts ++ new) more) :
    Adds who (ps ++ qs) ts (new ++ more) := by
  have hsources : sourcesOf (ps ++ qs) = sourcesOf ps ++ sourcesOf qs := List.filter_append ..
  refine ⟨fun all hall => ?_, fun t ht => ?_, fun t ht => ?_, fun t ht => ?_⟩
  · rw [hsources, ← List.append_assoc, ← List.append_assoc]
    exact hnext.paths_eq _ (hfirst.paths_eq _ hall)
  all_goals rcases List.mem_append.mp ht with ht | ht
  · exact hfirst.fresh t ht
  · exact fun hold => hnext.fresh t ht (by rw [List.map_append]; exact List.mem_append_left _ hold)
  · exact hsources ▸ List.mem_append_left _ (hfirst.mem t ht)
  · exact hsources ▸ List.mem_append_right _ (hnext.mem t ht)
  · exact hfirst.flavor_eq t ht
  · exact hnext.flavor_eq t ht

theorem make_flavor {t : Target} (hmake : make p f = .ok t) : t.flavor = f := by
  unfold make at hmake
  split at hmake
  · cases hmake
    rfl
  · cases hmake

/-- A file is added unless it is a target already. -/
theorem add_eq_ok (hflavor : flavorOf who p = .ok (some f))
    (hrun : add ts p f r h = ((.ok ts', r'), h')) :
    r' = r ∧ h' = h ∧ ∃ new, ts' = ts ++ new ∧ Adds who [p] ts new := by
  have hsource : sourcesOf [p] = [p] := by
    have hsource := (isSome_of_flavorOf hflavor).symm
    exact List.filter_cons_of_pos hsource
  have hany : (ts.any fun t => t.path = p) = true ↔ p ∈ ts.map path := by simp
  have hmem : ∀ {all : List Path}, ts.map path = all.eraseDups →
      (p ∈ all ↔ p ∈ ts.map path) := by
    intro all hall
    rw [hall, List.mem_eraseDups]
  unfold add at hrun
  split at hrun
  · next hthere =>
      cases hrun
      refine ⟨rfl, rfl, [], (List.append_nil _).symm, fun all hall => ?_, ?_, ?_, ?_⟩
      · rw [hsource, eraseDups_concat, if_pos ((hmem hall).mpr (hany.mp hthere)), List.append_nil]
        exact hall
      all_goals exact fun t ht => (List.not_mem_nil ht).elim
  · next hnot =>
      cases hmake : make p f with
      | error refusal =>
          rw [hmake] at hrun
          cases hrun
      | ok t =>
          rw [hmake] at hrun
          cases hrun
          have hnew : p ∉ ts.map path := fun hthere => hnot (hany.mpr hthere)
          obtain ⟨hpath, hflavor'⟩ : t.path = p ∧ t.flavor = f := ⟨make_path hmake, make_flavor hmake⟩
          refine ⟨rfl, rfl, [t], rfl, fun all hall => ?_, ?_, ?_, ?_⟩
          · rw [hsource, eraseDups_concat, if_neg fun hthere => hnew ((hmem hall).mp hthere),
              List.map_append, hall, ← hpath]
            rfl
          all_goals rintro _ (_ | ⟨_, ⟨⟩⟩)
          · rwa [hpath]
          · rw [hsource, hpath]
            exact List.mem_singleton_self p
          · rw [hpath, hflavor']
            exact hflavor

theorem orEnd_eq_ok {α : Type} {result : Except Mishap α} {a : α}
    (hrun : orEnd result r h = ((.ok a, r'), h')) : result = .ok a ∧ r' = r ∧ h' = h := by
  cases result with
  | error m => cases hrun
  | ok b =>
      cases hrun
      exact ⟨rfl, rfl, rfl⟩

theorem sourcesOf_of_flavorOf (hflavor : flavorOf who p = .ok none) : sourcesOf [p] = [] := by
  have hsource := (isSome_of_flavorOf hflavor).symm
  exact List.filter_cons_of_neg (ne_true_of_eq_false hsource)

theorem addMain_eq_ok (hrun : addMain ts p r h = ((.ok ts', r'), h')) :
    r' = r ∧ h' = h ∧ ∃ new, ts' = ts ++ new ∧ Adds nobody [p] ts new := by
  unfold addMain at hrun
  obtain ⟨flavor?, _, _, hend, hrest⟩ := ActOn.bind_eq_ok hrun
  obtain ⟨hflavor, rfl, rfl⟩ := orEnd_eq_ok hend
  cases flavor? with
  | some f => exact add_eq_ok hflavor hrest
  | none =>
      cases hrest
      exact ⟨rfl, rfl, [], (List.append_nil _).symm, .nothing (sourcesOf_of_flavorOf hflavor)⟩

theorem addMains_eq_ok (hrun : ps.foldlM addMain ts r h = ((.ok ts', r'), h')) :
    r' = r ∧ h' = h ∧ ∃ new, ts' = ts ++ new ∧ Adds nobody ps ts new := by
  induction ps generalizing ts with
  | nil =>
      cases hrun
      exact ⟨rfl, rfl, [], (List.append_nil _).symm, .nothing rfl⟩
  | cons p ps ih =>
      rw [List.foldlM_cons] at hrun
      obtain ⟨ts₁, r₁, h₁, hmain, hrest⟩ := ActOn.bind_eq_ok hrun
      obtain ⟨rfl, rfl, new, rfl, hnew⟩ := addMain_eq_ok hmain
      obtain ⟨rfl, rfl, more, rfl, hmore⟩ := ih hrest
      exact ⟨rfl, rfl, new ++ more, List.append_assoc .., hnew.append hmore⟩

theorem addFile_eq_ok (hrun : addFile ask ts p r h = ((.ok ts', r'), h')) :
    r' = r ∧ SameButJournal h h' ∧ ∃ new, ts' = ts ++ new ∧ Adds ask [p] ts new := by
  unfold addFile at hrun
  obtain ⟨flavor?, _, _, hend, hrest⟩ := ActOn.bind_eq_ok hrun
  obtain ⟨hflavor, rfl, rfl⟩ := orEnd_eq_ok hend
  cases flavor? with
  | some f =>
      obtain ⟨rfl, rfl, hnew⟩ := add_eq_ok hflavor hrest
      exact ⟨rfl, .refl _, hnew⟩
  | none =>
      obtain ⟨_, h₁, hwarn, hrest⟩ := ActOn.bind_lift_eq_ok hrest
      cases hwarn
      cases hrest
      exact ⟨rfl, ⟨_, rfl⟩, [], (List.append_nil _).symm,
        .nothing (sourcesOf_of_flavorOf hflavor)⟩

/-! ### Visits -/

/-- A given path that was located, and the main files that were found for it. -/
structure Visit where
  path : Path
  mains : List Path

/-- The files that a visit leads to: the main files, or the file itself if there are none. -/
def Visit.files (v : Visit) : List Path := if v.mains.isEmpty then [v.path] else v.mains

theorem Visit.files_of_eq_nil {v : Visit} (hnone : v.mains = []) : v.files = [v.path] := by
  rw [Visit.files, hnone, List.isEmpty_nil, if_pos rfl]

theorem Visit.files_of_ne_nil {v : Visit} (hsome : v.mains ≠ []) : v.files = v.mains := by
  rw [Visit.files, if_neg fun hempty => hsome (List.isEmpty_iff.mp hempty)]

/-- The sources that a visit leads to. -/
def Visit.sources (v : Visit) : List Path := sourcesOf v.files

/-- Who knows the flavors of these: for a main file nobody is asked. -/
def Visit.asked (ask : HeaderFlavor) (v : Visit) : HeaderFlavor :=
  if v.mains.isEmpty then ask else nobody

/-- `Visits r h given vs r' h'`: the given paths were visited one after the other, each where the
host says it is, with the main files that are known by then. -/
inductive Visits : Option HeaderResolver → Host → List Text → List Visit →
    Option HeaderResolver → Host → Prop
  | start (r : Option HeaderResolver) (h : Host) : Visits r h [] [] r h
  | next {r r₁ r₂ : Option HeaderResolver} {h h₁ h₂ h₃ : Host} {gs : List Text} {given : Text}
      {vs : List Visit} {v : Visit} :
      Visits r h gs vs r₁ h₁ → locate given h₁ = (.ok v.path, h₁) →
      mainsOf v.path r₁ h₁ = ((.ok v.mains, r₂), h₂) → SameButJournal h₂ h₃ →
      Visits r h (gs ++ [given]) (vs ++ [v]) r₂ h₃

/-- **What one more given path does.**  It is located, its main files are looked up, and the sources
that this leads to are added at the end. -/
theorem addGiven_eq_ok (hrun : addGiven ask ts given r h = ((.ok ts', r'), h')) :
    ∃ (v : Visit) (h₁ : Host), locate given h = (.ok v.path, h) ∧
      mainsOf v.path r h = ((.ok v.mains, r'), h₁) ∧ SameButJournal h₁ h' ∧
      ∃ new, ts' = ts ++ new ∧ Adds (v.asked ask) v.files ts new := by
  unfold addGiven at hrun
  obtain ⟨p, h₁, hlocate, hrest⟩ := ActOn.bind_lift_eq_ok hrun
  have hhost := Act.host_eq (fun _ => locate_keeps given) h
  rw [hlocate] at hhost
  obtain rfl : h₁ = h := hhost
  obtain ⟨mains, r₁, h₂, hmains, hrest⟩ := ActOn.bind_eq_ok hrest
  cases hnone : mains.isEmpty with
  | true =>
      rw [hnone, if_pos rfl] at hrest
      obtain ⟨rfl, hsame, new, rfl, hnew⟩ := addFile_eq_ok hrest
      refine ⟨⟨p, mains⟩, h₂, hlocate, hmains, hsame, new, rfl, ?_⟩
      rw [Visit.asked, Visit.files, hnone]
      exact hnew
  | false =>
      rw [hnone, if_neg Bool.false_ne_true] at hrest
      obtain ⟨rfl, rfl, new, rfl, hnew⟩ := addMains_eq_ok hrest
      refine ⟨⟨p, mains⟩, h', hlocate, hmains, .refl _, new, rfl, ?_⟩
      rw [Visit.asked, Visit.files, hnone]
      exact hnew

theorem mainsOf_cases {result : Except Mishap (List Path)}
    (hrun : mainsOf p r h = ((result, r'), h')) :
    (Flavor.isHeader p.suffix = false ∨ r = none) ∧ result = .ok [] ∧ r' = r ∧ h' = h ∨
      Flavor.isHeader p.suffix = true ∧ ∃ resolver, r = some resolver ∧
        ((∃ m, resolver.mainsFor p h = (.error m, h') ∧ result = .error m) ∨
          ∃ mains resolver', resolver.mainsFor p h = (.ok (mains, resolver'), h') ∧
            result = .ok mains ∧ r' = some resolver') := by
  unfold mainsOf at hrun
  rw [ActOn.bind_of_ok (ActOn.getThe_apply r h)] at hrun
  cases r with
  | none =>
      cases hrun
      exact Or.inl ⟨Or.inr rfl, rfl, rfl, rfl⟩
  | some resolver =>
      dsimp only at hrun
      cases hheader : Flavor.isHeader p.suffix with
      | false =>
          rw [hheader, if_neg Bool.false_ne_true] at hrun
          cases hrun
          exact Or.inl ⟨Or.inl rfl, rfl, rfl, rfl⟩
      | true =>
          rw [hheader, if_pos rfl] at hrun
          refine Or.inr ⟨rfl, resolver, rfl, ?_⟩
          rcases hmains : resolver.mainsFor p h with ⟨m | ⟨mains, resolver'⟩, h₁⟩
          · rw [ActOn.bind_lift_of_error hmains] at hrun
            cases hrun
            exact Or.inl ⟨m, rfl, rfl⟩
          · rw [ActOn.bind_lift_of_ok hmains] at hrun
            cases hrun
            exact Or.inr ⟨mains, resolver', rfl, rfl, rfl⟩

theorem isHeader_of_mainsOf {mains : List Path} (hrun : mainsOf p r h = ((.ok mains, r'), h'))
    (hmains : mains ≠ []) : Flavor.isHeader p.suffix = true := by
  rcases mainsOf_cases hrun with ⟨-, hnone, -⟩ | ⟨hheader, -⟩
  · exact absurd (Except.ok.inj hnone) hmains
  · exact hheader

theorem locate_of_sameButJournal (hsame : SameButJournal h h') :
    (locate given h').1 = (locate given h).1 := by
  obtain ⟨journal, rfl⟩ := hsame
  unfold locate
  rw [Act.bind_of_ok (Act.get_apply _), Act.bind_of_ok (Act.get_apply _)]
  cases Path.fromHome h.homes (.ofText given) with
  | error m => rfl
  | ok p => exact Act.resolve_of_sameButJournal ⟨journal, rfl⟩ p

theorem Visits.sameButJournal {gs : List Text} {vs : List Visit} (hvisits : Visits r h gs vs r' h') :
    SameButJournal h h' := by
  induction hvisits with
  | start => exact .refl _
  | next _ _ hmains hsame ih =>
      refine ih.trans (.trans ?_ hsame)
      exact (mainsOf_keeps (SameButJournal.ignoresJournal _) _).of_run (.refl _) hmains

theorem Visits.located {gs : List Text} {vs : List Visit} (hvisits : Visits r h gs vs r' h') :
    List.Forall₂ (fun given v => (locate given h).1 = .ok v.path) gs vs := by
  induction hvisits with
  | start => exact .nil
  | next hvisits hlocate _ _ ih =>
      refine List.rel_append ih (.cons ?_ .nil)
      rw [← locate_of_sameButJournal hvisits.sameButJournal, hlocate]

/-! ### All targets -/

/-- The targets are the sources that the visits lead to, each once and with the flavor that the
first visit that leads to it gives. -/
structure Collected (ask : HeaderFlavor) (vs : List Visit) (ts : List Target) : Prop where
  paths_eq : ts.map path = (vs.flatMap Visit.sources).eraseDups
  first : ∀ t ∈ ts, ∃ us v ws, vs = us ++ v :: ws ∧ t.path ∉ us.flatMap Visit.sources ∧
    t.path ∈ v.sources ∧ flavorOf (v.asked ask) t.path = .ok (some t.flavor)

namespace Collected

variable {vs us ws : List Visit} {v : Visit}

theorem mem_paths_iff (hts : Collected ask vs ts) :
    p ∈ ts.map path ↔ p ∈ vs.flatMap Visit.sources := by
  rw [hts.paths_eq, List.mem_eraseDups]

/-- The step of a visit. -/
theorem concat (hts : Collected ask vs ts) (hnew : Adds (v.asked ask) v.files ts new) :
    Collected ask (vs ++ [v]) (ts ++ new) := by
  refine ⟨?_, fun t ht => ?_⟩
  · rw [hnew.paths_eq _ hts.paths_eq, List.flatMap_append, List.flatMap_singleton]
    rfl
  · rcases List.mem_append.mp ht with ht | ht
    · obtain ⟨us, u, ws, rfl, hfirst⟩ := hts.first t ht
      exact ⟨us, u, ws ++ [v], by rw [List.append_assoc, List.cons_append], hfirst⟩
    · refine ⟨vs, v, [], rfl, ?_, hnew.mem t ht, hnew.flavor_eq t ht⟩
      exact fun hold => hnew.fresh t ht (hts.mem_paths_iff.mpr hold)

/-- What the first visits lead to comes before everything else. -/
theorem split (hts : Collected ask (us ++ ws) ts) : ∃ front back, ts = front ++ back ∧
    (∀ p, p ∈ front.map path ↔ p ∈ us.flatMap Visit.sources) ∧
    ∀ t ∈ back, t.path ∉ us.flatMap Visit.sources := by
  have hpaths := hts.paths_eq
  rw [List.flatMap_append, List.eraseDups_append] at hpaths
  obtain ⟨front, back, rfl, hfront, hback⟩ := List.map_eq_append_iff.mp hpaths
  refine ⟨front, back, rfl, fun p => by rw [hfront, List.mem_eraseDups], fun t ht => ?_⟩
  have hmem : t.path ∈ back.map path := List.mem_map_of_mem ht
  rw [hback, List.mem_eraseDups] at hmem
  obtain ⟨-, hnot⟩ := List.mem_filter.mp hmem
  simpa using hnot

end Collected

theorem resolve_concat (gs : List Text) (given : Text) :
    resolve ask (gs ++ [given]) = resolve ask gs >>= fun ts => addGiven ask ts given := by
  unfold resolve
  simp only [List.foldlM_append, List.foldlM_cons, List.foldlM_nil, bind_pure]

/-- The run of visits. -/
theorem resolve_eq_ok {gs : List Text} (hrun : resolve ask gs r h = ((.ok ts, r'), h')) :
    ∃ vs, Visits r h gs vs r' h' ∧ Collected ask vs ts := by
  induction gs using List.reverseRecOn generalizing ts r' h' with
  | nil =>
      cases hrun
      exact ⟨[], .start r h, rfl, fun t ht => (List.not_mem_nil ht).elim⟩
  | append_singleton gs given ih =>
      rw [resolve_concat] at hrun
      obtain ⟨ts₁, r₁, h₁, hbefore, hgiven⟩ := ActOn.bind_eq_ok hrun
      obtain ⟨vs, hvisits, hts⟩ := ih hbefore
      obtain ⟨v, h₂, hlocate, hmains, hsame, new, rfl, hnew⟩ := addGiven_eq_ok hgiven
      exact ⟨vs ++ [v], hvisits.next hlocate hmains hsame, hts.concat hnew⟩

theorem prefix_of_addGivens {gs : List Text}
    (hrun : gs.foldlM (addGiven ask) ts r h = ((.ok ts', r'), h')) : ts <+: ts' := by
  induction gs generalizing ts r h with
  | nil =>
      cases hrun
      exact List.prefix_rfl
  | cons given gs ih =>
      rw [List.foldlM_cons] at hrun
      obtain ⟨ts₁, r₁, h₁, hgiven, hrest⟩ := ActOn.bind_eq_ok hrun
      obtain ⟨-, -, -, -, -, new, rfl, -⟩ := addGiven_eq_ok hgiven
      exact (List.prefix_append ts new).trans (ih hrest)

theorem Visits.origin {gs : List Text} {vs : List Visit} (hvisits : Visits r h gs vs r' h')
    {v : Visit} (hv : v ∈ vs) (hp : p ∈ v.sources) :
    p = v.path ∧ v.mains = [] ∨ Flavor.isHeader v.path.suffix = true ∧ p ∈ v.mains := by
  have hfile : p ∈ v.files := List.mem_of_mem_filter hp
  unfold Visit.files at hfile
  induction hvisits with
  | start => exact (List.not_mem_nil hv).elim
  | next _ _ hmains _ ih =>
      rcases List.mem_append.mp hv with hv | hv
      · exact ih hv
      · obtain rfl := List.mem_singleton.mp hv
        split at hfile
        · next hnone => exact Or.inl ⟨List.mem_singleton.mp hfile, List.isEmpty_iff.mp hnone⟩
        · next hsome =>
            refine Or.inr ⟨isHeader_of_mainsOf hmains fun hnone => hsome ?_, hfile⟩
            rw [hnone]
            rfl

/-- **What the targets of given paths are.**  No file is a target twice, each is known from the root
on, and a main file has the flavor of its suffix.  A target is a given path itself or, for a header,
one of the main files that were found for it.  What the first paths lead to comes before what only
later ones lead to, and the targets of the first paths alone are a beginning of all. -/
theorem resolve_collects {gs : List Text} (hrun : resolve ask gs r h = ((.ok ts, r'), h')) :
    (ts.map path).Nodup ∧
    (∀ t ∈ ts, t.path.isAbsolute = true ∧
      ∀ f, Flavor.ofSuffix? t.path.suffix = some f → t.flavor = f) ∧
    (∃ vs, Visits r h gs vs r' h' ∧
      List.Forall₂ (fun given v => (locate given h).1 = .ok v.path) gs vs ∧
      ts.map path = (vs.flatMap Visit.sources).eraseDups ∧
      (∀ t ∈ ts, ∃ v ∈ vs, flavorOf (v.asked ask) t.path = .ok (some t.flavor) ∧
        (t.path = v.path ∧ v.mains = [] ∨
          Flavor.isHeader v.path.suffix = true ∧ t.path ∈ v.mains)) ∧
      ∀ us ws, vs = us ++ ws → ∃ front back, ts = front ++ back ∧
        (∀ p, p ∈ front.map path ↔ p ∈ us.flatMap Visit.sources) ∧
        ∀ t ∈ back, t.path ∉ us.flatMap Visit.sources) ∧
    ∀ xs ys, gs = xs ++ ys →
      ∃ ts₁ r₁ h₁, resolve ask xs r h = ((.ok ts₁, r₁), h₁) ∧ ts₁ <+: ts := by
  obtain ⟨vs, hvisits, hts⟩ := resolve_eq_ok hrun
  refine ⟨?_, fun t ht => ⟨t.isAbsolute, fun f hsuffix => ?_⟩,
    ⟨vs, hvisits, hvisits.located, hts.paths_eq, fun t ht => ?_, ?_⟩, ?_⟩
  · rw [hts.paths_eq]
    exact nodup_eraseDups _
  · obtain ⟨-, v, -, -, -, -, hflavor⟩ := hts.first t ht
    rw [flavorOf_of_ofSuffix? hsuffix] at hflavor
    exact (Option.some.inj (Except.ok.inj hflavor)).symm
  · obtain ⟨us, v, ws, hvs, -, hsource, hflavor⟩ := hts.first t ht
    have hv : v ∈ vs := by
      rw [hvs]
      exact List.mem_append_right us List.mem_cons_self
    exact ⟨v, hv, hflavor, hvisits.origin hv hsource⟩
  · rintro us ws rfl
    exact hts.split
  · rintro xs ys rfl
    unfold resolve at hrun
    rw [List.foldlM_append] at hrun
    obtain ⟨ts₁, r₁, h₁, hfirst, hrest⟩ := ActOn.bind_eq_ok hrun
    exact ⟨ts₁, r₁, h₁, hfirst, prefix_of_addGivens hrest⟩

/-- A workspace with two main files and a header. -/
def smallWorkspace : Host :=
  { disk := ⟨[(["w".toList], .folder), (["w".toList, "Bot.mq5".toList], .file []),
      (["w".toList, "Old.MQ4".toList], .file []), (["w".toList, "Lib.mqh".toList], .file [])]⟩ }

/-- Both main files are saved for the header. -/
def savedMains : HeaderResolver :=
  { folder := .ofText "/w", saved := [("lib.mqh", ["Bot.mq5", "Old.MQ4"])],
    workspace := { folder := .ofText "/w" } }

/-- A main file is given, and then a header that is compiled through it and another one, which has
the flavor of its suffix although somebody says something else. -/
theorem resolve_collects_of_savedMains : ∃ ts r' h',
    resolve (fun _ => .ok (some .mql5)) ["/w/Bot.mq5", "/w/Lib.mqh"] (some savedMains)
      smallWorkspace = ((.ok ts, r'), h') ∧
    ts.map (fun t => (t.path.text, t.flavor)) =
      [("/w/Bot.mq5".toList, .mql5), ("/w/Old.MQ4".toList, .mql4)] ∧ (ts.map path).Nodup := by
  have htargets : (resolve (fun _ => .ok (some .mql5)) ["/w/Bot.mq5", "/w/Lib.mqh"]
      (some savedMains) smallWorkspace).1.1.toOption.map (List.map fun t => (t.path.text, t.flavor)) =
      some [("/w/Bot.mq5".toList, .mql5), ("/w/Old.MQ4".toList, .mql4)] := by
    decide +kernel
  obtain ⟨ts, r', h', hrun, hts⟩ := ActOn.eq_ok_of_toOption htargets
  exact ⟨ts, r', h', hrun, hts, (resolve_collects hrun).1⟩

end Target

end MetaDesk
