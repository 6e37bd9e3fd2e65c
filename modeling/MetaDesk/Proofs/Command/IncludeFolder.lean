import MetaDesk.Proofs.Command.ExitCode
import MetaDesk.Proofs.Path.Reading
import MetaDesk.Proofs.Settings.Placing

/-! # Where the index and the compiler look for includes

A compile reads the setting of an include folder twice: for the index through which headers are
compiled, and for the environment in which the compiler runs.  The index takes the folder of the
older flavor for a main file whose path speaks of that flavor, and otherwise the folder of the file's
own flavor (`indexFlavor`).  For that flavor both see the same folder (`index_sees_includes`): in a
workspace that is given the two texts are one, and without one the index knows the folder by its
path from the root, where the compiler is given what the setting says. -/

namespace MetaDesk

variable {homes : Homes} {raw t t' : Text} {here : Place}

/-! ### Folders as they are seen from a place -/

/-- A folder that processes can be in: its names are those of a path that was read, and none of them
goes up. -/
structure IsPlace (here : Place) : Prop where
  isRead : (Disk.pathOf here).IsRead
  noUp : Path.up ∉ here

/-- The path from the root that a text means to a process in a folder. -/
def fromRoot (here : Place) (t : Text) : Path := (Disk.pathOf here).join (.ofText t)

/-- The folder that a text names; an empty text names none. -/
def namedFolder? (t : Text) : Option Text := if t.isEmpty then none else some t

theorem isAbsolute_fromRoot (here : Place) (t : Text) : (fromRoot here t).isAbsolute = true :=
  Path.isAbsolute_join rfl

theorem namedFolder?_of_ne_nil (ht : t ≠ []) : namedFolder? t = some t := by
  cases t with
  | nil => exact (ht rfl).elim
  | cons c t => rfl

theorem ofText_text_pathOf (hhere : IsPlace here) :
    Path.ofText (Disk.pathOf here).text = Disk.pathOf here := Path.ofText_text hhere.isRead

theorem collapse_fromRoot (hhere : IsPlace here) (hup : Path.up ∉ (Path.ofText t).names) :
    (fromRoot here t).collapse = fromRoot here t := by
  refine Path.collapse_of_not_mem ?_
  unfold fromRoot Path.join
  split
  · exact hup
  · rw [List.mem_append, not_or]
    exact ⟨hhere.noUp, hup⟩

/-- Two texts name the same folder for a process in a folder, once double dots are taken away: both
name none, or both mean the same path from the root.  Where the second has no double dots, there is
nothing to take away. -/
structure SameFolder (here : Place) (folder? folder?' : Option Text) : Prop where
  collapsed_eq : folder?.map (fun t => (fromRoot here t).collapse) =
    folder?'.map fun t => (fromRoot here t).collapse
  eq_of_noUp : (∀ t ∈ folder?', Path.up ∉ (Path.ofText t).names) →
    folder?.map (fromRoot here) = folder?'.map (fromRoot here)

theorem SameFolder.refl (here : Place) (folder? : Option Text) : SameFolder here folder? folder? :=
  ⟨rfl, fun _ => rfl⟩

/-! ### Settings without a workspace -/

theorem Settings.placed_sameFolder (hhere : IsPlace here) (ht : t ≠ []) :
    SameFolder here (namedFolder? (placed (Disk.pathOf here).text t))
      (namedFolder? (placed [] t)) := by
  have hfolder : (Disk.pathOf here).text.isEmpty = false := by
    simpa using Path.text_ne_nil (Disk.pathOf here)
  unfold placed
  split
  · exact .refl _ _
  · split
    · exact .refl _ _
    · rw [hfolder, if_neg Bool.false_ne_true, if_pos List.isEmpty_nil, ofText_text_pathOf hhere,
        namedFolder?_of_ne_nil (Path.text_ne_nil _), namedFolder?_of_ne_nil ht]
      have hread : (fromRoot here t).collapse.IsRead :=
        (hhere.isRead.join (Path.isRead_ofText t)).collapse
      have hindex : fromRoot here (fromRoot here t).collapse.text = (fromRoot here t).collapse := by
        unfold fromRoot at hread ⊢
        rw [Path.ofText_text hread]
        exact Path.join_of_isAbsolute (isAbsolute_fromRoot here t)
      constructor
      · rw [Option.map_some, Option.map_some, ← fromRoot, hindex,
          Path.collapse_collapse (isAbsolute_fromRoot here t)]
      · intro hup
        rw [Option.map_some, Option.map_some, ← fromRoot, hindex,
          collapse_fromRoot hhere (hup t rfl)]

/-- A setting that does not speak of the workspace names the same folder without a workspace as in
the folder that the process is in. -/
theorem Settings.placeOf_sameFolder (hhere : IsPlace here)
    (hmark : Text.holds workspaceMark raw = false)
    (hindex : placeOf homes (Disk.pathOf here).text raw = .ok t)
    (hcompiler : placeOf homes [] raw = .ok t') :
    SameFolder here (namedFolder? t) (namedFolder? t') := by
  rw [placeOf_eq, Text.replaceAll_of_not_holds hmark] at hindex hcompiler
  by_cases hraw : raw = []
  · subst hraw
    cases hindex
    cases hcompiler
    exact .refl _ _
  · rw [if_neg (by simpa using hraw)] at hindex hcompiler
    cases hexpand : homes.expand raw with
    | error r =>
        rw [hexpand] at hindex
        cases hindex
    | ok expanded =>
        rw [hexpand] at hindex hcompiler
        cases hindex
        cases hcompiler
        exact placed_sameFolder hhere (Homes.expand_ne_nil hraw hexpand)

/-! ### The index and the environment -/

/-- The flavor whose include folder the index takes for a main file of a flavor: the older one, if
the path speaks of it. -/
def indexFlavor (f : Flavor) (m : Path) : Flavor :=
  if Text.holds (Flavor.name .mql4) (Text.lower m.text) then .mql4 else f

theorem indexFlavor_eq_self {f : Flavor} {m : Path}
    (h : f = .mql4 ∨ Text.holds (Flavor.name .mql4) (Text.lower m.text) = false) :
    indexFlavor f m = f := by
  unfold indexFlavor
  rcases h with rfl | h
  · split <;> rfl
  · rw [h, if_neg Bool.false_ne_true]

/-- How the index chooses among the folders of the two flavors. -/
theorem Workspace.includesFor_eq {w : Workspace} {m : Path} {f : Flavor}
    (hm : Flavor.ofSuffix? m.suffix = some f) :
    w.includesFor m = match indexFlavor f m with
      | .mql4 => w.includes4
      | .mql5 => w.includes5 := by
  unfold includesFor Path.isOlder indexFlavor
  rw [hm]
  cases f <;> cases Text.holds (Flavor.name .mql4) (Text.lower m.text) <;> rfl

namespace Command

open Compile

variable {i : Invocation} {s : Settings} {r : HeaderResolver} {h h' : Host} {m : Path} {f : Flavor}

theorem includes_of_ofSettings {homes : Homes} {workspace : Text} {platform : Option Text}
    {e : Environment} (hrun : Environment.ofSettings homes workspace platform s f = .ok e) :
    ∃ folder, Settings.placeOf homes workspace (s.compilers.includeFolder f) = .ok folder ∧
      e.includes = namedFolder? folder := by
  unfold Environment.ofSettings at hrun
  cases hcompiler : Settings.placeOf homes workspace (s.compilers.executable f) with
  | error refusal =>
      rw [hcompiler] at hrun
      cases hrun
  | ok compiler =>
      cases hincludes : Settings.placeOf homes workspace (s.compilers.includeFolder f) with
      | error refusal =>
          rw [hcompiler, hincludes] at hrun
          cases hrun
      | ok folder =>
          rw [hcompiler, hincludes] at hrun
          cases hrun
          exact ⟨folder, rfl, rfl⟩

/-- What a compile knows about headers at first. -/
def resolverOf (i : Invocation) (s : Settings) : Act HeaderResolver := do
  HeaderResolver.ofSettings s (← folderOf i.workspace)

theorem targetsOf_apply (hresolver : resolverOf i s h = (.ok r, h')) (request : CompileRequest) :
    targetsOf i request s h =
      let run := Target.resolve (fun _ => .ok request.headerFlavor) request.paths (some r) h'
      (run.1.1, run.2) := by
  unfold targetsOf
  rw [← bind_assoc]
  exact (Act.bind_of_ok hresolver).trans rfl

theorem folderOf_apply (workspace : Text) (h : Host) : folderOf workspace h =
    (.ok (if workspace.isEmpty then (Disk.pathOf h.here).text else workspace), h) := by
  unfold folderOf
  split <;> rfl

theorem resolverOf_eq_ok (hrun : resolverOf i s h = (.ok r, h')) (g : Flavor) :
    Settings.placeOf h.homes
        (if i.workspace.isEmpty then (Disk.pathOf h.here).text else i.workspace)
        (s.compilers.includeFolder g) =
      .ok (match g with
        | .mql4 => r.workspace.includes4
        | .mql5 => r.workspace.includes5) := by
  unfold resolverOf HeaderResolver.ofSettings at hrun
  rw [Act.bind_of_ok (folderOf_apply _ h), Act.bind_of_ok (Act.get_apply h)] at hrun
  obtain ⟨includes4, _, hincludes4, hrun⟩ := Act.bind_eq_ok hrun
  obtain ⟨includes5, _, hincludes5, hrun⟩ := Act.bind_eq_ok hrun
  obtain ⟨place, _, -, hrun⟩ := Act.bind_eq_ok hrun
  cases hrun
  cases g with
  | mql4 => exact (Act.orRefuse_eq_ok hincludes4).1
  | mql5 => exact (Act.orRefuse_eq_ok hincludes5).1

/-- **The index and the compiler look for includes in the same folder.**  For a main file the index
takes the folder of a flavor, its own unless its path speaks of the older one.  In a workspace that
is given the environment of that flavor names that folder in the same words; without a workspace a
setting that does not speak of the workspace names the same folder for both, or none for both. -/
theorem index_sees_includes (hresolver : resolverOf i s h = (.ok r, h')) :
    (∀ request, targetsOf i request s h =
      let run := Target.resolve (fun _ => .ok request.headerFlavor) request.paths (some r) h'
      (run.1.1, run.2)) ∧
    ∀ {m : Path} {f : Flavor}, Flavor.ofSuffix? m.suffix = some f →
      (f = .mql4 ∨ Text.holds (Flavor.name .mql4) (Text.lower m.text) = false →
        indexFlavor f m = f) ∧
      ∀ {platform : Option Text} {e : Environment},
        Environment.ofSettings h.homes i.workspace platform s (indexFlavor f m) = .ok e →
        (i.workspace ≠ [] → namedFolder? (r.workspace.includesFor m) = e.includes) ∧
        (i.workspace = [] → IsPlace h.here →
          Text.holds Settings.workspaceMark (s.compilers.includeFolder (indexFlavor f m)) = false →
          SameFolder h.here (namedFolder? (r.workspace.includesFor m)) e.includes) := by
  refine ⟨targetsOf_apply hresolver, fun {m f} hm => ⟨indexFlavor_eq_self, fun {platform e} hrun => ?_⟩⟩
  obtain ⟨folder, hfolder, hincludes⟩ := includes_of_ofSettings hrun
  have hindex := resolverOf_eq_ok hresolver (indexFlavor f m)
  rw [← Workspace.includesFor_eq hm] at hindex
  rw [hincludes]
  refine ⟨fun hworkspace => ?_, fun hnone hhere hmark => ?_⟩
  · rw [if_neg (by simpa using hworkspace), hfolder] at hindex
    rw [Except.ok.inj hindex]
  · rw [hnone, if_pos List.isEmpty_nil] at hindex
    rw [hnone] at hfolder
    exact Settings.placeOf_sameFolder hhere hmark hindex hfolder

/-- A host where a process is in a folder. -/
def inFolder : Host := { here := ["w".toList] }

theorem isPlace_inFolder : IsPlace inFolder.here := by
  constructor
  · unfold Path.IsRead
    decide
  · decide

/-- Settings with a relative include folder. -/
def relativeIncludes : Settings := { compilers := { include5 := "inc" } }

/-- Without a workspace the index knows a relative folder by its path from the root. -/
theorem index_sees_includes_of_relative : ∃ (r : HeaderResolver) (e : Environment),
    resolverOf {} relativeIncludes inFolder = (.ok r, inFolder) ∧
    Environment.ofSettings inFolder.homes [] none relativeIncludes .mql5 = .ok e ∧
    r.workspace.includesFor (.ofText "/w/Bot.mq5") = "/w/inc".toList ∧
    e.includes = some "inc".toList ∧
    (namedFolder? (r.workspace.includesFor (.ofText "/w/Bot.mq5"))).map (fromRoot inFolder.here) =
      e.includes.map (fromRoot inFolder.here) := by
  let r : HeaderResolver := { folder := .ofText "/w", saved := [], workspace :=
    { folder := .ofText "/w", includes5 := "/w/inc" } }
  have hresolver : resolverOf {} relativeIncludes inFolder = (.ok r, inFolder) := rfl
  obtain ⟨e, hrun, hincludes⟩ : ∃ e, Environment.ofSettings inFolder.homes [] none
      relativeIncludes (indexFlavor .mql5 (.ofText "/w/Bot.mq5")) = .ok e ∧
      e.includes = some "inc".toList := ⟨_, rfl, rfl⟩
  obtain ⟨-, hmains⟩ := index_sees_includes hresolver
  obtain ⟨hflavor, hagree⟩ := hmains (m := .ofText "/w/Bot.mq5") (f := .mql5) (by decide +kernel)
  have hown : indexFlavor .mql5 (.ofText "/w/Bot.mq5") = .mql5 :=
    hflavor (Or.inr (by decide +kernel))
  have hsame := (hagree hrun).2 rfl isPlace_inFolder (by decide +kernel)
  refine ⟨r, e, hresolver, hown ▸ hrun, by decide +kernel, hincludes, hsame.eq_of_noUp ?_⟩
  rw [hincludes]
  rintro _ ⟨⟩
  decide

/-- Settings with a folder for each flavor. -/
def twoIncludes : Settings := { compilers := { include4 := "/inc4", include5 := "/inc5" } }

/-- Settings whose include folder goes up behind a link. -/
def includesBehindLink : Settings := { compilers := { include5 := "l/../inc" } }

/-- A disk where that link leads away from the folder that it is in. -/
def linkedAway : Host :=
  { disk := ⟨[(["l".toList], .link "/a/b"), (["a".toList], .folder),
      (["a".toList, "b".toList], .folder), (["inc".toList], .folder)]⟩ }

/-- A main file of the newer flavor in a folder whose name speaks of the older one: the index looks
in one folder and the compiler in the other.  And without a workspace a setting that goes up behind
a link names a folder for the index and nothing for the compiler. -/
theorem includes_differ :
    (∃ (r : HeaderResolver) (e : Environment),
      resolverOf { workspace := "/mql4" } twoIncludes {} = (.ok r, {}) ∧
      Flavor.ofSuffix? (Path.suffix (.ofText "/mql4/Bot.mq5")) = some .mql5 ∧
      Environment.ofSettings ({} : Host).homes "/mql4" none twoIncludes .mql5 = .ok e ∧
      r.workspace.includesFor (.ofText "/mql4/Bot.mq5") = "/inc4".toList ∧
      e.includes = some "/inc5".toList) ∧
    ∃ (r : HeaderResolver) (e : Environment),
      resolverOf {} includesBehindLink linkedAway = (.ok r, linkedAway) ∧
      Environment.ofSettings linkedAway.homes [] none includesBehindLink .mql5 = .ok e ∧
      r.workspace.includesFor (.ofText "/Bot.mq5") = "/inc".toList ∧
      Act.isFolder (.ofText "/inc") linkedAway = (.ok true, linkedAway) ∧
      e.includes = some "l/../inc".toList ∧
      Act.isFolder (.ofText "l/../inc") linkedAway = (.ok false, linkedAway) := by
  exact ⟨⟨_, _, rfl, by decide +kernel, rfl, by decide +kernel, rfl⟩,
    ⟨_, _, rfl, rfl, by decide +kernel, rfl, rfl, rfl⟩⟩

end Command

end MetaDesk
