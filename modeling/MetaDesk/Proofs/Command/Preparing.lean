import MetaDesk.Command.Run
import MetaDesk.Proofs.Host.Journal

/-! # What happens before a compile

Loading settings and finding the targets only look at the host and write to the journal.  So they
keep every property that does not speak of the journal, above all that nothing was started. -/

namespace MetaDesk

variable {P : Host → Prop}

/-! ### Settings -/

theorem Settings.loadFile_keeps (p : Path) : Act.Keeps P (Settings.loadFile p) := by
  unfold Settings.loadFile
  refine (Act.Keeps.pathExists p).bind fun isThere => ?_
  extract_lets read
  have hread : ∀ u, Act.Keeps P (read u) := by
    intro _
    refine (Act.Keeps.ask p _).bind fun bytes => ?_
    split
    · exact Act.Keeps.throw _
    · split
      · exact Act.Keeps.pure _
      · exact Act.Keeps.throw _
  split
  · exact (Act.Keeps.throw _).bind hread
  · exact hread ()

theorem Settings.load_keeps (file : Option Text) : Act.Keeps P (Settings.load file) := by
  unfold Settings.load
  split
  · exact Settings.loadFile_keeps _
  · refine Act.Keeps.get.bind fun h => ?_
    split
    · exact Act.Keeps.pure _
    · split
      · exact Act.Keeps.pure _
      · exact Settings.loadFile_keeps _

theorem Command.folderOf_keeps (workspace : Text) : Act.Keeps P (Command.folderOf workspace) := by
  unfold Command.folderOf
  split
  · exact Act.Keeps.get.bind fun _ => Act.Keeps.pure _
  · exact Act.Keeps.pure _

/-! ### Headers -/

theorem HeaderResolver.ofSettings_keeps (s : Settings) (folder : Text) :
    Act.Keeps P (HeaderResolver.ofSettings s folder) := by
  unfold HeaderResolver.ofSettings
  refine Act.Keeps.get.bind fun h => ?_
  exact (Act.Keeps.orRefuse _).bind fun _ => (Act.Keeps.orRefuse _).bind fun _ =>
    (Act.Keeps.resolve _).bind fun _ => Act.Keeps.pure _

theorem IncludeIndex.keysIn_keeps (w : Workspace) (root source : Path) (text : Text) :
    Act.Keeps P (IncludeIndex.keysIn w root source text) := by
  unfold IncludeIndex.keysIn Include.files
  refine (Act.Keeps.mapM (fun name => ?_) _).bind fun _ => Act.Keeps.pure _
  exact (Act.Keeps.filterM Act.Keeps.isFile _).bind fun _ => Act.Keeps.pure _

theorem IncludeIndex.addSource_keeps (hP : IgnoresJournal P) (w : Workspace) (root : Path)
    (i : IncludeIndex) (source : Path) : Act.Keeps P (IncludeIndex.addSource w root i source) := by
  unfold IncludeIndex.addSource
  refine (Act.Keeps.ask source _).trySystem.bind fun result => ?_
  cases result with
  | error e => exact (Act.Keeps.warn hP _ _).bind fun _ => Act.Keeps.pure _
  | ok bytes => exact (IncludeIndex.keysIn_keeps w root source _).bind fun _ => Act.Keeps.pure _

theorem Include.noteTruncated_keeps (hP : IgnoresJournal P) (root : Path) (most : Int)
    (truncated : Bool) : Act.Keeps P (Include.noteTruncated root most truncated) := by
  unfold Include.noteTruncated
  split
  · exact Act.Keeps.warn hP _ _
  · exact Act.Keeps.pure _

theorem IncludeIndex.build_keeps (hP : IgnoresJournal P) (w : Workspace) :
    Act.Keeps P (IncludeIndex.build w) := by
  have hsources : ∀ root, Act.Keeps P (Include.sources root w.most) := by
    intro root
    unfold Include.sources
    exact Act.Keeps.get.bind fun _ => Act.Keeps.pure _
  unfold IncludeIndex.build
  refine (Act.Keeps.resolve _).bind fun root => (hsources root).bind fun found => ?_
  exact (Act.Keeps.foldlM (IncludeIndex.addSource_keeps hP w root) _ _).bind fun _ =>
    (Include.noteTruncated_keeps hP root _ _).bind fun _ => Act.Keeps.pure _

theorem HeaderResolver.savedFor_keeps (r : HeaderResolver) (header : Path) :
    Act.Keeps P (r.savedFor header) := by
  unfold HeaderResolver.savedFor
  refine Act.Keeps.get.bind fun h => ?_
  exact (Act.Keeps.mapM (fun _ => Act.Keeps.resolve _) _).bind fun _ =>
    Act.Keeps.filterM Act.Keeps.isFile _

theorem HeaderResolver.needIndex_keeps (hP : IgnoresJournal P) (r : HeaderResolver) :
    Act.Keeps P r.needIndex := by
  unfold HeaderResolver.needIndex
  split
  · exact Act.Keeps.pure _
  · exact (IncludeIndex.build_keeps hP _).bind fun _ => Act.Keeps.pure _

theorem HeaderResolver.mainsFor_keeps (hP : IgnoresJournal P) (r : HeaderResolver) (header : Path) :
    Act.Keeps P (r.mainsFor header) := by
  unfold HeaderResolver.mainsFor
  refine (r.savedFor_keeps header).bind fun saved => ?_
  split
  · exact Act.Keeps.pure _
  · exact (r.needIndex_keeps hP).bind fun _ => Act.Keeps.pure _

/-! ### Targets -/

namespace Target

theorem orEnd_keeps {α : Type} {Q : Option HeaderResolver → Host → Prop}
    (result : Except Mishap α) : ActOn.Keeps Q (orEnd result) := by
  cases result with
  | error m => exact ActOn.Keeps.throw m
  | ok a => exact ActOn.Keeps.pure a

theorem add_keeps {Q : Option HeaderResolver → Host → Prop} (targets : List Target) (path : Path)
    (flavor : Flavor) : ActOn.Keeps Q (add targets path flavor) := by
  unfold add
  split
  · exact ActOn.Keeps.pure _
  · split
    · exact ActOn.Keeps.pure _
    · exact ActOn.Keeps.throw _

theorem locate_keeps (given : Text) : Act.Keeps P (locate given) := by
  unfold locate
  refine Act.Keeps.get.bind fun h => ?_
  split
  · exact Act.Keeps.throw _
  · exact Act.Keeps.resolve _

theorem mainsOf_keeps (hP : IgnoresJournal P) (p : Path) :
    ActOn.Keeps (fun _ h => P h) (mainsOf p) := by
  unfold mainsOf
  refine ActOn.Keeps.getThe.bind fun r => ?_
  split
  · split
    · refine (ActOn.Keeps.lift fun _ => HeaderResolver.mainsFor_keeps hP _ p).bind fun found => ?_
      exact ActOn.Keeps.bind (ActOn.Keeps.modifyThe fun _ _ hh => hh) fun _ => ActOn.Keeps.pure _
    · exact ActOn.Keeps.pure _
  · exact ActOn.Keeps.pure _

theorem addMain_keeps {Q : Option HeaderResolver → Host → Prop} (targets : List Target)
    (main : Path) : ActOn.Keeps Q (addMain targets main) := by
  unfold addMain
  refine (orEnd_keeps _).bind fun flavor? => ?_
  split
  · exact add_keeps _ _ _
  · exact ActOn.Keeps.pure _

theorem addFile_keeps (hP : IgnoresJournal P) (ask : HeaderFlavor) (targets : List Target)
    (p : Path) : ActOn.Keeps (fun _ h => P h) (addFile ask targets p) := by
  unfold addFile
  refine (orEnd_keeps _).bind fun flavor? => ?_
  split
  · exact add_keeps _ _ _
  · exact (ActOn.Keeps.lift fun _ => Act.Keeps.warn hP _ _).bind fun _ => ActOn.Keeps.pure _

theorem addGiven_keeps (hP : IgnoresJournal P) (ask : HeaderFlavor) (targets : List Target)
    (given : Text) : ActOn.Keeps (fun _ h => P h) (addGiven ask targets given) := by
  unfold addGiven
  refine (ActOn.Keeps.lift fun _ => locate_keeps given).bind fun p => ?_
  refine (mainsOf_keeps hP p).bind fun mains => ?_
  split
  · exact addFile_keeps hP ask targets p
  · exact ActOn.Keeps.foldlM addMain_keeps _ _

theorem resolve_keeps (hP : IgnoresJournal P) (ask : HeaderFlavor) (given : List Text) :
    ActOn.Keeps (fun _ h => P h) (resolve ask given) :=
  ActOn.Keeps.foldlM (addGiven_keeps hP ask) given []

end Target

end MetaDesk
