import MetaDesk.Settings.Place
import MetaDesk.Tail.DataFolder
import MetaDesk.Tail.Library
import MetaDesk.Tail.Tailer

/-! # Starting a tailer

The settings tell which log is followed and where the data folder is.  For the live log the library
has to be there, or somebody decides what to do without it.  The live log is emptied when it is
followed; a journal is followed from its end. -/

namespace MetaDesk.Tail

/-- What to do without the library. -/
inductive DeployChoice where
  | install
  | useStandard
  | cancel
deriving DecidableEq, Repr

/-- The name of a choice. -/
def DeployChoice.name : DeployChoice → Text
  | .install => "install"
  | .useStandard => "use_standard"
  | .cancel => "cancel"

/-- All choices. -/
def DeployChoice.all : List DeployChoice := [.install, .useStandard, .cancel]

/-- What a tailer works with. -/
structure Setup where
  settings : Act Settings
  /-- The flavor that somebody works with. -/
  detect : Act (Option Flavor) := return none
  /-- The data folder of a flavor without an include folder in the settings. -/
  infer : Flavor → Act (Option Path) := fun _ => return none
  /-- Ask what to do without the library. -/
  ask : Path → Act DeployChoice := fun _ => return .useStandard
  workspace : Text := []
  library : Library := .bundled

/-- A failure of the configuration as a mishap. -/
def misconfigured (message : Text) (setting path action : Option Text) : Mishap :=
  .failed (.configuration message setting path action)

/-- The data folder. -/
def resolveBase (s : Setup) (settings : Settings) (f : Flavor) : Act Path := do
  let includes ← Act.orRefuse
    (Settings.placeOf (← get).homes s.workspace (settings.compilers.includeFolder f))
  if !includes.isEmpty then return baseOf (.ofText includes)
  match ← s.infer f with
  | some p => return baseOf p
  | none =>
    throw (misconfigured ("Include path for " ++ f.label
      ++ " is not set and could not be inferred. Please configure MQL Tools settings.")
      (some (CompilerSettings.settingName "include" f)) none (some Failure.configure))

/-- Follow the live log, in a folder that is made if need be. -/
def openLive (base : Path) : Act Session := do
  let files := base.child "Files"
  match ← Act.trySystem (Act.makeFolders files) with
  | .ok () => return { file := files.child liveLogName, mode := .live }
  | .error e =>
    throw (misconfigured ("Failed to create Files folder: " ++ e.message) none (some files.text)
      none)

/-- Follow the journal of the day. -/
def openJournal (base : Path) (f : Flavor) : Act Session := do
  let logs := base.child "Logs"
  if !(← Act.isFolder logs) then
    throw (misconfigured ("Logs folder not found at: " ++ logs.text
      ++ ". Make sure your include path points into the MQL4/MQL5 data folder.")
      (some (CompilerSettings.settingName "include" f)) (some logs.text) (some Failure.configure))
  Session.atEnd (logs.child (journalName (← get).today)) .standard

/-- Follow the log of a mode. -/
def openSession (base : Path) (mode : TailMode) (f : Flavor) : Act Session :=
  match mode with
  | .live => openLive base
  | .standard => openJournal base f

/-- The mode to go on with, once the library is there or is done without. -/
def withLibrary (s : Setup) (base : Path) : Tailing (Option TailMode) := do
  if ← (Act.pathExists (libraryIn base) : Act Bool) then return some .live
  match ← (s.ask (libraryIn base) : Act _) with
  | .install =>
    if !(← (s.library.deploy base : Act Bool)) then return none
    showLine ("[Info] " ++ libraryName ++ " installed. Add `#include <" ++ libraryName
      ++ ">` to your EA and use PrintLive() for real-time output.")
    return some .live
  | .useStandard =>
    change fun t => { t with chosen := some .standard }
    return some .standard
  | .cancel => return none

/-- How the log of a mode is called. -/
def titleOf : TailMode → Text
  | .live => "LiveLog (real-time)"
  | .standard => "Standard Journal"

/-- Tell what is followed. -/
def announce (session : Session) : Tailing Unit := do
  showLine ("--- Starting " ++ titleOf session.mode ++ " Tail ---")
  showLine ("[Info] Mode: " ++ Text.upper session.mode.name)
  showLine ("[Info] Tailing: " ++ session.file.text)
  if session.mode = .live then
    showLine "[Info] For real-time logs, use PrintLive() instead of Print() in your EA"
    showLine ("[Info] Add: #include <" ++ libraryName ++ ">")

/-- Empty the live log. -/
def clearLog (session : Session) : Tailing Unit := do
  match ← (Act.trySystem (Act.putBytes session.file []) : Act _) with
  | .ok () =>
    change fun t => { t with session := t.session.map Session.reset }
    showLine "[Info] Cleared previous log content"
  | .error e =>
    (Act.display fun o => o.warning ("Could not clear log file: " ++ e.message) : Act Unit)

/-- Begin to follow a log.  A live log is watched before it is emptied. -/
def follow (session : Session) : Tailing Unit := do
  let isThere : Tailing Bool := (Act.pathExists session.file : Act Bool)
  change fun t => { t with
    mode := some session.mode, session := some session, sessions := t.sessions + 1 }
  announce session
  change fun t => { t with isTailing := true }
  if session.mode = .live && (← isThere) then
    makeWatch
    beginWatch
    clearLog session
  if !(← isThere) then
    let message : Text :=
      "Log file " ++ session.file.name ++ " does not exist yet. Waiting for activity..."
    (Act.display fun o => o.warning message : Act Unit)
  makeWatch
  change fun t => { t with clock := .made }

/-- Report a failure of the configuration, if there is one, or go on. -/
def orReport {α : Type} (act : Act α) (next : α → Tailing Bool) : Tailing Bool := do
  match ← (Act.tryConfigured act : Act _) with
  | .error f =>
    (Act.report f [] : Act Unit)
    return false
  | .ok a => next a

/-- Start tailing; a mode that is asked for is kept for later. -/
def start (s : Setup) (asked : Option TailMode) : Tailing Bool := do
  if (← getThe Tailer).isTailing then stop
  let settings ← (s.settings : Act Settings)
  if asked.isSome then change fun t => { t with chosen := asked }
  let mode := (← getThe Tailer).chosen.getD settings.tail.mode
  change fun t => { t with interval := settings.tail.pollInterval }
  let flavor := (← (s.detect : Act _)).getD .mql5
  change fun t => { t with flavor := some flavor }
  orReport (resolveBase s settings flavor) fun base => do
    change fun t => { t with base := some base }
    match ← (if mode = .live then withLibrary s base else return some mode) with
    | none => return false
    | some mode =>
      orReport (openSession base mode flavor) fun session => do
        follow session
        return true

/-- Stop if tailing, and start otherwise. -/
def toggle (s : Setup) : Tailing Bool := do
  if (← getThe Tailer).isTailing then
    stop
    return false
  else start s none

end MetaDesk.Tail
