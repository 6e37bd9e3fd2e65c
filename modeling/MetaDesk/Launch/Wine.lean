import MetaDesk.Launch.Running
import MetaDesk.Path.FileUri
import MetaDesk.Settings.Basic
import MetaDesk.Text.Blank

/-! # Wine

Away from its own platform the compiler runs under Wine, which has a binary, a bottle with its
files, and names of its own for the paths of the host. -/

namespace MetaDesk.Launch

/-- How Wine is run. -/
structure Wine where
  binary : Text := "wine64"
  bottle : Text := []
  /-- The longest run in milliseconds. -/
  timeout : Int := 60000
  /-- The bottle in the environment of its processes, if they get an environment of their own. -/
  environment : Option (Option Text) := none
deriving DecidableEq, Repr

namespace Wine

/-- The environment with a bottle, if there is one. -/
def environmentOf (bottle : Text) : Option (Option Text) :=
  some (if bottle.isEmpty then none else some bottle)

/-- Wine as it is set. -/
def ofSettings (s : WineSettings) : Wine :=
  ⟨s.binary, s.bottle, s.timeout, environmentOf s.bottle⟩

/-- The longest run in seconds. -/
def timeoutSeconds (w : Wine) : Binary64 := .ofRatio (w.timeout < 0) w.timeout.natAbs 1000

/-- The longest run is too long to be told in seconds. -/
def isEndless (w : Wine) : Bool :=
  match w.timeoutSeconds with
  | .infinite _ => true
  | _ => false

/-- The platform where the compiler needs no Wine. -/
def nativePlatform : Text := "win32"

/-- The platform of the host. -/
def hostPlatform : Text := "linux"

/-- The given platform, or that of the host. -/
def platformOr (platform : Option Text) : Text :=
  match platform with
  | none => hostPlatform
  | some [] => hostPlatform
  | some t => t

/-- Wine is used where it is enabled and needed. -/
def isActive (enabled : Bool) (platform : Option Text) : Bool :=
  platformOr platform != nativePlatform && enabled

/-! ## Paths -/

/-- Why a path cannot be translated. -/
def untranslatable? (path : Text) : Option Text :=
  if path.isEmpty then some "Path is empty"
  else if path.isDrivePath then some ("Path is already in Windows format: " ++ path)
  else if path.head? != some '/' then some ("Path is not absolute: " ++ path)
  else none

/-- Why a path cannot be that of the compiler. -/
def unusable? (path : Text) : Option Text :=
  if path.isEmpty then some "Path is empty or invalid"
  else if path.isDrivePath then
    some ("Wine mode requires Unix-style paths. Got \"" ++ path ++ "\". "
      ++ "Use something like \"/Users/you/.wine/drive_c/...\" instead of \"C:\\...\"")
  else none

/-- A translated path, or why there is none. -/
abbrev Translation := Except Text Text

/-- What a process said, or its exit code. -/
def complaint (c : Collected) : Text :=
  match Text.trim (textOf c.stderr) with
  | [] => "exit code " ++ Text.ofInt c.code
  | said => said

/-- Ask Wine for its name of a path. -/
def translate (w : Wine) (path : Text) : Act Translation := do
  let failed (detail : Text) : Act Translation := do
    let message : Text :=
      "[Wine] Failed to convert path \"" ++ path ++ "\" with winepath: " ++ detail
    Act.complain .translating message
    return .error message
  match untranslatable? path with
  | some why => return .error why
  | none =>
    match ← start (.program w.binary ["winepath", "-w", path]) w.environment with
    | .error e => failed e.message
    | .ok r =>
      match ← collectInTime r with
      | none =>
        signal r .kill
        failed "timed out after 10s"
      | some c =>
        let found := Text.trim (textOf c.stdout)
        if c.code != 0 || found.isEmpty then failed (complaint c) else return .ok found

/-! ## Setup -/

/-- What a look at the setup of Wine found. -/
structure Setup where
  errors : List Text
  warnings : List Text
  version : Option Text
deriving DecidableEq, Repr

/-- Nothing is wrong. -/
def Setup.isValid (s : Setup) : Bool := s.errors.isEmpty

/-- The version of Wine, or why it does not tell. -/
def version (binary bottle : Text) : Act (Except Text Text) := do
  match ← start (.program binary ["--version"]) (environmentOf bottle) with
  | .error e =>
    if e.cause = .notFound then
      return .error ("Wine binary not found at \"" ++ binary ++ "\". "
        ++ "Please install Wine or update the shim.binary setting.")
    else return .error ("Wine check failed: " ++ e.message)
  | .ok r =>
    match ← collectInTime r with
    | none =>
      signal r .kill
      return .error "Wine check failed: timed out"
    | some c =>
      if c.code != 0 then return .error ("Wine check failed: " ++ complaint c)
      else return .ok (Text.trim (textOf c.stdout))

/-- What is wrong with the bottle: errors and warnings. -/
def checkBottle (bottle : Text) : Act (List Text × List Text) := do
  if bottle.isEmpty then return ([], [])
  let p := Path.ofText bottle
  if !(← Act.pathExists p) then return (["Wine prefix not found: \"" ++ p.text ++ "\""], [])
  if !(← Act.pathExists (p.child "system.reg")) then
    return ([], ["Wine prefix may not be initialized: \"" ++ p.text
      ++ "\" (system.reg not found)"])
  return ([], [])

/-- What is wrong with the path of the compiler. -/
def checkCompiler (path : Text) : Act (List Text) := do
  if path.isEmpty then return []
  let missing := !(← Act.pathExists (.ofText path))
  return (unusable? path).toList
    ++ (if missing then ["MetaEditor not found at: \"" ++ path ++ "\""] else [])

/-- Look at the setup: Wine itself, its bottle, and the compiler. -/
def checkSetup (s : WineSettings) (compiler : Text) : Act Setup := do
  let version ← version s.binary s.bottle
  let (errors, version) : List Text × Option Text := match version with
    | .ok v => ([], some v)
    | .error e => ([e], none)
  let bottle ← checkBottle s.bottle
  let compiler ← checkCompiler compiler
  return ⟨errors ++ bottle.1 ++ compiler, bottle.2, version⟩

end Wine

end MetaDesk.Launch
