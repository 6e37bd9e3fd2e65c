import MetaDesk.Command.Arguments
import MetaDesk.Compile.Batch
import MetaDesk.Diagnostic.Presentation
import MetaDesk.Settings.Load
import MetaDesk.Spelling.Builtins
import MetaDesk.Tail.Start
import MetaDesk.Target.Resolve

/-! # Carrying out a command line

A command that is carried out ends with a code: zero when all went well, one when something was
found wrong, and two when the settings or the files do not do.  A command line that cannot be read
is not carried out. -/

namespace MetaDesk.Command

/-- How a command line ends. -/
inductive Ending where
  /-- It was carried out. -/
  | done (code : Nat)
  /-- It was not carried out, since help was asked for or the command line is wrong. -/
  | stopped (code : Nat)
deriving DecidableEq, Repr

/-- The code of an ending. -/
def Ending.code : Ending → Nat
  | .done n => n
  | .stopped n => n

/-- All is well. -/
def success : Nat := 0

/-- Something was found wrong. -/
def negative : Nat := 1

/-- The command cannot be carried out. -/
def trouble : Nat := 2

/-- Tell what is wrong with the settings or the files. -/
def refuse (message : Text) : Act Nat := do
  Act.printError ("Error: " ++ message)
  return trouble

/-- Do something, unless the configuration does not do. -/
def configured (act : Act Nat) : Act Nat := do
  match ← Act.tryConfigured act with
  | .ok code => return code
  | .error f => refuse f.message

/-- Load the settings and go on with them. -/
def withSettings (config : Option Text) (next : Settings → Act Nat) : Act Nat := do
  match ← Act.tryConfigured (Settings.load config) with
  | .ok s => next s
  | .error f => refuse f.message

/-- The workspace, or else the working folder. -/
def folderOf (workspace : Text) : Act Text := do
  if workspace.isEmpty then return (Disk.pathOf (← get).here).text else return workspace

/-! ## Commands -/

/-- Compile sources, or check them. -/
def compile (i : Invocation) (mode : CompilerLog.Mode) (r : CompileRequest) : Act Nat :=
  withSettings i.config fun settings => do
    let resolver ← HeaderResolver.ofSettings settings (← folderOf i.workspace)
    let targets ← fun h =>
      let ((targets, _), h) :=
        (Target.resolve (fun _ => .ok r.headerFlavor) r.paths).run (some resolver) h
      (targets, h)
    if targets.isEmpty then refuse "no .mq4/.mq5/.mqh files to compile"
    else
      let compiler : Compile.Compiler :=
        { settings := fun _ => Settings.load i.config, workspace := i.workspace }
      let (results, desk) ← fun h =>
        let ((results, desk), h) := (compiler.batch mode targets).run {} h
        (results.map fun rs => (rs, desk), h)
      if r.asJson then Act.print ((ByFile.presentation desk.store.byFile).layout 0)
      return if Compile.hasError results then negative else success

/-- Ask what to do without the library. -/
def askDeploy (library : Path) : Act Tail.DeployChoice := do
  let answer ← Act.prompt (library.name ++ " not found at " ++ library.parent.text
    ++ ". [i]nstall it, use [s]tandard logs, or [c]ancel? ")
  return match Text.lower (Text.trim answer) with
  | 'i' :: _ => .install
  | 's' :: _ => .useStandard
  | _ => .cancel

/-- Follow a log for some time, and stop in any case. -/
def followFor (duration : Option Binary64) (meanwhile : Tail.Tailing Unit) :
    Tail.Tailing Unit := do
  try
    if let some seconds := duration then (Act.sleep seconds : Act Unit)
    meanwhile
  catch m =>
    Tail.stop
    throw m
  Tail.stop

/-- What a tailer works with. -/
def tailSetup (i : Invocation) (r : TailRequest) (s : Settings) (folder : Text) : Tail.Setup where
  settings := Settings.load i.config
  detect := return r.flavor <|> Tail.detectFlavor r.activeFile [folder] (some s.compilers)
  infer := Tail.inferFolder r.activeFile folder
  ask := askDeploy
  workspace := folder

/-- Follow a log; an interruption ends it well. -/
def tail (meanwhile : Tail.Tailing Unit) (i : Invocation) (r : TailRequest) : Act Nat :=
  configured do
    let settings ← Settings.load i.config
    let setup := tailSetup i r settings (← folderOf i.workspace)
    let act : Tail.Tailing Nat := do
      if ← Tail.start setup r.mode then
        followFor r.duration meanwhile
        return success
      else return negative
    fun h =>
      let ((result, _), h) := act.run {} h
      match result with
      | .error .interrupted => (.ok success, h)
      | result => (result, h)

/-- A function that a word is close to. -/
def shownMatch (m : Spelling.Match) : Text :=
  let mark : Text := if m.isClose then " *" else []
  m.name ++ " (" ++ Text.ofNat m.distance ++ ")" ++ mark

/-- Print the functions that words are close to. -/
def suggest (r : SuggestRequest) : Act Nat := do
  let found ← r.words.mapM fun word => do
    match Spelling.Builtins.dictionary.closest word r.most r.count with
    | .error _ => throw .notALetter
    | .ok [] =>
      Act.print (word ++ ": no suggestions")
      return false
    | .ok ms =>
      Act.print (word ++ ": " ++ Text.joinWith ", " (ms.map shownMatch))
      return true
  return if found.any id then success else negative

/-- Look at the setup of Wine and of the compiler. -/
def shimCheck (i : Invocation) (f : Flavor) : Act Nat :=
  withSettings i.config fun settings => do
    let compiler ← Act.orRefuse
      (Settings.placeOf (← get).homes i.workspace (settings.compilers.executable f))
    let setup ← Launch.Wine.checkSetup settings.wine compiler
    if let some v := setup.version then
      if !v.isEmpty then Act.print ("Wine: " ++ v)
    for t in setup.warnings do Act.print (Failure.warningLine t)
    for t in setup.errors do Act.print (Failure.errorLine t)
    Act.print (if setup.isValid then "Shim setup OK" else "Shim setup has errors")
    return if setup.isValid then success else negative

/-! ## The whole line -/

/-- Carry out what a command line asks for; `meanwhile` happens while a log is followed. -/
def carryOut (meanwhile : Tail.Tailing Unit) (i : Invocation) : Act Nat := do
  match i.request with
  | none =>
    Act.print outline.grammar.usage
    return success
  | some (.compile mode r) => compile i mode r
  | some (.tail r) => tail meanwhile i r
  | some (.suggest r) => suggest r
  | some (.shimCheck f) => shimCheck i f

/-- Tell why a command line is not carried out. -/
def explain : Stop → Act Ending
  | .help g => do
    Act.print g.usage
    return .stopped success
  | .misuse g m => do
    Act.printError g.usage
    Act.printError (g.program ++ ": error: " ++ m.message)
    return .stopped trouble

/-- Read a command line and carry it out. -/
def run (meanwhile : Tail.Tailing Unit) (args : List Text) : Act Ending := do
  match Invocation.ofArgs args with
  | .error stop => explain stop
  | .ok i => return .done (← carryOut meanwhile i)

/-- A notice as it is told beside the output. -/
def shownNotice (n : Notice) : Text :=
  let hint := match n.setting with
    | some s => if s.isEmpty then [] else " (see setting " ++ s ++ ")"
    | none => []
  n.message ++ hint ++ ['\n']

/-- Everything that was told beside the output. -/
def complaintsOf (h : Host) : Text := h.notices.flatMap shownNotice ++ h.complaints

end MetaDesk.Command
