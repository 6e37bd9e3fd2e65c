import MetaDesk.Launch.CommandLine
import MetaDesk.Launch.Outcome
import MetaDesk.Launch.Wine

/-! # Running the compiler

On its own platform the compiler is run by its command line, on others as a program with arguments,
and under Wine through a script that holds the command line and exists only during the run. -/

namespace MetaDesk.Launch

/-- The name of the temporary script. -/
def scriptName : Text := "mql_compile_*.bat"

/-- The script that runs a command line, with the line ends that Wine expects. -/
def scriptBytes (line : Text) : Bytes :=
  Utf8.encode (("@echo off\n" ++ line ++ "\n").flatMap fun c => if c = '\n' then "\r\n" else [c])

/-- Do something while the script is there.  The temporary folder is assumed to take the script, under
a name that nothing else in it has. -/
def withScript {α : Type} (line : Text) (act : Path → Act α) : Act α := do
  let script := (← get).temp.child scriptName
  let place := script.names
  modify fun h => { h with disk := h.disk.put place (.file (scriptBytes line)) }
  let remove : Act Unit := modify fun h => { h with disk := h.disk.remove place }
  try
    let a ← act script
    remove
    return a
  catch m =>
    remove
    throw m

/-- The compiler could not be started. -/
def launchFailed (program : Text) (e : SystemError) : Act Outcome := do
  let message : Text := "Failed to start " ++ program ++ ": " ++ e.message
  Act.complain .launching message
  return { status := .launchFailed, launchError := some message }

/-- The compiler ended by itself. -/
def exited (c : Collected) : Outcome :=
  { status := .exited, exitCode := some c.code, stderr := textOf c.stderr }

/-- Run the compiler without Wine, for as long as it takes. -/
def runDirect (platform : Option Text) (program : Text) (args : List Text) : Act Outcome := do
  let command := if Wine.platformOr platform = Wine.nativePlatform
    then Command.line (commandLine program args) else .program program args
  match ← start command none with
  | .error e => launchFailed program e
  | .ok r =>
    match ← collectInTime r with
    | some c => return exited c
    | none => throw .unending

/-- Run the compiler under Wine, with the path of the script translated if `translates`.  Without
any time nothing is collected at all. -/
def runUnderWine (w : Wine) (program : Text) (args : List Text) (translates : Bool) :
    Act Outcome :=
  withScript (commandLine program args) fun script => do
    let path ← if translates then do
        match ← w.translate script.text with
        | .ok t => pure t
        | .error _ => pure script.text
      else pure script.text
    match ← start (.program w.binary ["cmd", "/c", path]) w.environment with
    | .error e => launchFailed w.binary e
    | .ok r =>
      if w.isEndless then throw .overflow
      let collected ← if 0 < w.timeout then collectInTime r else pure none
      match collected with
      | some c => return exited c
      | none =>
        let code ← terminate r
        let message : Text := "Wine process timed out after " ++ w.timeoutSeconds.sixDigits ++ "s"
        Act.complain .launching message
        return { status := .timedOut, exitCode := some code, launchError := some message }

end MetaDesk.Launch
