import MetaDesk.Compile.Log
import MetaDesk.Compile.Run
import MetaDesk.CompilerLog.Report
import MetaDesk.Diagnostic.Link
import MetaDesk.Diagnostic.Store

/-! # Compiling a batch of targets

The targets of a batch are compiled one after the other.  The settings are read anew for each.  A
target that cannot be compiled is reported and does not stop the others; what its log says about
another is published. -/

namespace MetaDesk.Compile

/-- The mode as it is shown before a result. -/
def labelOf : CompilerLog.Mode → Text
  | .check => "Checking"
  | .compile => "Compiling"

/-- The name of a mode. -/
def nameOf : CompilerLog.Mode → Text
  | .check => "check"
  | .compile => "compile"

/-- What came out of compiling a target. -/
structure Result where
  target : Target
  /-- What was shown of the log. -/
  shown : Text := []
  diagnostics : ByFile := []
  hasError : Bool := false
  /-- Why the target could not be compiled. -/
  failure : Option Failure := none
deriving DecidableEq, Repr

/-- One of the targets could not be compiled or has errors. -/
def hasError (results : List Result) : Bool := results.any (·.hasError)

/-- How targets are compiled. -/
structure Compiler where
  /-- Read the settings, which were read so many times before. -/
  settings : Nat → Act Settings
  /-- The folder that paths in the settings are relative to. -/
  workspace : Text := []
  platform : Option Text := none
  patience : Patience := {}

/-- What is published. -/
structure Desk where
  store : DiagnosticStore := {}
  links : Links := []
  /-- How often the settings were read. -/
  reads : Nat := 0
deriving DecidableEq, Repr

/-- An action on what is published. -/
abbrev Compiling := ActOn Desk

namespace Compiler

/-- The environment for a flavor, with everything it names in place. -/
def prepare (c : Compiler) (f : Flavor) (reads : Nat) : Act Environment := do
  let settings ← c.settings reads
  let e ← Act.orRefuse (Environment.ofSettings (← get).homes c.workspace c.platform settings f)
  e.check
  return e

/-- A target that could not be compiled. -/
def failed (t : Target) (f : Failure) : Act Result := do
  Act.report f t.path.text
  return { target := t, hasError := true, failure := some f }

/-- The line before what is shown of a log. -/
def header (mode : CompilerLog.Mode) (t : Target) (stamp : Text) (elapsed : Binary64) : Text :=
  "[" ++ stamp ++ "] " ++ labelOf mode ++ " '" ++ t.name ++ "' [" ++ elapsed.hundredths ++ "s]"

/-- Run the compiler and get its log; without one there is a failure. -/
def logOf (c : Compiler) (e : Environment) (t : Target) (log : Path) :
    Act (Except Failure Text) := do
  removeStale log
  let outcome ← run c.platform e t.path log
  tell outcome
  match ← readLog c.patience log with
  | none => return .error (.logUnavailable log.text outcome.detail)
  | some text =>
    if e.deletesLog then removeRead log
    return .ok text

/-- Publish what a log says. -/
def publish (mode : CompilerLog.Mode) (t : Target) (report : CompilerLog.Report) :
    Compiling Result := do
  let groups := Diagnostic.groupByFile report.diagnostics
  modifyThe Desk fun d => { d with store := d.store.replaceAll groups, links := report.links }
  let shown (h : Host) (o : Output) : Output :=
    (o.appendLine (header mode t h.stamp h.elapsed)).append report.text
  modifyThe Host fun h => { h with output := shown h h.output }
  return { target := t, shown := report.text, diagnostics := groups, hasError := report.hasError }

/-- The log of a target; a target without a name has none. -/
def logPath (t : Target) : Act Path := do
  match t.log with
  | .ok log => return log
  | .error r => throw (.refused r)

/-- What a log says. -/
def parse (mode : CompilerLog.Mode) (text : Text) : Act CompilerLog.Report := do
  match CompilerLog.read mode text with
  | .ok report => return report
  | .error e => throw (.refused (.longNumeral e))

/-- The number of times that the settings were read before this time. -/
def countRead : Compiling Nat := do
  let d ← getThe Desk
  modifyThe Desk fun d => { d with reads := d.reads + 1 }
  return d.reads

/-- Compile a target. -/
def compile (c : Compiler) (mode : CompilerLog.Mode) (t : Target) : Compiling Result := do
  let reads ← countRead
  match ← (Act.tryConfigured (c.prepare t.flavor reads) : Act _) with
  | .error f => failed t f
  | .ok e =>
    let log ← (logPath t : Act _)
    match ← (c.logOf e t log : Act _) with
    | .error f => failed t f
    | .ok text => publish mode t (← (parse mode text : Act _))

/-- Compile targets one after the other. -/
def compileAll (c : Compiler) (mode : CompilerLog.Mode) (ts : List Target) :
    Compiling (List Result) :=
  ts.mapM (c.compile mode)

/-- Compile a batch of targets; nothing that was published or shown before is kept. -/
def batch (c : Compiler) (mode : CompilerLog.Mode) (ts : List Target) :
    Compiling (List Result) := do
  modifyThe Desk fun d => { d with store := d.store.clear }
  modifyThe Host fun h => { h with output := h.output.clear }
  c.compileAll mode ts

end Compiler

end MetaDesk.Compile
