import MetaDesk.Compile.Environment
import MetaDesk.Launch.Script
import MetaDesk.Target.Basic

/-! # Running the compiler on a target

Under Wine the paths that the compiler is given are translated, each for itself; one that cannot be
translated is given as it is. -/

namespace MetaDesk.Compile

open Launch

/-- A path as the compiler under Wine knows it; `label` says what the path is for. -/
def translated (w : Wine) (label path : Text) : Act Text := do
  match ← w.translate path with
  | .ok t => return t
  | .error _ =>
    Act.report (.translation ("[Wine] Path conversion failed for " ++ label ++ " path '" ++ path
      ++ "'; using original path as fallback") none) path
    return path

/-- Run the compiler under Wine. -/
def runTranslated (w : Wine) (e : Environment) (source log : Text) : Act Outcome := do
  let compiler ← translated w "executable" e.compiler
  let source ← translated w "compile" source
  let log ← translated w "log" log
  let includes ← e.includes.mapM (translated w "include")
  let job : Job := ⟨source, log, includes, e.portable⟩
  runUnderWine w compiler job.args true

/-- Run the compiler on a source. -/
def run (platform : Option Text) (e : Environment) (source log : Path) : Act Outcome :=
  match e.wine with
  | some w => runTranslated w e source.text log.text
  | none =>
    let job : Job := ⟨source.text, log.text, e.includes, e.portable⟩
    runDirect platform e.compiler job.args

/-- Tell what the compiler said outside its log, and that it had to be stopped. -/
def tell (o : Outcome) : Act Unit := do
  let said := Text.trim o.stderr
  if !said.isEmpty then Act.display fun out => out.warning ("Stderr: " ++ said)
  if o.status = .timedOut then
    Act.remark ("[Wine] " ++ o.launchError.getD "None" ++ ". Process killed.")

end MetaDesk.Compile
