import MetaDesk.Launch.Wine
import MetaDesk.Settings.Place

/-! # The environment of a compile

For each compile the settings are turned into what is needed to run the compiler for one flavor,
and what they name is looked for before anything is started. -/

namespace MetaDesk.Compile

open Launch

/-- What is needed to run the compiler. -/
structure Environment where
  flavor : Flavor
  compiler : Text
  /-- The include folder, if one is set. -/
  includes : Option Text
  portable : Bool
  /-- Wine, where it is used. -/
  wine : Option Wine
  deletesLog : Bool
deriving DecidableEq, Repr

namespace Environment

/-- The environment that settings describe. -/
def ofSettings (homes : Homes) (workspace : Text) (platform : Option Text) (s : Settings)
    (f : Flavor) : Except Refusal Environment := do
  let compiler ← Settings.placeOf homes workspace (s.compilers.executable f)
  let includes ← Settings.placeOf homes workspace (s.compilers.includeFolder f)
  return {
    flavor := f
    compiler := compiler
    includes := if includes.isEmpty then none else some includes
    portable := s.compilers.portable f
    wine := if Wine.isActive s.wine.enabled platform then some (.ofSettings s.wine) else none
    deletesLog := s.deleteLogs }

/-- A failure of a setting and the path that it names. -/
def misset (message setting path : Text) : Mishap :=
  .failed (.configuration message (some setting) (some path) (some Failure.openSettings))

/-- Look for what the environment names; the first thing that is missing ends it. -/
def check (e : Environment) : Act Unit := do
  let setting := CompilerSettings.settingName "metaeditor" e.flavor
  if e.wine.isSome && !e.compiler.isEmpty then
    match Wine.unusable? e.compiler with
    | some why => throw (misset ("Wine Configuration Error: " ++ why) setting e.compiler)
    | none => pure ()
  let found ← if e.compiler.isEmpty then pure false else Act.pathExists (.ofText e.compiler)
  if !found then
    let shown : Text := if e.compiler.isEmpty then "(not set)" else e.compiler
    throw (misset ("MetaEditor for " ++ e.flavor.label ++ " not found: " ++ shown ++ ". Check the "
      ++ setting ++ " setting.") setting e.compiler)
  match e.includes with
  | none => return
  | some folder =>
    if !(← Act.pathExists (.ofText folder)) then
      let setting := CompilerSettings.settingName "include" e.flavor
      throw (misset ("Include directory for " ++ e.flavor.label ++ " not found: " ++ folder
        ++ ". Check the " ++ setting ++ " setting.") setting folder)

end Environment

end MetaDesk.Compile
