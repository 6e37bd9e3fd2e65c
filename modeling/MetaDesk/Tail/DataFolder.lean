import MetaDesk.Host.Basic
import MetaDesk.Settings.Basic

/-! # The data folder of a terminal

A terminal keeps includes, logs and other files in a data folder that is named for its flavor.
Which flavor somebody works with, and where its data folder is, can often be told from the file
that they look at and from their workspace. -/

namespace MetaDesk.Tail

/-- The flavor that a file hints at. -/
def flavorOfFile? (file : Text) : Option Flavor :=
  let name := Text.lower file
  match Flavor.ofSuffix? (Path.ofText name).suffix with
  | some f => some f
  | none => Flavor.mentioned? name

/-- The only flavor with an include folder. -/
def onlyConfigured? (s : CompilerSettings) : Option Flavor :=
  if s.include4.isEmpty then if s.include5.isEmpty then none else some .mql5
  else if s.include5.isEmpty then some .mql4 else none

/-- The flavor that the active file, the workspaces or the settings hint at, in this order. -/
def detectFlavor (file : Text) (workspaces : List Text) (s : Option CompilerSettings) :
    Option Flavor :=
  let ofFile := if file.isEmpty then none else flavorOfFile? file
  match ofFile with
  | some f => some f
  | none =>
    match workspaces.findSome? Flavor.mentioned? with
    | some f => some f
    | none => s.bind onlyConfigured?

/-- Folders that a data folder has. -/
def markers : List Text := ["Logs", "Include"]

/-- The folder has the name of a data folder. -/
def isNamedFor (f : Flavor) (p : Path) : Bool := Text.upper p.name = f.label

/-- The first thing that an action finds. -/
def firstOf {α : Type} (find : α → Act Bool) : List α → Act (Option α)
  | [] => return none
  | a :: rest => do if ← find a then return some a else firstOf find rest

/-- The folder has one of the folders of a data folder. -/
def hasMarker (p : Path) : Act Bool := do
  return (← firstOf (fun m => Act.pathExists (p.child m)) markers).isSome

/-- The folder has all folders of a data folder. -/
def hasMarkers (p : Path) : Act Bool := do
  return (← firstOf (fun m => return !(← Act.pathExists (p.child m))) markers).isNone

/-- The data folder that a file is in. -/
def above (f : Flavor) (file : Text) : Act (Option Path) :=
  firstOf (fun p => if isNamedFor f p then hasMarker p else return false)
    (Path.ofText file).parents

/-- The data folder that a workspace is or has. -/
def inWorkspace (f : Flavor) (workspace : Text) : Act (Option Path) := do
  let root := Path.ofText workspace
  if isNamedFor f root then return some root
  let child := root.child f.label
  if ← Act.isFolder child then return some child
  if ← hasMarkers root then return some root else return none

/-- The data folder of a flavor, as far as the active file and the workspace tell. -/
def inferFolder (file workspace : Text) (f : Flavor) : Act (Option Path) := do
  let found ← if file.isEmpty then pure none else above f file
  match found with
  | some p => return some p
  | none => if workspace.isEmpty then return none else inWorkspace f workspace

/-- The data folder of an include folder. -/
def baseOf (includes : Path) : Path :=
  if Text.lower includes.name = "include".toList then includes.parent else includes

end MetaDesk.Tail
