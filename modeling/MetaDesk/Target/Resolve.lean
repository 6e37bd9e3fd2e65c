import MetaDesk.Target.Basic
import MetaDesk.Target.Header

/-! # From paths to targets

Each given path becomes the target of its file, or for a header the targets of its main files.  A
file is a target only once, and files that are no sources are passed over. -/

namespace MetaDesk

/-- An action with what is known about headers, if anything is. -/
abbrev Resolving := ActOn (Option HeaderResolver)

namespace Target

/-- Get the result, or end with the mishap. -/
def orEnd {α : Type} : Except Mishap α → Resolving α
  | .ok a => return a
  | .error m => throw m

/-- Add the target of a path, unless it is one already. -/
def add (targets : List Target) (path : Path) (flavor : Flavor) : Resolving (List Target) :=
  if targets.any fun t => t.path = path then return targets
  else
    match make path flavor with
    | .ok t => return targets ++ [t]
    | .error r => throw (.refused r)

/-- Add a main file, whose flavor nobody is asked for. -/
def addMain (targets : List Target) (main : Path) : Resolving (List Target) := do
  match ← orEnd (flavorOf nobody main) with
  | some f => add targets main f
  | none => return targets

/-- Add a file itself. -/
def addFile (ask : HeaderFlavor) (targets : List Target) (p : Path) :
    Resolving (List Target) := do
  match ← orEnd (flavorOf ask p) with
  | some f => add targets p f
  | none =>
    Act.warn .targeting ("Skipping " ++ p.text ++ ": not an MQL source file")
    return targets

/-- The path of a file, without links and from the root on. -/
def locate (given : Text) : Act Path := do
  match Path.fromHome (← get).homes (.ofText given) with
  | .error m => throw m
  | .ok p => Act.resolve p

/-- The main files of a header, if somebody knows about headers. -/
def mainsOf (p : Path) : Resolving (List Path) := do
  match ← getThe (Option HeaderResolver) with
  | some r =>
    if Flavor.isHeader p.suffix then
      let (mains, r) ← (r.mainsFor p : Act _)
      modifyThe (Option HeaderResolver) fun _ => some r
      return mains
    else return []
  | none => return []

/-- Add the targets of a given path. -/
def addGiven (ask : HeaderFlavor) (targets : List Target) (given : Text) :
    Resolving (List Target) := do
  let p ← (locate given : Act Path)
  let mains ← mainsOf p
  if mains.isEmpty then addFile ask targets p else mains.foldlM addMain targets

/-- The targets of given paths. -/
def resolve (ask : HeaderFlavor) (given : List Text) : Resolving (List Target) :=
  given.foldlM (addGiven ask) []

end Target

end MetaDesk
