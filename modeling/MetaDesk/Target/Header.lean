import MetaDesk.Include.Index
import MetaDesk.Settings.Basic
import MetaDesk.Settings.Place

/-! # What a header is compiled through

A header is not compiled alone.  The saved main files of a header are taken if there are any left,
and otherwise the main files that include it.  The include index is made when it is first needed
and kept until it is forgotten. -/

namespace MetaDesk

/-- What is known about the headers of a workspace. -/
structure HeaderResolver where
  /-- The folder of the workspace. -/
  folder : Path
  /-- Saved main files, by the key of their header. -/
  saved : Keyed Text (List Text)
  /-- How the workspace is looked through. -/
  workspace : Workspace
  /-- The index, once it is made. -/
  index : Option IncludeIndex := none
deriving Repr

namespace HeaderResolver

/-- The key of a header: its path from the workspace, in lower case. -/
def keyOf (here : Path) (folder header : Path) : Text :=
  Text.lower (Path.relativeTo here folder header).text

/-- A saved key in the form of all keys. -/
def foldKey (key : Text) : Text := Text.lower (Text.swap '\\' '/' key)

/-- Saved main files by key. -/
def foldKeys (saved : List (Text × List Text)) : Keyed Text (List Text) :=
  Keyed.ofList (saved.map fun e => (foldKey e.1, e.2))

/-- What is known about a workspace with saved main files and the usual way to look through it. -/
def ofSaved (folder : Text) (saved : List (Text × List Text)) : Act HeaderResolver := do
  let place ← Act.resolve (.ofText folder)
  return { folder := place, saved := foldKeys saved, workspace := { folder := place } }

/-- What is known about a workspace as it is set. -/
def ofSettings (s : Settings) (folder : Text) : Act HeaderResolver := do
  let homes := (← get).homes
  let includes4 ← Act.orRefuse (Settings.placeOf homes folder s.compilers.include4)
  let includes5 ← Act.orRefuse (Settings.placeOf homes folder s.compilers.include5)
  let place ← Act.resolve (.ofText folder)
  return {
    folder := place
    saved := foldKeys s.headers.saved
    workspace := {
      folder := .ofText folder
      includes4 := includes4
      includes5 := includes5
      most := s.headers.maxFiles } }

/-- The index, which is made if need be. -/
def needIndex (r : HeaderResolver) : Act (IncludeIndex × HeaderResolver) := do
  match r.index with
  | some i => return (i, r)
  | none =>
    let i ← IncludeIndex.build r.workspace
    return (i, { r with index := some i })

/-- Forget the index. -/
def invalidate (r : HeaderResolver) : HeaderResolver := { r with index := none }

/-- The saved main files of a header that are left. -/
def savedFor (r : HeaderResolver) (header : Path) : Act (List Path) := do
  let key := keyOf (Disk.pathOf (← get).here) r.folder header
  let places ← ((r.saved.get? key).getD []).mapM fun relative =>
    Act.resolve (r.folder.child (Text.swap '\\' '/' relative))
  places.filterM Act.isFile

/-- The main files of a header. -/
def mainsFor (r : HeaderResolver) (header : Path) : Act (List Path × HeaderResolver) := do
  let saved ← r.savedFor header
  if !saved.isEmpty then return (saved, r)
  let (index, r) ← r.needIndex
  return (index.mainsOf header, r)

end HeaderResolver

end MetaDesk
