import MetaDesk.Flavor
import MetaDesk.Host.Basic

/-! # The sources of a workspace

A workspace is looked through from its folder down: first the sources in a folder, then its
folders, each in order of their names.  Links to folders are not entered. -/

namespace MetaDesk.Include

/-- Folders that are not looked into. -/
def skippedFolders : List Text := [".git", "node_modules"]

/-- A file with this name is a source. -/
def isSourceName (name : Text) : Bool := Flavor.isSource (Path.ofText name).suffix

/-- Something in a folder counts as a folder, be it one or a link to one. -/
def leadsToFolder (d : Disk) (place : Place) (child : Text × Node) : Bool :=
  match child.2 with
  | .folder => true
  | .file _ => false
  | .link _ => (d.look place ⟨.none, [child.1]⟩).toOption = some .folder

/-- Names of sources in a folder. -/
def sourceNames (d : Disk) (place : Place) : List Text :=
  let children := (d.children place).filter fun c => !leadsToFolder d place c && isSourceName c.1
  (children.map (·.1)).mergeSort Text.notAfter

/-- Names of folders in a folder that are looked into. -/
def folderNames (d : Disk) (place : Place) : List Text :=
  let children := (d.children place).filter fun c =>
    c.2 = .folder && !skippedFolders.contains c.1
  (children.map (·.1)).mergeSort Text.notAfter

/-- The names of sources in a folder and so many levels of folders below it, each with the names
that lead to it. -/
def namesBelow (d : Disk) : Nat → Place → List (List Text)
  | 0, _ => []
  | depth + 1, place =>
    (sourceNames d place).map (fun name => [name])
      ++ (folderNames d place).flatMap fun folder =>
        (namesBelow d depth (place ++ [folder])).map (folder :: ·)

/-- The most levels of folders on a disk. -/
def levels (d : Disk) : Nat := d.entries.foldl (fun n e => max n e.1.length) 0 + 1

/-- All sources in a folder and below. -/
def allSources (d : Disk) (here : Place) (root : Path) : List Path :=
  match d.find true here root with
  | .ok place => (namesBelow d (levels d) place).map fun names => ⟨root.root, root.names ++ names⟩
  | .error _ => []

/-- The sources in a folder and below, at most so many and at least one.  It is noted when there
are that many. -/
def sources (root : Path) (most : Int) : Act (List Path × Bool) := do
  let h ← get
  let all := allSources h.disk h.here root
  let count := max 1 most.toNat
  return (all.take count, count ≤ all.length)

/-- Note that a workspace was not looked through to its end. -/
def noteTruncated (root : Path) (most : Int) (truncated : Bool) : Act Unit := do
  if truncated then
    Act.warn .including
      ("Include index truncated at " ++ Text.ofInt most ++ " files under " ++ root.text)

/-- The sources in a folder and below, with a note about those that are left out. -/
def scan (root : Path) (most : Int) : Act (List Path) := do
  let (found, truncated) ← sources root most
  noteTruncated root most truncated
  return found

end MetaDesk.Include
