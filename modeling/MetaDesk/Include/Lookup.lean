import MetaDesk.Host.Basic
import MetaDesk.Text.Letter

/-! # Where includes lead

An include may mean a file beside the including one, in the include folder of the workspace, or in
the include folder that is set.  Files are told apart by their paths without double dots,
regardless of case. -/

namespace MetaDesk.Include

/-- What a file is known by. -/
def keyOf (p : Path) : Text := Text.lower p.collapse.text

/-- The include folder of a workspace. -/
def folderOf (workspace : Path) : Path := workspace.child "Include"

/-- The paths that an include may mean, in order. -/
def candidates (name : Text) (folder workspace : Path) (includes : Text) : List Path :=
  let relative := Path.ofText (Text.swap '\\' '/' name)
  [folder.join relative, (folderOf workspace).join relative]
    ++ if includes.isEmpty then [] else [(Path.ofText includes).join relative]

/-- The files that an include may mean. -/
def files (name : Text) (folder workspace : Path) (includes : Text) : Act (List Path) := do
  let found ← (candidates name folder workspace includes).filterM Act.isFile
  return found.eraseDups

end MetaDesk.Include
