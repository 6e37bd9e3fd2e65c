import MetaDesk.Path.FileUri
import MetaDesk.Path.Home

/-! # Paths in settings

A path in a setting may name the workspace folder and the home folder, and may be relative to the
workspace.  `placeOf` expands it to a path from the root; a drive path stays as it is. -/

namespace MetaDesk

namespace Settings

/-- What stands for the workspace folder. -/
def workspaceMark : Text := "$\x7bworkspaceFolder\x7d"

/-- A path from a setting in a workspace, which may be missing; an empty setting names nothing. -/
def placeOf (homes : Homes) (workspace raw : Text) : Except Refusal Text :=
  if raw.isEmpty then .ok []
  else (homes.expand (Text.replaceAll workspaceMark workspace raw)).map fun t =>
    let p := Path.ofText t
    if t.isDrivePath then t
    else if p.isAbsolute then p.collapse.text
    else if workspace.isEmpty then t
    else ((Path.ofText workspace).join p).collapse.text

end Settings

end MetaDesk
