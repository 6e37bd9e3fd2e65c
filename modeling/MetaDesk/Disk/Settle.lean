import MetaDesk.Disk.Basic

/-! # Paths without links

`settle` gives the place that a path leads to when every link on it is followed.  What does not
exist is kept by name, and a double dot takes away a name.  At a link that leads back to itself
the way is lost: the link and everything that is left after it are kept by name, and what they
come to must not be the way through that link again. -/

namespace MetaDesk.Disk

/-- A place as a path. -/
def pathOf (place : Place) : Path := ⟨.single, place⟩

/-- The target of the link at a path from which links and inner double dots are gone. -/
def link? (d : Disk) (here : Place) (p : Path) : Option Text :=
  match d.node? ((pathOf here).join p).collapse.names with
  | some (.link target) => some target
  | _ => none

/-- The pieces of a text between slashes. -/
def piecesOf (t : Text) : List Text := Text.splitOn '/' t

/-- A lost way with what is left after it, which starts anew at the root with an empty piece. -/
def lostBefore (lost : Path) (rest : List Text) : Path :=
  match rest with
  | [] :: _ :: _ => ⟨.single, rest⟩
  | _ => ⟨lost.root, lost.names ++ rest⟩

/-- Follow pieces from a path, `through` following a link in a folder to its target. -/
def settleFrom (d : Disk) (here : Place) (through : Path → Path → Text → Except Path Path) :
    Path → List Text → Except Path Path
  | p, [] => .ok p
  | p, name :: rest =>
    if !Path.isKept name then settleFrom d here through p rest
    else
      let next : Path := ⟨p.root, (Path.push p.isAbsolute p.names.reverse name).reverse⟩
      if name = Path.up then settleFrom d here through next rest
      else
        match d.link? here next with
        | none => settleFrom d here through next rest
        | some target =>
          match through p next target with
          | .ok p => settleFrom d here through p rest
          | .error lost => .error (lostBefore lost rest)

/-- Follow pieces from a path, and links inside the given ones to some depth. -/
def settleWithin (d : Disk) (here : Place) : Nat → List Path → Path → List Text → Except Path Path
  | 0, _ => d.settleFrom here fun _ link _ => .error link
  | depth + 1, around => d.settleFrom here fun p link target =>
    if around.contains link then .error link
    else
      let start := if (Path.ofText target).isAbsolute then pathOf [] else p
      settleWithin d here depth (link :: around) start (piecesOf target)

/-- The place that a path leads to.  There are not more links inside each other than there are on
the disk, each as seen from the root, from the working folder and from the folders above it, unless
they lead to themselves. -/
def settle (d : Disk) (here : Place) (p : Path) : Option Place :=
  let start : Path := if p.isAbsolute then pathOf [] else ⟨.none, []⟩
  let whole (p : Path) : Path :=
    ((pathOf here).join ⟨p.root, p.names.filter Path.isKept⟩).collapse
  match d.settleWithin here ((here.length + 2) * d.entries.length) [] start p.names with
  | .ok p => some (whole p).names
  | .error lost =>
    match d.find true [] (whole lost) with
    | .error e => if e = .linkLoop then none else some (whole lost).names
    | .ok _ => some (whole lost).names

end MetaDesk.Disk
