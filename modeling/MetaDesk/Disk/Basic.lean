import MetaDesk.Bytes.Utf8
import MetaDesk.Path.Basic
import MetaDesk.SystemError

/-! # A disk

A disk holds files, folders and links, each at its place, which is the list of names from the root
on.  `find` follows a path as the system does: name by name, through links, upwards at a double
dot, and with a limit on the number of links. -/

namespace MetaDesk

/-- Where something is: the names from the root on. -/
abbrev Place := List Text

/-- What is at a place. -/
inductive Node where
  | file (content : Bytes)
  | folder
  | link (target : Text)
deriving DecidableEq, Repr

/-- A disk.  The root is a folder, and so is the folder of everything on the disk. -/
structure Disk where
  entries : List (Place × Node) := []
deriving DecidableEq, Repr

namespace Disk

/-- What is at a place. -/
def node? (d : Disk) (place : Place) : Option Node :=
  if place.isEmpty then some .folder else d.entries.lookup place

/-- Put something at a place. -/
def put (d : Disk) (place : Place) (n : Node) : Disk :=
  ⟨replace d.entries⟩
where
  /-- Put it where the place already is, or at the end. -/
  replace : List (Place × Node) → List (Place × Node)
    | [] => [(place, n)]
    | e :: rest => if e.1 = place then (place, n) :: rest else e :: replace rest

/-- Take away what is at a place. -/
def remove (d : Disk) (place : Place) : Disk := ⟨d.entries.filter fun e => e.1 ≠ place⟩

/-- The names in a folder with what they name. -/
def children (d : Disk) (place : Place) : List (Text × Node) :=
  d.entries.filterMap fun e =>
    match e.1.reverse with
    | name :: back => if back.reverse = place then some (name, e.2) else none
    | [] => none

/-- Everything in a folder and the folders below it that is no folder itself, each by its way from
there. -/
def filesUnder (d : Disk) (place : Place) : List Text :=
  d.entries.filterMap fun e =>
    if e.2 != .folder && place.isPrefixOf e.1 then
      some (Text.joinWith ['/'] (e.1.drop place.length))
    else none

/-! ## Following paths -/

/-- The longest name in bytes. -/
def maxName : Nat := 255

/-- Fewer bytes than this make a path. -/
def maxPath : Nat := 4096

/-- Links that are followed on one path. -/
def maxLinks : Nat := 40

/-- How far names lead before they meet a link. -/
inductive Step where
  | arrived (place : Place)
  /-- A link in a folder, and the names after it. -/
  | met (folder : Place) (target : Text) (rest : List Text)
  | failed (e : Errno)

/-- Follow names from a place up to the first link; the last name only if `through`. -/
def walk (d : Disk) (through : Bool) : Place → List Text → Step
  | place, [] => .arrived place
  | place, name :: rest =>
    match d.node? place with
    | none => .failed .notFound
    | some .folder =>
      if maxName < (Utf8.encode name).length then .failed .nameTooLong
      else if name = Path.up then walk d through place.dropLast rest
      else
        match d.node? (place ++ [name]) with
        | some (.link target) =>
          if through || !rest.isEmpty then .met place target rest
          else .arrived (place ++ [name])
        | _ => walk d through (place ++ [name]) rest
    | some _ => .failed .notFolder

/-- Follow names through at most so many links. -/
def follow (d : Disk) (through : Bool) : Nat → Place → List Text → Except Errno Place
  | 0, _, _ => .error .linkLoop
  | links + 1, place, names =>
    match d.walk through place names with
    | .arrived place => .ok place
    | .failed e => .error e
    | .met folder target rest =>
      let p := Path.ofText target
      if target.isEmpty then .error .notFound
      else follow d through links (if p.isAbsolute then [] else folder) (p.names ++ rest)

/-- The place of a path as seen from a folder; there need not be anything there. -/
def find (d : Disk) (through : Bool) (here : Place) (p : Path) : Except Errno Place :=
  if maxPath ≤ (Utf8.encode p.text).length then .error .nameTooLong
  else d.follow through (maxLinks + 1) (if p.isAbsolute then [] else here) p.names

/-- What is at a path. -/
def look (d : Disk) (here : Place) (p : Path) : Except Errno Node := do
  match d.node? (← d.find true here p) with
  | some n => return n
  | none => throw .notFound

/-! ## Making and reading files -/

/-- The bytes of a file. -/
def read (d : Disk) (here : Place) (p : Path) : Except Errno Bytes := do
  match ← d.look here p with
  | .file content => return content
  | _ => throw .isFolder

/-- Write a file, which is made if it is missing. -/
def write (d : Disk) (here : Place) (p : Path) (content : Bytes) : Except Errno Disk := do
  let place ← d.find true here p
  match d.node? place with
  | some .folder => throw .isFolder
  | _ => return d.put place (.file content)

/-- Take away a file or a link. -/
def unlink (d : Disk) (here : Place) (p : Path) : Except Errno Disk := do
  let place ← d.find false here p
  match d.node? place with
  | none => throw .notFound
  | some .folder => throw .isFolder
  | some _ => return d.remove place

/-- Make a folder in a folder that is there. -/
def makeFolder (d : Disk) (here : Place) (p : Path) : Except Errno Disk := do
  let place ← d.find false here p
  match d.node? place with
  | none => return d.put place .folder
  | some _ => throw .alreadyThere

/-- Make the folders on the way to a path, and the path itself, as far as that can be done. -/
def makeFolders (d : Disk) (here : Place) (p : Path) : Disk :=
  (List.range (p.names.length + 1)).foldl
    (fun d n => (d.makeFolder here ⟨p.root, p.names.take n⟩).toOption.getD d) d

/-- Put a file at a path, with the folders on the way, if that can be done. -/
def putFile (d : Disk) (here : Place) (p : Path) (content : Bytes) : Disk :=
  let d := d.makeFolders here p.parent
  (d.write here p content).toOption.getD d

/-- The size of what is at a path in bytes; folders have one size. -/
def size (d : Disk) (here : Place) (p : Path) : Except Errno Nat := do
  match ← d.look here p with
  | .file content => return content.length
  | _ => return 4096

/-! ## Looking around -/

/-- Something is at a path; an error other than its absence is told. -/
def exists? (d : Disk) (here : Place) (p : Path) : Except Errno Bool :=
  match d.look here p with
  | .ok _ => .ok true
  | .error e => if e.meansAbsent then .ok false else .error e

/-- A file is at a path. -/
def isFile? (d : Disk) (here : Place) (p : Path) : Except Errno Bool :=
  match d.look here p with
  | .ok (.file _) => .ok true
  | .ok _ => .ok false
  | .error e => if e.meansAbsent then .ok false else .error e

/-- A folder is at a path. -/
def isFolder? (d : Disk) (here : Place) (p : Path) : Except Errno Bool :=
  match d.look here p with
  | .ok .folder => .ok true
  | .ok _ => .ok false
  | .error e => if e.meansAbsent then .ok false else .error e

theorem walk_arrived {d : Disk} {through : Bool} {place : Place} :
    d.walk through place [] = .arrived place := by
  simp [walk]

end Disk

end MetaDesk
