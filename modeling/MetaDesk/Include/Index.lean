import MetaDesk.Bytes.Decoder
import MetaDesk.Include.Directive
import MetaDesk.Include.Lookup
import MetaDesk.Include.Scan
import MetaDesk.Keyed

/-! # The include index

The index of a workspace tells for each included file which sources include it.  A header is
compiled through the main files that include it, directly or through other headers, which
`mainsOf` finds. -/

namespace MetaDesk

/-- Sources by the files that they include. -/
structure IncludeIndex where
  includers : Keyed Text (List Path) := []
deriving DecidableEq, Repr

/-- How a workspace is looked through. -/
structure Workspace where
  folder : Path
  /-- The include folder of the older flavor. -/
  includes4 : Text := []
  /-- The include folder of the newer flavor. -/
  includes5 : Text := []
  /-- The most sources that are read. -/
  most : Int := 5000
deriving DecidableEq, Repr

/-- The path belongs to the older flavor. -/
def Path.isOlder (p : Path) : Bool :=
  Flavor.ofSuffix? p.suffix = some .mql4
    || Text.holds (Flavor.name .mql4) (Text.lower p.text)

/-- The include folder that is set for a source. -/
def Workspace.includesFor (w : Workspace) (source : Path) : Text :=
  if source.isOlder then w.includes4 else w.includes5

namespace IncludeIndex

/-- How many files are included. -/
def size (i : IncludeIndex) : Nat := i.includers.length

/-- The sources that include the file of a key. -/
def ofKey (i : IncludeIndex) (key : Text) : List Path := (i.includers.get? key).getD []

/-- Add that a source includes the file of a key. -/
def add (i : IncludeIndex) (key : Text) (source : Path) : IncludeIndex :=
  let old := i.ofKey key
  ⟨i.includers.put key (if old.contains source then old else old ++ [source])⟩

/-- The keys of the files that the text of a source includes. -/
def keysIn (w : Workspace) (root source : Path) (text : Text) : Act (List Text) := do
  let found ← (Include.names text).mapM fun name =>
    Include.files name source.parent root (w.includesFor source)
  return found.flatten.map Include.keyOf

/-- Add what a source includes; one that cannot be read is passed over. -/
def addSource (w : Workspace) (root : Path) (i : IncludeIndex) (source : Path) :
    Act IncludeIndex := do
  match ← Act.trySystem (Act.bytesOf source) with
  | .error e =>
    Act.warn .including ("Skipping " ++ source.text ++ " while indexing includes: " ++ e.message)
    return i
  | .ok bytes =>
    let text := Text.unifyBreaks (Encoding.decode .utf8 bytes)
    return (← keysIn w root source text).foldl (fun i key => i.add key source) i

/-- The index of a workspace. -/
def build (w : Workspace) : Act IncludeIndex := do
  let root ← Act.resolve w.folder
  let (found, truncated) ← Include.sources root w.most
  let index ← found.foldlM (addSource w root) {}
  Include.noteTruncated root w.most truncated
  return index

/-- The sources that include a file themselves, in the order of their texts. -/
def including (i : IncludeIndex) (p : Path) : List Path :=
  (i.ofKey (Include.keyOf p)).mergeSort fun q r => Text.notAfter q.text r.text

/-- The keys of headers that include the file of a key. -/
def headerKeys (i : IncludeIndex) (key : Text) : List Text :=
  ((i.ofKey key).filter fun p => Flavor.isHeader p.suffix).map Include.keyOf

/-- The known keys and those of headers that include them, directly or through at most so many
others. -/
def reach (i : IncludeIndex) : Nat → List Text → List Text
  | 0, known => known
  | steps + 1, known =>
    let new := ((known.flatMap i.headerKeys).filter fun key => !known.contains key).eraseDups
    if new.isEmpty then known else reach i steps (known ++ new)

/-- The keys of a file and of the headers that include it in any way. -/
def reachOf (i : IncludeIndex) (p : Path) : List Text :=
  i.reach (i.includers.length + 1) [Include.keyOf p]

/-- The main files that include a header in any way, in order. -/
def mainsOf (i : IncludeIndex) (header : Path) : List Path :=
  let found := (i.reachOf header).flatMap i.ofKey
  let mains := found.filter fun p => (Flavor.ofSuffix? p.suffix).isSome
  mains.eraseDups.mergeSort Path.notAfter

end IncludeIndex

end MetaDesk
