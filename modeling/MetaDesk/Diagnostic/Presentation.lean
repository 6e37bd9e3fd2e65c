import MetaDesk.Diagnostic.Store
import MetaDesk.JsonTree

/-! # Diagnostics for an editor

An editor is given each diagnostic with the range of one character and, if it has a code, a page
about the codes. -/

namespace MetaDesk

/-- A tree with named parts. -/
def JsonTree.ofParts (parts : List (String × JsonTree)) : JsonTree :=
  .record (parts.map fun e => (e.1.toList, e.2))

namespace Diagnostic

/-- A place in a file. -/
def placeTree (line column : Int) : JsonTree :=
  .ofParts [("line", .number line), ("character", .number column)]

/-- The code as a link. -/
def codeTree (code : Text) : JsonTree :=
  .ofParts [("value", .text code), ("target", .text docsPage)]

/-- A diagnostic for an editor. -/
def presentation (d : Diagnostic) : JsonTree :=
  let range := JsonTree.ofParts [("start", placeTree d.line d.column),
    ("end", placeTree d.line (d.column + 1))]
  .ofParts ([("range", range), ("message", .text d.message), ("severity", .text d.severity.label)]
    ++ d.shownCode?.toList.map fun code => ("code", codeTree code))

end Diagnostic

/-- The diagnostics of each file for an editor. -/
def ByFile.presentation (groups : ByFile) : JsonTree :=
  .record (groups.map fun g => (g.1, .list (g.2.map Diagnostic.presentation)))

end MetaDesk
