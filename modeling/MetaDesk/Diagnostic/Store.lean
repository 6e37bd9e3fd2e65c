import MetaDesk.Diagnostic.Basic
import MetaDesk.Keyed

/-! # Diagnostics by file

The store holds the diagnostics of each file that has any.  Replacing those of one file leaves the
others alone; a file without diagnostics is not in the store. -/

namespace MetaDesk

/-- Files with their diagnostics. -/
abbrev ByFile := Keyed Text (List Diagnostic)

namespace Diagnostic

/-- Put a diagnostic behind the others of its file. -/
def addTo (groups : ByFile) (d : Diagnostic) : ByFile :=
  groups.put d.file ((groups.get? d.file).getD [] ++ [d])

/-- The diagnostics of each file, in order. -/
def groupByFile (ds : List Diagnostic) : ByFile := ds.foldl addTo []

end Diagnostic

/-- What is known about each file. -/
structure DiagnosticStore where
  byFile : ByFile := []
deriving DecidableEq, Repr

namespace DiagnosticStore

/-- Forget all diagnostics. -/
def clear (_ : DiagnosticStore) : DiagnosticStore := {}

/-- Replace the diagnostics of one file. -/
def replace (s : DiagnosticStore) (file : Text) (ds : List Diagnostic) : DiagnosticStore :=
  if ds.isEmpty then ⟨s.byFile.erase file⟩ else ⟨s.byFile.put file ds⟩

/-- Replace the diagnostics of several files, one after the other. -/
def replaceAll (s : DiagnosticStore) (groups : ByFile) : DiagnosticStore :=
  groups.foldl (fun s g => s.replace g.1 g.2) s

/-- The diagnostics of one file. -/
def get (s : DiagnosticStore) (file : Text) : List Diagnostic := (s.byFile.get? file).getD []

/-- How many diagnostics there are. -/
def size (s : DiagnosticStore) : Nat := (s.byFile.flatMap (·.2)).length

/-- One of them is an error. -/
def hasErrors (s : DiagnosticStore) : Bool := s.byFile.any fun g => g.2.any (·.isError)

theorem get_replace (s : DiagnosticStore) (file file' : Text) (ds : List Diagnostic) :
    (s.replace file ds).get file' = if file' = file then ds else s.get file' := by
  by_cases h : ds.isEmpty
  · rw [List.isEmpty_iff] at h
    by_cases hf : file' = file <;> simp [replace, get, h, hf, Keyed.get?_erase]
  · by_cases hf : file' = file <;> simp [replace, get, h, hf, Keyed.get?_put]

theorem hasErrors_eq_true_iff {s : DiagnosticStore} :
    s.hasErrors = true ↔ ∃ g ∈ s.byFile, ∃ d ∈ g.2, d.severity = .error := by
  simp only [hasErrors, Diagnostic.isError, List.any_eq_true, decide_eq_true_eq]

end DiagnosticStore

end MetaDesk
