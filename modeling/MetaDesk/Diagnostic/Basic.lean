import MetaDesk.Text.Basic

/-! # Diagnostics

A diagnostic is a problem that the compiler reports at a place in a file.  Lines and columns count
from zero. -/

namespace MetaDesk

/-- How bad a problem is. -/
inductive Severity where
  | error
  | warning
deriving DecidableEq, Repr

/-- The word for it. -/
def Severity.label : Severity → Text
  | .error => "error"
  | .warning => "warning"

/-- A problem at a place in a file. -/
structure Diagnostic where
  file : Text
  line : Int
  column : Int
  severity : Severity
  message : Text
  /-- The number that the compiler gives this kind of problem. -/
  code : Option Text
deriving DecidableEq, Repr

namespace Diagnostic

/-- The problem is an error. -/
def isError (d : Diagnostic) : Bool := d.severity = .error

/-- The page about the codes. -/
def docsPage : Text := "https://www.mql5.com/en/docs/runtime/errors"

/-- The code as it is shown; an empty one counts as none. -/
def shownCode? (d : Diagnostic) : Option Text :=
  match d.code with
  | none => none
  | some [] => none
  | some code => some ("MQL" ++ code)

end Diagnostic

end MetaDesk
