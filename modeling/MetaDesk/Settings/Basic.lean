import MetaDesk.Flavor
import MetaDesk.Numeric.Binary64

/-! # Settings

What can be set: where the compilers and their include folders are, how the compiler is run under
Wine, what log is followed, what becomes of compiler logs, and which main files a header stands
for.  Everything has a default. -/

namespace MetaDesk

/-- The log that is followed. -/
inductive TailMode where
  /-- The log that a program writes itself while it runs. -/
  | live
  /-- The journal of the terminal, one file a day. -/
  | standard
deriving DecidableEq, Repr, Inhabited

namespace TailMode

/-- The name of a mode. -/
def name : TailMode → Text
  | .live => "livelog"
  | .standard => "standard"

/-- The mode with a name. -/
def ofName? (t : Text) : Option TailMode :=
  if t = name .live then some .live else if t = name .standard then some .standard else none

theorem ofName?_name (m : TailMode) : ofName? m.name = some m := by cases m <;> rfl

end TailMode

/-- Where the compilers are. -/
structure CompilerSettings where
  executable4 : Text := []
  executable5 : Text := []
  include4 : Text := []
  include5 : Text := []
  portable4 : Bool := false
  portable5 : Bool := false
deriving DecidableEq, Repr

namespace CompilerSettings

/-- The compiler of a flavor. -/
def executable (s : CompilerSettings) : Flavor → Text
  | .mql4 => s.executable4
  | .mql5 => s.executable5

/-- The include folder of a flavor. -/
def includeFolder (s : CompilerSettings) : Flavor → Text
  | .mql4 => s.include4
  | .mql5 => s.include5

/-- The compiler keeps its data beside itself. -/
def portable (s : CompilerSettings) : Flavor → Bool
  | .mql4 => s.portable4
  | .mql5 => s.portable5

/-- The full name of a setting. -/
def settingName (kind : Text) (f : Flavor) : Text :=
  "metaeditor." ++ kind ++ f.digit ++ "_dir"

end CompilerSettings

/-- How Wine is run. -/
structure WineSettings where
  enabled : Bool := false
  binary : Text := "wine64"
  bottle : Text := []
  timeout : Int := 60000
deriving DecidableEq, Repr

/-- How a log is followed. -/
structure TailSettings where
  mode : TailMode := .live
  /-- Seconds between two looks at the log. -/
  pollInterval : Binary64 := .ofInt 5
deriving DecidableEq, Repr

/-- Which main files a header stands for. -/
structure HeaderSettings where
  /-- Headers with their main files. -/
  saved : List (Text × List Text) := []
  /-- The most files that are looked through for includes. -/
  maxFiles : Int := 5000
deriving DecidableEq, Repr

/-- All settings. -/
structure Settings where
  compilers : CompilerSettings := {}
  wine : WineSettings := {}
  tail : TailSettings := {}
  /-- A compiler log is removed once it is read. -/
  deleteLogs : Bool := false
  headers : HeaderSettings := {}
deriving DecidableEq, Repr

end MetaDesk
