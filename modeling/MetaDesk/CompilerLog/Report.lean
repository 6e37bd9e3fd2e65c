import MetaDesk.CompilerLog.Line
import MetaDesk.Diagnostic.Link

/-! # Reading a compiler log

Each line of a log adds a finding: a line to show, a link, a diagnostic, the news that the compile
failed, or none of them.  The report of the log puts the findings together. -/

namespace MetaDesk.CompilerLog

/-- What the compiler was asked for. -/
inductive Mode where
  | check
  | compile
deriving DecidableEq, Repr

/-- What one line says. -/
structure Finding where
  /-- The line to show. -/
  shown : Option Text := none
  /-- A shown text that leads somewhere. -/
  link : Option (Text × Link) := none
  diagnostic : Option Diagnostic := none
  /-- The compile did not succeed. -/
  failed : Bool := false
deriving DecidableEq, Repr

/-- The address of a file. -/
def addressOf (path : Text) : Text := (Path.fileUri? path).getD []

/-- A name that leads to the path at the start of its line. -/
def named (name : Text) (line : Text) : Finding :=
  match leadingPath? line with
  | some path => { shown := some name, link := some (name, ⟨addressOf path, none⟩) }
  | none => {}

/-- A notice. -/
def noticed (line : Text) : Finding :=
  if isSilent line then {}
  else
    match notice? line with
    | none => {}
    | some message =>
      { shown := some message
        link := (leadingPath? line).map fun path => (message, ⟨addressOf path, none⟩) }

/-- The word before a result. -/
def tag (errors warnings : Nat) : Text :=
  if errors != 0 then "Error" else if warnings != 0 then "Warning" else "Done"

/-- The result: a check shows the whole line, a compile its counts. -/
def concluded (mode : Mode) (line : Text) : Except LongNumeral Finding := do
  let errors ← count "error" line
  let warnings ← count "warning" line
  let told : Text := match mode with
    | .check => line
    | .compile => "Result: " ++ (summary? line).getD line
  return { shown := some ("[" ++ tag errors warnings ++ "] " ++ told), failed := errors != 0 }

/-- A place as it is shown. -/
def Placed.text (p : Placed) : Text := "(" ++ p.line ++ "," ++ p.column ++ ")"

/-- A diagnostic with its path, lines and columns of which the log counts from one. -/
def diagnosed (path : Text) (place : Placed) (what : Said) : Except LongNumeral Finding := do
  let path := Text.trim path
  let line ← Text.readNumeral place.line
  let column ← Text.readNumeral place.column
  let shown : Text := what.message ++ " " ++ place.text
  let address : Text := addressOf path ++ "#" ++ place.line ++ "," ++ place.column
  return {
    shown := some shown
    link := some (shown, ⟨address, what.code⟩)
    diagnostic := some ⟨path, line - 1, column - 1, what.severity, what.message, what.code⟩
    failed := what.severity = .error }

/-- A problem, shown only when it has no path. -/
def located (line : Text) : Except LongNumeral Finding :=
  match pathAndPlace? line with
  | none => .ok { shown := some line }
  | some (path, place) =>
    let what := said (Text.trim place.body)
    if isSuppressed what.code what.message then .ok {}
    else
      match path with
      | none => .ok { shown := some (what.message ++ " " ++ place.text) }
      | some path => diagnosed path place what

/-- What a line says. -/
def finding (mode : Mode) (line : Text) : Except LongNumeral Finding :=
  match classify line with
  | .compilingHeader => .ok (((header? line).map (named · line)).getD {})
  | .includeNotice => .ok (((include? line).map (named · line)).getD {})
  | .infoNotice => .ok (noticed line)
  | .resultSummary => concluded mode line
  | .pathDiagnostic => located line
  | .plain => .ok { shown := some line }

/-- The lines of a log that say something, without the blanks around them. -/
def lines (log : Text) : List Text :=
  ((Text.lines (Text.dropMarks log)).map Text.trim).filter fun line => !line.isEmpty

/-- What a log says. -/
structure Report where
  shown : List Text
  diagnostics : List Diagnostic
  links : Links
  hasError : Bool
deriving DecidableEq, Repr

/-- The text to show. -/
def Report.text (r : Report) : Text := r.shown.flatMap (· ++ ['\n'])

/-- The findings of all lines together. -/
def Report.ofFindings (fs : List Finding) : Report where
  shown := fs.filterMap (·.shown)
  diagnostics := fs.filterMap (·.diagnostic)
  links := Keyed.ofList (fs.filterMap (·.link))
  hasError := fs.any (·.failed)

/-- Read a log. -/
def read (mode : Mode) (log : Text) : Except LongNumeral Report :=
  return Report.ofFindings (← (lines log).mapM (finding mode))

end MetaDesk.CompilerLog
