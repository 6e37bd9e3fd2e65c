import MetaDesk.Bytes.Decoder
import MetaDesk.Host.Basic
import MetaDesk.Settings.Check

/-! # Loading settings

Settings are a document, in a file that is named or that the environment names; without one the
defaults hold. -/

namespace MetaDesk.Settings

/-- Where a document came from, as it is told. -/
def inSource (source : Text) : Text := if source.isEmpty then [] else " in " ++ source

/-- A failure to read settings, which the user cannot mend in the settings themselves. -/
def unreadable (message : Text) (path : Option Text) : Mishap :=
  .failed (.configuration message none path none)

/-- How many levels of a document the settings have. -/
def levels : Nat := 8

/-- Read settings from a document. -/
def parse (source : Text) (document : Text) : Except Mishap Settings :=
  match Yaml.load .whole document with
  | .error (.malformed _) =>
    .error (unreadable ("Invalid YAML syntax" ++ inSource source ++ ": <detail>") none)
  | .error e => .error (.document e)
  | .ok c =>
    match c.unfold levels c.outermost with
    | .atom .null => .ok {}
    | .mapping es =>
      match ofValue (.mapping es) with
      | .ok s => .ok s
      | .error is =>
        .error (unreadable ("Invalid settings" ++ inSource source ++ ": " ++ Issue.textAll is) none)
    | v =>
      let message : Text := "Expected YAML mapping" ++ inSource source ++ ", got " ++ v.kind
      .error (unreadable message none)

/-- Read settings from a file. -/
def loadFile (p : Path) : Act Settings := do
  if !(← Act.pathExists p) then
    throw (unreadable ("Settings file not found: " ++ p.text) (some p.text))
  match Encoding.decode? .utf8 (← Act.bytesOf p) with
  | none => throw .undecodable
  | some t =>
    match parse p.text (Text.unifyBreaks t) with
    | .ok s => return s
    | .error m => throw m

/-- Load settings from a file, or from the one that the environment names. -/
def load (file : Option Text) : Act Settings := do
  match file with
  | some t => loadFile (.ofText t)
  | none =>
    match (← get).config with
    | none => return {}
    | some t => if t.isEmpty then return {} else loadFile (.ofText t)

end MetaDesk.Settings
