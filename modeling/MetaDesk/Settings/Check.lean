import MetaDesk.Settings.Basic
import MetaDesk.Yaml.Build

/-! # Checking settings

Settings come as a mapping of sections, each of which is a mapping of settings.  `ofValue` reads
them, or lists everything that is wrong: section by section and setting by setting in the order in
which they are declared, and in each section names that it does not have at the end.  A value of
another kind is taken where it clearly says what is meant, such as a number written as text. -/

namespace MetaDesk

open Yaml (Atom Value)

/-- What can be wrong with a setting. -/
inductive Trouble where
  | notText
  | badBytes
  | tooShort
  | notTruth
  | unclearTruth
  | notInteger
  | unclearInteger
  | fractional
  | notFinite
  | tooLarge
  | notNumber
  | unclearNumber
  | notPositive
  | notMode
  | notMapping
  | notSection (kind : Text)
  | notList
  | unknownName
  | notName
deriving DecidableEq, Repr

/-- What is said about it. -/
def Trouble.message : Trouble → Text
  | .notText => "Input should be a valid string"
  | .badBytes => "Input should be a valid string, unable to parse raw data as a unicode string"
  | .tooShort => "String should have at least 1 character"
  | .notTruth => "Input should be a valid boolean"
  | .unclearTruth => "Input should be a valid boolean, unable to interpret input"
  | .notInteger => "Input should be a valid integer"
  | .unclearInteger => "Input should be a valid integer, unable to parse string as an integer"
  | .fractional => "Input should be a valid integer, got a number with a fractional part"
  | .notFinite => "Input should be a finite number"
  | .tooLarge => "Unable to parse input string as an integer, exceeded maximum size"
  | .notNumber => "Input should be a valid number"
  | .unclearNumber => "Input should be a valid number, unable to parse string as a number"
  | .notPositive => "Input should be greater than 0"
  | .notMode => "Input should be 'livelog' or 'standard'"
  | .notMapping => "Input should be a valid dictionary"
  | .notSection kind => "Input should be a valid dictionary or instance of " ++ kind
  | .notList => "Input should be a valid list"
  | .unknownName => "Extra inputs are not permitted"
  | .notName => "Keys should be strings"

/-- Something wrong, and where. -/
structure Issue where
  place : List Text
  trouble : Trouble
deriving DecidableEq, Repr

namespace Issue

/-- The issue as it is told. -/
def text (i : Issue) : Text := Text.joinWith ['.'] i.place ++ ": " ++ i.trouble.message

/-- Several issues as they are told. -/
def textAll (is : List Issue) : Text := Text.joinWith "; " (is.map text)

/-- The issue seen from outside the part `name`. -/
def under (name : Text) (i : Issue) : Issue := { i with place := name :: i.place }

end Issue

/-- A part of the settings, or what is wrong with it. -/
abbrev Checked (α : Type) := Except (List Issue) α

namespace Checked

/-- One thing is wrong with the part itself. -/
def fail {α : Type} (t : Trouble) : Checked α := .error [⟨[], t⟩]

/-- What is wrong with a part. -/
def issues {α : Type} : Checked α → List Issue
  | .ok _ => []
  | .error is => is

/-- The part is called `name`. -/
def under {α : Type} (name : Text) : Checked α → Checked α
  | .ok a => .ok a
  | .error is => .error (is.map (Issue.under name))

/-- A function and its argument; what is wrong with either. -/
def apply {α β : Type} (f : Checked (α → β)) (a : Checked α) : Checked β :=
  match f, a with
  | .ok f, .ok a => .ok (f a)
  | f, a => .error (f.issues ++ a.issues)

end Checked

namespace Settings

/-- The text of a value; bytes count when they are text. -/
def readText : Value → Checked Text
  | .atom (.text t) => .ok t
  | .atom (.bytes b) =>
    match Encoding.decode? .utf8 b with
    | some t => .ok t
    | none => .fail .badBytes
  | _ => .fail .notText

/-- A text of at least one character. -/
def readSomeText (v : Value) : Checked Text := do
  let t ← readText v
  if t.isEmpty then Checked.fail .tooShort else return t

/-- The text of a value that may be something else, and what is wrong with bytes. -/
def textIn? (unclear : Trouble) : Value → Option (Checked Text)
  | .atom (.text t) => some (.ok t)
  | .atom (.bytes b) =>
    match Encoding.decode? .utf8 b with
    | some t => some (.ok t)
    | none => some (.fail unclear)
  | _ => none

/-- A number fits into sixty-four bits. -/
def isWord (n : Int) : Bool := -0x8000000000000000 ≤ n && n < 0x8000000000000000

/-- A number fits into sixty-four bits and is not the least one that does. -/
def isInnerWord (n : Int) : Bool := isWord n && isWord (n - 1)

/-- Words for true and false. -/
def truthOfText? (t : Text) : Option Bool :=
  let t := t.map Char.toLower
  let among (words : List String) : Bool := words.any fun w => t = w.toList
  if among ["0", "off", "f", "false", "n", "no"] then some false
  else if among ["1", "on", "t", "true", "y", "yes"] then some true
  else none

/-- The truth value of a number. -/
def truthOfNumber (n : Int) : Checked Bool :=
  if n = 0 then .ok false else if n = 1 then .ok true else .fail .unclearTruth

/-- A truth value. -/
def readTruth (v : Value) : Checked Bool :=
  match v with
  | .atom (.truth b) => .ok b
  | .atom (.integer n) => if isWord n then truthOfNumber n else .fail .notTruth
  | .atom (.real x) =>
    match x.toInt? with
    | some n => if isInnerWord n then truthOfNumber n else .fail .notTruth
    | none => .fail .notTruth
  | v =>
    match textIn? .unclearTruth v with
    | some t => do
      match truthOfText? (← t) with
      | some b => return b
      | none => Checked.fail .unclearTruth
    | none => .fail .notTruth

/-- White space around a number in a setting. -/
def isGap (c : Char) : Bool := Text.isBlank c && !(0x1C ≤ c.toNat && c.toNat ≤ 0x1F)

/-- The text without white space around it. -/
def withoutGaps (t : Text) : Text := ((t.dropWhile isGap).reverse.dropWhile isGap).reverse

/-- The number without underscores, none of which may stand at an end or beside another one. -/
def withoutMarks? (t : Text) : Option Text :=
  if t.head? = some '_' || t.getLast? = some '_' || Text.holds "__" t then none
  else some (t.filter (· != '_'))

/-- The number without zeros before it; the last of them stays if nothing else is before a point. -/
def withoutZeros (t : Text) : Text :=
  if t.head? = some '0' then
    let zeros := t.takeWhile fun c => c = '0' || c = '_'
    let rest := t.drop zeros.length
    if rest.isEmpty || rest.head? = some '.' then zeros.drop (zeros.length - 1) ++ rest else rest
  else t

/-- The sign of a number, and what follows it. -/
def splitSign? : Text → Option (Bool × Text)
  | '+' :: '-' :: _ => none
  | '+' :: t => some (false, t)
  | '-' :: t => some (true, t)
  | t => some (false, t)

/-- The number without a point and zeros after it, of which there has to be one. -/
def withoutPoint? (t : Text) : Option Text :=
  let whole := t.takeWhile (· != '.')
  let fraction := t.drop (whole.length + 1)
  if whole.length = t.length then some t
  else if !fraction.isEmpty && fraction.all (· = '0') then some whole else none

/-- The whole number that digits write. -/
def plainNumber? (t : Text) : Option Nat := if t.isEmpty then none else Text.basedNumber? 10 t

/-- The text starts with a number, perhaps after a minus sign, that is too long to be read. -/
def isEndless (t : Text) : Bool :=
  let sign := if t.head? = some '-' then 1 else 0
  let digits := (t.drop sign).takeWhile Char.isDigit
  (t.drop sign).head? != some '0' && Text.maxDigits < sign + digits.length

/-- The whole number that a text writes; zeros may follow its point. -/
def integerOfText (t : Text) : Checked Int :=
  if isEndless t then .fail .tooLarge
  else
    let n? : Option Int := do
      let signed ← splitSign? (withoutGaps t)
      let digits ← withoutMarks? (← withoutPoint? (withoutZeros signed.2))
      let sign := if signed.1 then 1 else 0
      if Text.maxDigits < sign + digits.length then none
      else
        let n ← plainNumber? digits
        return if signed.1 then -(n : Int) else n
    match n? with
    | some n => .ok n
    | none => .fail .unclearInteger

/-- A whole number. -/
def readInteger (v : Value) : Checked Int :=
  match v with
  | .atom (.integer n) => .ok n
  | .atom (.truth b) => .ok (if b then 1 else 0)
  | .atom (.real (.finite s m e)) =>
    match (Binary64.finite s m e).toInt? with
    | some n => if isInnerWord n then .ok n else .fail .tooLarge
    | none => .fail .fractional
  | .atom (.real _) => .fail .notFinite
  | .atom .undefined => .fail .notFinite
  | v =>
    match textIn? .unclearInteger v with
    | some t => do integerOfText (← t)
    | none => .fail .notInteger

/-- A whole number above zero. -/
def readCount (v : Value) : Checked Int := do
  let n ← readInteger v
  if 0 < n then return n else Checked.fail .notPositive

/-- The number that a text writes, with white space around it or with underscores inside. -/
def numberOfText? (t : Text) : Option Binary64 :=
  match Binary64.readBare? (withoutGaps t) with
  | some x => some x
  | none => if t.contains '_' then (withoutMarks? t).bind Binary64.readBare? else none

/-- A number. -/
def readNumber (v : Value) : Checked Binary64 :=
  match v with
  | .atom (.real x) => .ok x
  | .atom .undefined => .ok .notANumber
  | .atom (.truth b) => .ok (.ofInt (if b then 1 else 0))
  | .atom (.integer n) =>
    match Binary64.ofInt n with
    | .finite s m e => .ok (.finite s m e)
    | _ => .fail .notNumber
  | v =>
    match textIn? .unclearNumber v with
    | some t => do
      match numberOfText? (← t) with
      | some x => return x
      | none => Checked.fail .unclearNumber
    | none => .fail .notNumber

/-- A number above zero. -/
def readLapse (v : Value) : Checked Binary64 := do
  let x ← readNumber v
  if x.isPositive then return x else Checked.fail .notPositive

/-- A mode of tailing. -/
def readMode (v : Value) : Checked TailMode :=
  match readText v with
  | .ok t =>
    match TailMode.ofName? t with
    | some m => .ok m
    | none => .fail .notMode
  | .error _ => .fail .notMode

/-- Items of a list, each under its number. -/
def readItems : Nat → List Value → Checked (List Text)
  | _, [] => .ok []
  | n, v :: vs =>
    Checked.apply (Checked.apply (.ok List.cons) (Checked.under (Text.ofNat n) (readText v)))
      (readItems (n + 1) vs)

/-- A list of texts. -/
def readList : Value → Checked (List Text)
  | .list vs => readItems 0 vs
  | .set vs => readItems 0 vs
  | _ => .fail .notList

/-- The name of a key in a place. -/
def keyText (k : Value) : Text :=
  match k with
  | .atom (.text t) => t
  | .atom (.truth b) => if b then "1" else "0"
  | .atom a => if a.isWritable then a.coded else "<unprintable int object>"
  | _ => []

/-- Entries of a mapping of lists. -/
def readEntries : List (Value × Value) → Checked (Keyed Text (List Text))
  | [] => .ok []
  | (k, v) :: rest =>
    let name := keyText k
    let entry := Checked.apply
      (Checked.apply (.ok Prod.mk) (Checked.under name (Checked.under "[key]" (readText k))))
      (Checked.under name (readList v))
    Checked.apply (Checked.apply (.ok List.cons) entry) (readEntries rest)

/-- A mapping of lists. -/
def readMapping : Value → Checked (Keyed Text (List Text))
  | .mapping es => (readEntries es).map Keyed.ofList
  | _ => .fail .notMapping

/-! ## Sections -/

/-- The value of a name in a section. -/
def lookUp (es : List (Value × Value)) (name : Text) : Option Value :=
  (es.find? fun e => e.1.isText name).map (·.2)

/-- A setting, or its default when it is not set. -/
def setting {α : Type} (es : List (Value × Value)) (name : Text) (default : α)
    (read : Value → Checked α) : Checked α :=
  match lookUp es name with
  | none => .ok default
  | some v => Checked.under name (read v)

/-- What is wrong with a name that a section does not have. -/
def strayIssue (names : List Text) (k : Value) : Option Issue :=
  match k with
  | .atom (.text t) => if names.contains t then none else some ⟨[t], .unknownName⟩
  | k => some ⟨[keyText k], .notName⟩

/-- The section has names that it should not have. -/
def checkNames (names : List Text) (es : List (Value × Value)) : Checked Unit :=
  match es.filterMap fun e => strayIssue names e.1 with
  | [] => .ok ()
  | is => .error is

/-- A section with the given names. -/
def readSection {α : Type} (kind : Text) (names : List Text)
    (read : List (Value × Value) → Checked α) : Value → Checked α
  | .mapping es =>
    Checked.apply (Checked.apply (.ok fun a _ => a) (read es)) (checkNames names es)
  | _ => .fail (.notSection kind)

/-- The section about the compilers. -/
def readCompilers : Value → Checked CompilerSettings :=
  readSection "MetaEditorSettings"
    ["metaeditor4_dir", "metaeditor5_dir", "include4_dir", "include5_dir", "portable4", "portable5"]
    fun es =>
      .apply (.apply (.apply (.apply (.apply (.apply (.ok CompilerSettings.mk)
        (setting es "metaeditor4_dir" [] readText))
        (setting es "metaeditor5_dir" [] readText))
        (setting es "include4_dir" [] readText))
        (setting es "include5_dir" [] readText))
        (setting es "portable4" false readTruth))
        (setting es "portable5" false readTruth)

/-- The section about Wine. -/
def readWine : Value → Checked WineSettings :=
  readSection "ShimSettings" ["enabled", "binary", "prefix", "timeout_ms"] fun es =>
    .apply (.apply (.apply (.apply (.ok WineSettings.mk)
      (setting es "enabled" false readTruth))
      (setting es "binary" "wine64" readSomeText))
      (setting es "prefix" [] readText))
      (setting es "timeout_ms" 60000 readCount)

/-- The section about logs that are followed. -/
def readTail : Value → Checked TailSettings :=
  readSection "TailerSettings" ["mode", "poll_interval_s"] fun es =>
    .apply (.apply (.ok TailSettings.mk)
      (setting es "mode" .live readMode))
      (setting es "poll_interval_s" (.ofInt 5) readLapse)

/-- The section about compiler logs. -/
def readLogFile : Value → Checked Bool :=
  readSection "LogFileSettings" ["delete_after_read"] fun es =>
    setting es "delete_after_read" false readTruth

/-- The section about headers. -/
def readHeaders : Value → Checked HeaderSettings :=
  readSection "CompileTargetSettings" ["map", "infer_max_files"] fun es =>
    .apply (.apply (.ok HeaderSettings.mk)
      (setting es "map" [] readMapping))
      (setting es "infer_max_files" 5000 readCount)

/-- All settings. -/
def ofValue : Value → Checked Settings :=
  readSection "ToolingSettings" ["metaeditor", "shim", "tailer", "log_file", "compile_target"]
    fun es =>
      .apply (.apply (.apply (.apply (.apply (.ok Settings.mk)
        (setting es "metaeditor" {} readCompilers))
        (setting es "shim" {} readWine))
        (setting es "tailer" {} readTail))
        (setting es "log_file" false readLogFile))
        (setting es "compile_target" {} readHeaders)

end Settings

end MetaDesk
