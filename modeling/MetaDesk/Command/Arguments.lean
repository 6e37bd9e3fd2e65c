import MetaDesk.Command.Grammar
import MetaDesk.CompilerLog.Report
import MetaDesk.Flavor
import MetaDesk.Numeric.Written
import MetaDesk.Settings.Basic

/-! # What a command line asks for

A command line names settings and a workspace, and then a command with arguments of its own.  Each
part is read as soon as it is met, so the first part that is wrong is the one that is told.  What
the command leaves over counts as left over by the whole line. -/

namespace MetaDesk.Command

/-! ## Requests -/

/-- Sources to compile. -/
structure CompileRequest where
  paths : List Text := []
  /-- The flavor of headers that are compiled themselves. -/
  headerFlavor : Option Flavor := none
  /-- The diagnostics are printed in the end. -/
  asJson : Bool := false
deriving DecidableEq, Repr

/-- A log to follow. -/
structure TailRequest where
  mode : Option TailMode := none
  flavor : Option Flavor := none
  activeFile : Text := []
  /-- How long to follow it, in seconds. -/
  duration : Option Binary64 := none
deriving DecidableEq, Repr

/-- Words to find the functions for that they are close to. -/
structure SuggestRequest where
  words : List Text := []
  /-- The largest distance. -/
  most : Int := 2
  /-- How many functions are shown for a word. -/
  count : Int := 3
deriving DecidableEq, Repr

/-- What a command is to do. -/
inductive Request where
  | compile (mode : CompilerLog.Mode) (r : CompileRequest)
  | tail (r : TailRequest)
  | suggest (r : SuggestRequest)
  /-- Look at the setup of Wine. -/
  | shimCheck (f : Flavor)
deriving DecidableEq, Repr

/-- What a command line asks for. -/
structure Invocation where
  /-- The settings file. -/
  config : Option Text := none
  /-- The workspace folder; none is given by an empty text. -/
  workspace : Text := []
  /-- Without a request there is only help. -/
  request : Option Request := none
deriving DecidableEq, Repr

/-! ## Readers -/

/-- An option, with what its value does to a request. -/
structure Setter (σ : Type) where
  option : OptionRule
  set : Text → σ → Except Misuse σ

/-- The option that asks for help. -/
def helpOption : OptionRule := ⟨["-h", "--help"], false⟩

/-- How the arguments of a program are read. -/
structure Reader (σ : Type) where
  program : Text
  setters : List (Setter σ)
  operands : Operands := .nothing
  /-- What the operands do to a request. -/
  take : List Text → σ → Except Stop σ := fun _ s => .ok s

namespace Reader

variable {σ : Type}

/-- The grammar of the arguments. -/
def grammar (r : Reader σ) : Grammar :=
  ⟨r.program, helpOption :: r.setters.map Setter.option, r.operands⟩

/-- What a part of the command line does to a request. -/
def apply (r : Reader σ) (s : σ) : Given → Except Stop σ
  | .operands ts => r.take ts s
  | .option o value =>
    if o = helpOption then throw (.help r.grammar)
    else
      match r.setters.find? fun e => e.option = o with
      | some e => (e.set (value.getD []) s).mapError (.misuse r.grammar)
      | none => return s

/-- Read arguments; what means nothing is left over. -/
def read (r : Reader σ) (start : σ) (args : List Text) : Except Stop (σ × List Text) :=
  r.grammar.parse r.apply start args

end Reader

/-! ## Values -/

namespace Setter

variable {σ : Type}

/-- An option without a value. -/
def switch (names : List Text) (set : σ → σ) : Setter σ :=
  ⟨⟨names, false⟩, fun _ s => .ok (set s)⟩

/-- An option whose value is any text. -/
def text (name : Text) (set : Text → σ → σ) : Setter σ :=
  ⟨⟨[name], true⟩, fun value s => .ok (set value s)⟩

/-- An option whose value is one of some names. -/
def choice {α : Type} (name : Text) (choices : List (Text × α)) (set : α → σ → σ) : Setter σ :=
  ⟨⟨[name], true⟩, fun value s =>
    match choices.lookup value with
    | some a => .ok (set a s)
    | none => .error (.badChoice name value (choices.map (·.1)))⟩

/-- An option whose value is read, and has a kind that is told when it cannot be. -/
def number {α : Type} (name kind : Text) (read? : Text → Option α) (set : α → σ → σ) : Setter σ :=
  ⟨⟨[name], true⟩, fun value s =>
    match read? value with
    | some a => .ok (set a s)
    | none => .error (.badValue name kind value)⟩

end Setter

/-- Flavors by name. -/
def flavors : List (Text × Flavor) := [Flavor.mql4, .mql5].map fun f => (f.name, f)

/-- Modes of tailing by name. -/
def tailModes : List (Text × TailMode) := [TailMode.live, .standard].map fun m => (m.name, m)

/-- A whole number that is written in decimal. -/
def wholeNumber? (t : Text) : Option Int := (readInteger 10 t).toOption

/-! ## Commands -/

/-- The program as it is called. -/
def programName : Text := "mql-tools"

/-- A command as it is called. -/
def commandName (name : Text) : Text := programName ++ ' ' :: name

/-- How the arguments of compiling and checking are read. -/
def compileReader (name : Text) : Reader CompileRequest where
  program := commandName name
  setters := [
    .choice "--header-flavor" flavors fun f r => { r with headerFlavor := some f },
    .switch ["--json"] fun r => { r with asJson := true }]
  operands := .words "paths"
  take := fun ts r => .ok { r with paths := ts }

/-- How the arguments of tailing are read. -/
def tailReader : Reader TailRequest where
  program := commandName "tail"
  setters := [
    .choice "--mode" tailModes fun m r => { r with mode := some m },
    .choice "--flavor" flavors fun f r => { r with flavor := some f },
    .text "--active-file" fun t r => { r with activeFile := t },
    .number "--duration" "float" Binary64.read? fun n r => { r with duration := some n }]

/-- How the arguments of suggesting are read. -/
def suggestReader : Reader SuggestRequest where
  program := commandName "suggest"
  setters := [
    .number "--max-distance" "int" wholeNumber? fun n r => { r with most := n },
    .number "--max-results" "int" wholeNumber? fun n r => { r with count := n }]
  operands := .words "identifiers"
  take := fun ts r => .ok { r with words := ts }

/-- How the arguments of a look at the setup are read. -/
def shimCheckReader : Reader Flavor where
  program := commandName "shim-check"
  setters := [.choice "--flavor" flavors fun f _ => f]

/-- Read the arguments of a command. -/
def readWith {σ : Type} (r : Reader σ) (start : σ) (request : σ → Request) (args : List Text) :
    Except Stop (Request × List Text) := do
  let (s, extras) ← r.read start args
  return (request s, extras)

/-- The commands, with how their arguments are read. -/
def commands : List (Text × (List Text → Except Stop (Request × List Text))) := [
  ("compile", readWith (compileReader "compile") {} (.compile .compile)),
  ("check", readWith (compileReader "check") {} (.compile .check)),
  ("tail", readWith tailReader {} .tail),
  ("suggest", readWith suggestReader {} .suggest),
  ("shim-check", readWith shimCheckReader .mql5 .shimCheck)]

/-! ## The whole line -/

/-- How the options before a command are read. -/
def settersBefore : List (Setter (Invocation × List Text)) := [
  .text "--config" fun t s => ({ s.1 with config := some t }, s.2),
  .text "--workspace" fun t s => ({ s.1 with workspace := t }, s.2),
  .switch ["-v", "--verbose"] id]

/-- The names of the commands. -/
def commandNames : List Text := commands.map (·.1)

/-- How a command line is read, as far as the operands are only taken apart. -/
def outline : Reader (Invocation × List Text) where
  program := programName
  setters := settersBefore
  operands := .command "command" commandNames

/-- Read a command with its arguments; what it leaves over is kept apart. -/
def readCommand (words : List Text) (s : Invocation × List Text) :
    Except Stop (Invocation × List Text) := do
  let name := words.head?.getD []
  match commands.lookup name with
  | none => throw (.misuse outline.grammar (.badChoice "command" name commandNames))
  | some read =>
    let (request, extras) ← read (words.drop 1)
    return ({ s.1 with request := some request }, s.2 ++ extras)

/-- What a command line asks for. -/
def Invocation.ofArgs (args : List Text) : Except Stop Invocation := do
  let ((found, inner), outer) ← { outline with take := readCommand }.read ({}, []) args
  match outer ++ inner with
  | [] => return found
  | extras => throw (.misuse outline.grammar (.unrecognized extras))

end MetaDesk.Command
