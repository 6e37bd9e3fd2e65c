import MetaDesk.Text.Digit
import MetaDesk.Text.Quoted

/-! # Grammars of command lines

A command line is made of options and operands.  Options may be shortened as long as it is clear
which one is meant, short options may stand together behind one dash, and a value may follow its
option after an equals sign or as the next word.  After two dashes there are only operands. -/

namespace MetaDesk.Command

/-- An option. -/
structure OptionRule where
  names : List Text
  takesValue : Bool := true
deriving DecidableEq, Repr

/-- The name by which an option is known. -/
def OptionRule.key (o : OptionRule) : Text := o.names.getLast?.getD []

/-- What stands beside the options. -/
inductive Operands where
  | nothing
  /-- One or more words. -/
  | words (name : Text)
  /-- A command and everything after it. -/
  | command (name : Text) (choices : List Text)
deriving DecidableEq, Repr

/-- What a program understands. -/
structure Grammar where
  program : Text
  options : List OptionRule
  operands : Operands := .nothing
deriving DecidableEq, Repr

/-! ## What can be wrong -/

/-- What is wrong with a command line. -/
inductive Misuse where
  | ambiguous (word : Text) (names : List Text)
  | noValue (option : Text)
  /-- A value for an option that takes none. -/
  | strayValue (option value : Text)
  | badValue (option kind value : Text)
  | badChoice (argument value : Text) (choices : List Text)
  | missing (argument : Text)
  | unrecognized (words : List Text)
deriving DecidableEq, Repr

/-- Why nothing is done. -/
inductive Stop where
  /-- Help was asked for. -/
  | help (g : Grammar)
  | misuse (g : Grammar) (m : Misuse)
deriving DecidableEq, Repr

/-- Texts with commas between them. -/
def listed (ts : List Text) : Text := Text.joinWith ", " ts

/-- What is said about a misuse. -/
def Misuse.message : Misuse → Text
  | .ambiguous word names => "ambiguous option: " ++ word ++ " could match " ++ listed names
  | .noValue o => "argument " ++ o ++ ": expected one argument"
  | .strayValue o v => "argument " ++ o ++ ": ignored explicit argument " ++ Text.quoted v
  | .badValue o kind v => "argument " ++ o ++ ": invalid " ++ kind ++ " value: " ++ Text.quoted v
  | .badChoice a v choices =>
    "argument " ++ a ++ ": invalid choice: " ++ Text.quoted v ++ " (choose from "
      ++ listed (choices.map Text.quoted) ++ ")"
  | .missing a => "the following arguments are required: " ++ a
  | .unrecognized words => "unrecognized arguments: " ++ Text.joinWith [' '] words

/-- All names of an option. -/
def OptionRule.title (o : OptionRule) : Text := Text.joinWith ['/'] o.names

/-! ## Words -/

/-- An option that a word may mean. -/
structure Reading where
  option : OptionRule
  name : Text
  /-- What is written in one word with its name. -/
  joined : Option Text
deriving DecidableEq, Repr

/-- What a word is. -/
inductive Word where
  | operand (t : Text)
  /-- The two dashes after which there are only operands. -/
  | separator
  /-- An option, which may be unknown. -/
  | flag (t : Text) (reading : Option Reading)
deriving DecidableEq, Repr

/-- The two dashes. -/
def separatorText : Text := "--"

namespace Word

/-- The word as it was written. -/
def text : Word → Text
  | .operand t => t
  | .separator => separatorText
  | .flag t _ => t

/-- The word is an option. -/
def isFlag : Word → Bool
  | .flag _ _ => true
  | _ => false

/-- The word is an operand. -/
def isOperand : Word → Bool
  | .operand _ => true
  | _ => false

end Word

namespace Grammar

/-- All names of options, each with its option. -/
def names (g : Grammar) : List (Text × OptionRule) :=
  g.options.flatMap fun o => o.names.map fun name => (name, o)

/-- The option with a name. -/
def option? (g : Grammar) (name : Text) : Option OptionRule := g.names.lookup name

/-- The parts of a word before and after its first equals sign. -/
def splitValue (t : Text) : Text × Option Text :=
  let name := t.takeWhile (· != '=')
  match t.drop name.length with
  | [] => (name, none)
  | _ :: value => (name, some value)

/-- The options that a word with two dashes may be short for. -/
def longReadings (g : Grammar) (t : Text) : List Reading :=
  let (start, joined) := splitValue t
  (g.names.filter fun e => start.isPrefixOf e.1).map fun e => ⟨e.2, e.1, joined⟩

/-- The options that a word with one dash may mean. -/
def shortReadings (g : Grammar) (t : Text) : List Reading :=
  g.names.filterMap fun e =>
    if e.1 = t.take 2 then some ⟨e.2, e.1, some (t.drop 2)⟩
    else if t.isPrefixOf e.1 then some ⟨e.2, e.1, none⟩ else none

/-- The word is a number below zero, perhaps with a line break behind it. -/
def isNegative (t : Text) : Bool :=
  let t := t.drop 1
  let t := if t.getLast? = some '\n' then t.dropLast else t
  let whole := t.takeWhile Text.isDigit
  match t.drop whole.length with
  | [] => !whole.isEmpty
  | '.' :: digits => !digits.isEmpty && digits.all Text.isDigit
  | _ => false

/-- What a word with a dash is that is not simply the name of an option. -/
def readDashed (g : Grammar) (t : Text) : Except Misuse Word :=
  let (name, joined) := splitValue t
  match joined, g.option? name with
  | some value, some o => .ok (.flag t (some ⟨o, name, some value⟩))
  | _, _ =>
    match if separatorText.isPrefixOf t then g.longReadings t else g.shortReadings t with
    | [r] => .ok (.flag t (some r))
    | [] => .ok (if isNegative t || t.contains ' ' then .operand t else .flag t none)
    | rs => .error (.ambiguous t (rs.map (·.name)))

/-- What a word is. -/
def readWord (g : Grammar) (t : Text) : Except Misuse Word :=
  if t.head? != some '-' then .ok (.operand t)
  else
    match g.option? t with
    | some o => .ok (.flag t (some ⟨o, t, none⟩))
    | none => if t.length = 1 then .ok (.operand t) else g.readDashed t

/-- What the words of a command line are. -/
def readWords (g : Grammar) : List Text → Except Misuse (List Word)
  | [] => .ok []
  | t :: rest =>
    if t = separatorText then .ok (.separator :: rest.map .operand)
    else do
      let word ← g.readWord t
      return word :: (← g.readWords rest)

end Grammar

/-! ## Arguments -/

/-- A part of a command line. -/
inductive Given where
  | option (o : OptionRule) (value : Option Text)
  | operands (ts : List Text)
deriving DecidableEq, Repr

/-- The options that one word gives. -/
structure Bundle where
  given : List Given := []
  /-- An option whose value, if it takes one, is the next word. -/
  last : Option OptionRule := none
deriving DecidableEq, Repr

namespace Grammar

/-- Take a word with a joined value apart: the value of its option, or more short options.  An
equals sign between the first short option and the others does not matter. -/
def unbundle (g : Grammar) (o : OptionRule) (name value : Text) : Except Misuse Bundle :=
  if o.takesValue then .ok { given := [.option o (some value)] }
  else if separatorText.isPrefixOf name then .error (.strayValue o.title value)
  else more o value
where
  /-- More short options after one that takes no value. -/
  more (o : OptionRule) : Text → Except Misuse Bundle
    | [] => .error (.strayValue o.title [])
    | c :: rest =>
      match g.option? ['-', c] with
      | none => .error (.strayValue o.title (c :: rest))
      | some next =>
        if rest.isEmpty then .ok { given := [.option o none], last := some next }
        else if next.takesValue then
          .ok { given := [.option o none, .option next (some rest)] }
        else (more next rest).map fun b => { b with given := .option o none :: b.given }

/-- The option of a word, with the words after it. -/
def takeOption (g : Grammar) (r : Reading) (rest : List Word) :
    Except Misuse (Bundle × List Word) := do
  let bundle ← match r.joined with
    | none => pure { last := some r.option }
    | some value => g.unbundle r.option r.name value
  match bundle.last with
  | none => return (bundle, rest)
  | some o =>
    if !o.takesValue then
      return ({ bundle with given := bundle.given ++ [.option o none] }, rest)
    match rest with
    | .operand v :: rest =>
      return ({ bundle with given := bundle.given ++ [.option o (some v)] }, rest)
    | _ => throw (.noValue o.title)

/-- The operands at the start of words, if there are enough, and the words after them. -/
def takeOperands (operands : Operands) (words : List Word) : Option (List Text × List Word) :=
  match operands with
  | .nothing => none
  | .words _ =>
    let span := words.takeWhile fun w => !w.isFlag
    if span.any Word.isOperand then
      some ((span.erase .separator).map Word.text, words.drop span.length)
    else none
  | .command _ _ =>
    match words.dropWhile (· = .separator) with
    | .operand _ :: _ => some (words.map Word.text, [])
    | _ => none

/-- What has been made of a command line. -/
structure Progress (σ : Type) where
  state : σ
  /-- The operands are still to come. -/
  isOpen : Bool := true
  /-- Words that mean nothing. -/
  extras : List Text := []

variable {σ : Type}

/-- Take the operands at the start of words, if they are still to come. -/
def operandsAt (g : Grammar) (p : Progress σ) (words : List Word) :
    Option (List Text × List Word) :=
  if p.isOpen then takeOperands g.operands words else none

/-- Go through words up to the last option, each step taking at least one word. -/
def walk (g : Grammar) (act : σ → Given → Except Stop σ) :
    Nat → Progress σ → List Word → Except Stop (Progress σ)
  | 0, p, _ => .ok p
  | fuel + 1, p, words =>
    let lead := words.takeWhile fun w => !w.isFlag
    let taken := if lead.isEmpty then none else g.operandsAt p words
    match taken with
    | some (ts, rest) => do
      let state ← act p.state (.operands ts)
      walk g act fuel { p with state := state, isOpen := false } rest
    | none =>
      let p := { p with extras := p.extras ++ lead.map Word.text }
      match words.drop lead.length with
      | .flag t none :: rest => walk g act fuel { p with extras := p.extras ++ [t] } rest
      | .flag _ (some r) :: rest => do
        let (bundle, rest) ← (g.takeOption r rest).mapError (.misuse g)
        let state ← bundle.given.foldlM act p.state
        walk g act fuel { p with state := state } rest
      | _ => .ok p

/-- Read a command line: what is made of its parts, and the words that mean nothing. -/
def parse (g : Grammar) (act : σ → Given → Except Stop σ) (start : σ) (args : List Text) :
    Except Stop (σ × List Text) := do
  let words ← (g.readWords args).mapError (.misuse g)
  let p ← g.walk act (words.length + 1) { state := start } words
  match g.operands, p.isOpen with
  | .words name, true => throw (.misuse g (.missing name))
  | _, _ => return (p.state, p.extras)

/-! ## Usage -/

/-- An option in a summary. -/
def optionUsage (o : OptionRule) : Text :=
  let name := o.names.head?.getD []
  let value := if o.takesValue then
      ' ' :: Text.swap '-' '_' ((o.key.dropWhile (· = '-')).map Char.toUpper)
    else []
  " [" ++ name ++ value ++ "]"

/-- The operands in a summary. -/
def operandsUsage : Operands → Text
  | .nothing => []
  | .words name => " " ++ name ++ " [" ++ name ++ " ...]"
  | .command _ choices => " \x7b" ++ Text.joinWith [','] choices ++ "\x7d ..."

/-- A summary of what the program understands. -/
def usage (g : Grammar) : Text :=
  "usage: " ++ g.program ++ g.options.flatMap optionUsage ++ operandsUsage g.operands

end Grammar

end MetaDesk.Command
