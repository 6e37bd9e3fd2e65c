import MetaDesk.Diagnostic.Basic
import MetaDesk.Spelling.Dictionary
import MetaDesk.Text.Digit

/-! # Suggestions

A diagnostic about an unknown name quotes the name.  Names of the dictionary that are close to it
are suggested in its place. -/

namespace MetaDesk.Spelling

/-- A name to put in the place of an unknown one. -/
structure Suggestion where
  title : Text
  replacement : Text
  line : Int
  startColumn : Int
  endColumn : Int
  preferred : Bool
deriving DecidableEq, Repr

/-- The code of diagnostics about unknown names. -/
def unknownNameCode : Text := "256"

/-- Shorter names are not looked for. -/
def shortestQuoted : Nat := 4

/-- The diagnostic is about an unknown name. -/
def isUnresolved (d : Diagnostic) : Bool :=
  let message := Text.lower d.message
  d.code = some unknownNameCode || Text.holds "undeclared" message
    || Text.holds "not declared" message
    || (Text.holds "unknown" message && Text.holds "identifier" message)

/-- The quoted name that a text starts with. -/
def leadingName? : Text → Option Text
  | '\'' :: rest =>
    let name := rest.takeWhile Text.isWord
    if !name.isEmpty && (rest.drop name.length).head? = some '\'' then some name else none
  | _ => none

/-- The first quoted name in a message. -/
def quotedName? (message : Text) : Option Text := Text.search leadingName? message

/-- Names close to the unknown one that a diagnostic is about. -/
def corrections (dictionary : Dictionary) (d : Diagnostic) : Except ManyLetters (List Match) :=
  match quotedName? d.message with
  | some name =>
    if isUnresolved d && shortestQuoted ≤ name.length then dictionary.closest name else .ok []
  | none => .ok []

/-- The suggestion of a name. -/
def suggestion (d : Diagnostic) (quoted : Text) (m : Match) : Suggestion where
  title := "MQL: Did you mean '" ++ m.name ++ "'?"
  replacement := m.name
  line := d.line
  startColumn := d.column
  endColumn := d.column + quoted.length
  preferred := m.isClose

/-- Suggestions for a diagnostic. -/
def suggestions (dictionary : Dictionary) (d : Diagnostic) :
    Except ManyLetters (List Suggestion) := do
  match quotedName? d.message with
  | some name => return (← corrections dictionary d).map (suggestion d name)
  | none => return []

end MetaDesk.Spelling
