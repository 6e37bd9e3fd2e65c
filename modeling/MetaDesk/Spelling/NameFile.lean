import MetaDesk.Bytes.Decoder
import MetaDesk.Host.Basic
import MetaDesk.Yaml.Build

/-! # Files of names

A file of names is a document that lists them under one key.  A document that says nothing has no
names. -/

namespace MetaDesk.Spelling

/-- The key under which a file lists its names. -/
def namesKey : Text := "functions"

/-- The names in a document. -/
def namesIn (file : Text) (c : Yaml.Content) : Except Mishap (List Text) :=
  match c.part c.outermost with
  | .mapping _ =>
    match c.find? c.outermost namesKey with
    | none => .ok []
    | some place =>
      match c.part place with
      | .list items => (items.mapM c.shown?).mapError .document
      | _ => .error (.refused (.notAList file))
  | .atom a => if a.isNothing then .ok [] else .error .notAMapping
  | .list [] => .ok []
  | .set [] => .ok []
  | _ => .error .notAMapping

/-- Read the names in a file. -/
def readNames (p : Path) : Act (List Text) := do
  match Encoding.decode? .utf8 (← Act.bytesOf p) with
  | none => throw .undecodable
  | some t =>
    match Yaml.load .pieces (Text.unifyBreaks t) with
    | .error e => throw (.document e)
    | .ok c =>
      match namesIn p.text c with
      | .ok names => return names
      | .error m => throw m

end MetaDesk.Spelling
