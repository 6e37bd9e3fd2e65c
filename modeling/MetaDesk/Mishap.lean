import MetaDesk.Failure
import MetaDesk.SystemError
import MetaDesk.Yaml.Fault

/-! # Mishaps

What ends an operation without an answer: a failure that nobody has taken care of, an error of the
system, or an input that makes no sense. -/

namespace MetaDesk

/-- An input that makes no sense. -/
inductive Refusal where
  | longNumeral (e : LongNumeral)
  /-- A relative path has no address. -/
  | relativeAddress
  /-- A compile target is given by a relative path. -/
  | relativeTarget (path : Text)
  /-- A path without a name has no suffix. -/
  | nameless (path : Text)
  | nullInPath
  /-- A command with a null character is none that can be started. -/
  | nullInCommand
  /-- A word is none of a kind. -/
  | notOneOf (kind word : Text)
  /-- The functions in a file are no list. -/
  | notAList (file : Text)
  | noDay (e : DayFault)
deriving DecidableEq, Repr

/-- What is said about it. -/
def Refusal.message : Refusal → Text
  | .longNumeral e => e.message
  | .relativeAddress => "relative path can't be expressed as a file URI"
  | .relativeTarget p => "Compile target must be an absolute path, got '" ++ p ++ "'"
  | .nameless p => "PosixPath(" ++ Text.quoted p ++ ") has an empty name"
  | .nullInPath => "embedded null byte"
  | .nullInCommand => "embedded null byte"
  | .notOneOf kind word => Text.quoted word ++ " is not a valid " ++ kind
  | .notAList file => "Expected a list under 'functions' in " ++ file
  | .noDay e => e.message

/-- What ends an operation without an answer. -/
inductive Mishap where
  | failed (f : Failure)
  | system (e : SystemError)
  | refused (r : Refusal)
  /-- The settings are wrong in themselves. -/
  | unsettled (message : Text)
  /-- A document with a scalar that does not say what its tag promises. -/
  | document (e : Yaml.Fault)
  /-- The bytes of a file are no text. -/
  | undecodable
  /-- There is no home folder to expand. -/
  | homeless
  /-- Links lead to themselves. -/
  | circular
  /-- There is nothing more to read. -/
  | endOfInput
  /-- A document is a mapping where something else stands. -/
  | notAMapping
  /-- A letter is expected where there are several. -/
  | notALetter
  /-- A number is too large. -/
  | overflow
  /-- A program that nobody stops does not end. -/
  | unending
  | interrupted
deriving DecidableEq, Repr

/-- What is said about a mishap that nobody has taken care of. -/
def Mishap.message : Mishap → Text
  | .failed f => f.message
  | .system e => e.message
  | .refused r => r.message
  | .unsettled m => m
  | .document e => e.message?.getD "the document cannot be read"
  | .undecodable => "the file is no text"
  | .homeless => "there is no home folder"
  | .circular => "links lead to themselves"
  | .endOfInput => "there is nothing more to read"
  | .notAMapping => "a mapping is expected"
  | .notALetter => "a letter is expected"
  | .overflow => "the number is too large"
  | .unending => "the program does not end"
  | .interrupted => "interrupted"

end MetaDesk
