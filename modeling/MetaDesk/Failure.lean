import MetaDesk.Text.Basic

/-! # Failures

A failure is something that a desk cannot do, of one of six categories.  Failures of three of them
are for the user, who gets a notice with what to do next; the others are only told on the side.
Failures of two categories end the work on a target. -/

namespace MetaDesk

/-- What kind of thing went wrong. -/
inductive Category where
  | configuration
  | launch
  | toolFailure
  | logUnavailable
  | translation
  | watch
deriving DecidableEq, Repr

namespace Category

/-- The name of a category. -/
def name : Category → Text
  | .configuration => "configuration"
  | .launch => "launch"
  | .toolFailure => "tool_failure"
  | .logUnavailable => "log_unavailable"
  | .translation => "translation"
  | .watch => "watch"

/-- The user is told. -/
def isForUser : Category → Bool
  | .configuration => true
  | .launch => true
  | .logUnavailable => true
  | _ => false

/-- The work on a target ends. -/
def isFatal : Category → Bool
  | .configuration => true
  | .logUnavailable => true
  | _ => false

end Category

/-- Something that cannot be done; the action is what the user may do next. -/
inductive Failure where
  | tool (message : Text) (action : Option Text)
  /-- A setting, or a path that it names, does not do. -/
  | configuration (message : Text) (setting path action : Option Text)
  | launch (message : Text) (action : Option Text)
  /-- The log of a compile is not there; perhaps the compiler could not be run. -/
  | logUnavailable (log : Text) (launchError : Option Text)
  | translation (message : Text) (action : Option Text)
  | watch (message : Text) (action : Option Text)
deriving DecidableEq, Repr

/-- What the user is told about a failure. -/
structure Notice where
  category : Category
  message : Text
  action : Option Text
  setting : Option Text
deriving DecidableEq, Repr

namespace Failure

/-- The user may open the settings. -/
def openSettings : Text := "open_settings"

/-- The user may go through the first steps of setting up. -/
def configure : Text := "configure"

/-- The category of a failure. -/
def category : Failure → Category
  | .tool _ _ => .toolFailure
  | .configuration _ _ _ _ => .configuration
  | .launch _ _ => .launch
  | .logUnavailable _ _ => .logUnavailable
  | .translation _ _ => .translation
  | .watch _ _ => .watch

/-- The failure as it is told. -/
def message : Failure → Text
  | .tool m _ => m
  | .configuration m _ _ _ => m
  | .launch m _ => m
  | .logUnavailable log _ => "Log file not found at: " ++ log
  | .translation m _ => m
  | .watch m _ => m

/-- What the user may do next. -/
def action : Failure → Option Text
  | .tool _ a => a
  | .configuration _ _ _ a => a
  | .launch _ a => a
  | .logUnavailable _ _ => none
  | .translation _ a => a
  | .watch _ a => a

/-- The setting that the failure is about. -/
def setting : Failure → Option Text
  | .configuration _ s _ _ => s
  | _ => none

/-- What the user is told. -/
def notice? (f : Failure) : Option Notice :=
  if f.category.isForUser then some ⟨f.category, f.message, f.action, f.setting⟩ else none

/-- A line about an error. -/
def errorLine (m : Text) : Text := "[Error] " ++ m

/-- A line about something less than an error. -/
def warningLine (m : Text) : Text := "[Warning] " ++ m

/-- Why there was no log, if it is known. -/
def launchLines : Failure → List Text
  | .logUnavailable _ (some why) =>
    if why.isEmpty then [] else [errorLine ("Launch error: " ++ why)]
  | _ => []

/-- The lines about a failure in the output. -/
def lines (f : Failure) : List Text :=
  if f.category.isForUser then f.launchLines ++ [errorLine f.message] else [warningLine f.message]

/-- The failure in the journal, with the file or resource that it concerns. -/
def entry (f : Failure) (target : Text) : Text :=
  f.category.name ++ " failure for " ++ (if target.isEmpty then "-".toList else target) ++ ": "
    ++ f.message

end Failure

end MetaDesk
