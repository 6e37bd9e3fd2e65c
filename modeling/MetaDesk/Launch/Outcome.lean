import MetaDesk.Text.Blank

/-! # Outcomes

How the run of a compiler ended. -/

namespace MetaDesk.Launch

/-- How a run ended. -/
inductive Status where
  | exited
  | launchFailed
  | timedOut
deriving DecidableEq, Repr

/-- The name of it. -/
def Status.name : Status → Text
  | .exited => "exited"
  | .launchFailed => "launch_failed"
  | .timedOut => "timed_out"

/-- All ends of runs. -/
def Status.all : List Status := [.exited, .launchFailed, .timedOut]

/-- The outcome of a run. -/
structure Outcome where
  status : Status
  exitCode : Option Int := none
  /-- Why the compiler could not be started, or was stopped. -/
  launchError : Option Text := none
  stderr : Text := []
deriving DecidableEq, Repr

namespace Outcome

/-- The compiler was started. -/
def launched (o : Outcome) : Bool := o.status != .launchFailed

/-- What went wrong with the run, if anything did. -/
def detail (o : Outcome) : Option Text :=
  match o.status with
  | .launchFailed => o.launchError
  | .timedOut =>
    match o.launchError with
    | some (c :: why) => some (c :: why)
    | _ => some "process timed out"
  | .exited =>
    match o.exitCode with
    | none => none
    | some code =>
      if code = 0 then none
      else
        let said := Text.trim o.stderr
        let told : Text := "exit code " ++ Text.ofInt code
        some (if said.isEmpty then told else told ++ ": " ++ said)

end Outcome

end MetaDesk.Launch
