import MetaDesk.Bytes.Decoder
import MetaDesk.Host.Basic

/-! # The log of a compile

The compiler leaves its log beside the source, perhaps only some time after it has ended.  A log
that is there before a compile is taken away, so that it is not mistaken for the new one. -/

namespace MetaDesk.Compile

/-- How long a log is waited for. -/
structure Patience where
  /-- Seconds between two looks. -/
  interval : Binary64 := .ofDecimal false 1 (-1)
  /-- How often it is looked for after the first time. -/
  attempts : Int := 30
  /-- Seconds to wait for the rest of a log that came late. -/
  settle : Binary64 := .ofDecimal false 5 (-2)
deriving DecidableEq, Repr

/-- Take away a log of an earlier compile, if there is one. -/
def removeStale (log : Path) : Act Unit := do
  match ← Act.trySystem (Act.takeAway log) with
  | .ok () => return
  | .error e =>
    if e.cause != .notFound then
      Act.warn .compiling
        ("Could not remove stale log " ++ log.text ++ ": " ++ e.message)

/-- Wait until a log is there, and tell how often it was waited for. -/
def waitFor (log : Path) (interval : Binary64) (waited : Nat) : Nat → Act (Option Nat)
  | 0 => return if ← Act.pathExists log then some waited else none
  | attempts + 1 => do
    if ← Act.pathExists log then return some waited
    Act.sleep interval
    waitFor log interval (waited + 1) attempts

/-- The text of a log, once it is there. -/
def awaitLog (p : Patience) (log : Path) : Act (Option Text) := do
  match ← waitFor log p.interval 0 p.attempts.toNat with
  | none => return none
  | some waited =>
    if waited != 0 then Act.sleep p.settle
    return some (Encoding.decode .utf16 (← Act.bytesOf log))

/-- The text of a log; one that cannot be read counts as missing. -/
def readLog (p : Patience) (log : Path) : Act (Option Text) := do
  match ← Act.trySystem (awaitLog p log) with
  | .ok t => return t
  | .error e =>
    Act.complain .compiling ("Failed to read log file " ++ log.text ++ ": " ++ e.message)
    return none

/-- Take away a log that was read. -/
def removeRead (log : Path) : Act Unit := do
  match ← Act.trySystem (Act.takeAway log) with
  | .ok () => return
  | .error e => Act.remark ("Failed to remove log file " ++ log.text ++ ": " ++ e.message)

end MetaDesk.Compile
