import MetaDesk.Calendar
import MetaDesk.Tail.Session

/-! # Tailers

A tailer shows what is added to a log.  A watch tells it about changes, and a clock makes it look
from time to time.  A watch or a clock that is made begins only when the tailer has nothing else to
do, and only then does it heed what they tell: all changes that the watch tells of together, and
one stroke of the clock.  When the tailer stops both go, and what has not begun or has not been
heeded by then never is.  A stroke that ends with a mishap breaks the clock, and a broken clock ends
the next stop with that mishap. -/

namespace MetaDesk.Tail

/-- A watch on a file. -/
structure Watch where
  file : Path
  /-- It has begun to tell about changes. -/
  hasBegun : Bool := false
  /-- How many changes it has told of that have not been heeded. -/
  told : Nat := 0
deriving DecidableEq, Repr

/-- The clock by which a tailer looks from time to time. -/
inductive Clock where
  | off
  /-- It has been made and has not begun. -/
  | made
  | ticking
  /-- It has struck and has not been heeded; perhaps the watch told of a change before. -/
  | struck (late : Bool)
  /-- A stroke ended with a mishap, and there is no other. -/
  | broken (m : Mishap)
deriving DecidableEq, Repr

/-- A tailer. -/
structure Tailer where
  isTailing : Bool := false
  /-- The mode that was last asked for. -/
  chosen : Option TailMode := none
  /-- The mode of the last session. -/
  mode : Option TailMode := none
  flavor : Option Flavor := none
  /-- The data folder. -/
  base : Option Path := none
  session : Option Session := none
  /-- How many sessions there were. -/
  sessions : Nat := 0
  /-- The watch, as long as it lives. -/
  watch : Option Watch := none
  clock : Clock := .off
  /-- Seconds between two looks. -/
  interval : Binary64 := .ofInt 5
deriving DecidableEq, Repr

/-- An action on a tailer. -/
abbrev Tailing := ActOn Tailer

/-- Change the tailer. -/
def change (f : Tailer → Tailer) : Tailing Unit := modifyThe Tailer f

/-- Show a line. -/
def showLine (line : Text) : Tailing Unit := (Act.display fun o => o.appendLine line : Act Unit)

/-- The session, while the tailer is tailing. -/
def current? : Tailing (Option Session) := do
  let t ← getThe Tailer
  return if t.isTailing then t.session else none

/-! ## The end -/

/-- The line that tells the end. -/
def stopMarker : Text := "--- Tail Stopped ---"

/-- Stop tailing.  What has broken the clock ends the stop before the end is told. -/
def stop : Tailing Unit := do
  let before ← getThe Tailer
  change fun t => { t with isTailing := false, watch := none }
  match before.clock with
  | .broken m => throw m
  | _ =>
    change fun t => { t with clock := .off }
    if before.isTailing then showLine stopMarker

/-! ## Looking for new content -/

/-- Show what a check has found. -/
def tell : Change → Tailing Unit
  | .grown text _ => (Act.display fun o => o.append text : Act Unit)
  | .truncated _ => showLine "[Info] Log file truncated. Refreshing..."
  | _ => return

/-- Do something, and get an error of the system as a result. -/
def systemErrorOf? (act : Tailing Unit) : Tailing (Option SystemError) := do
  try
    act
    return none
  catch
    | .system e => return some e
    | m => throw m

/-- A log could not be read. -/
def unread (file : Path) (e : SystemError) : Tailing Unit :=
  (Act.warn .tailing ("Tail read failed for " ++ file.text ++ ": " ++ e.message) : Act Unit)

/-- Check the log and show what is new.  `meanwhile` happens while the log is read; if it fails, or
the tailer stops or turns to another session in that time, nothing is shown. -/
def look (meanwhile : Tailing Unit) : Tailing Unit := do
  match ← current? with
  | none => return
  | some session =>
    match ← (Act.trySystem session.check : Act _) with
    | .error e => unread session.file e
    | .ok (found, session) =>
      let before := (← getThe Tailer).sessions
      change fun t => { t with session := some session }
      match ← systemErrorOf? meanwhile with
      | some e => unread session.file e
      | none =>
        let t ← getThe Tailer
        if t.isTailing && t.sessions = before then tell found

/-! ## Watches -/

/-- Make a watch on the log, if it is there and has none. -/
def makeWatch : Tailing Unit := do
  let t ← getThe Tailer
  match t.watch, t.session with
  | none, some session =>
    if ← (Act.pathExists session.file : Act Bool) then
      change fun t => { t with watch := some { file := session.file } }
  | _, _ => return

/-- Let a watch that was made begin; one that fails is reported and gone. -/
def beginWatch : Tailing Unit := do
  match (← getThe Tailer).watch with
  | some ⟨file, false, _⟩ =>
    match ← (Act.watch file : Act _) with
    | .tells => change fun t => { t with watch := some { file := file, hasBegun := true } }
    | .ends => change fun t => { t with watch := none }
    | .fails why =>
      change fun t => { t with watch := none }
      let message : Text := "File watcher stopped for " ++ file.name ++ ": " ++ why
      (Act.report (.watch message none) file.text : Act Unit)
  | _ => return

/-- The watch, if it has begun, tells of a change. -/
def notify : Tailing Unit :=
  change fun t => { t with watch := t.watch.map fun w =>
    if w.hasBegun then { w with told := w.told + 1 } else w }

/-- The watch has told of something. -/
def Tailer.isTold (t : Tailer) : Bool := t.watch.any fun w => 0 < w.told

/-- Look once for each change that the watch has told of. -/
def heedWatch : Tailing Unit := do
  if let some w := (← getThe Tailer).watch then
    change fun t => { t with watch := some { w with told := 0 } }
    for _ in List.range w.told do look (return)

/-! ## The clock -/

/-- The name of the journal of a day. -/
def journalName (d : Day) : Text := d.compact ++ ".log"

/-- Turn to the journal of the day, if another one is followed. -/
def turnDay (session : Session) : Tailing Unit := do
  let expected := journalName (← getThe Host).today
  if session.file.name != expected then
    showLine ("[Info] Day changed. Switching to " ++ expected)
    let next := session.switchTo (session.file.withName expected)
    change fun t => { t with session := some next, watch := none }
    makeWatch

/-- Look after the log once: turn to a new day, see to the watch, and check for new content. -/
def poll : Tailing Unit := do
  match ← current? with
  | none => return
  | some session =>
    if (← getThe Tailer).mode = some .standard then turnDay session
    makeWatch
    look (return)

/-- Wait for the next tick. -/
def await : Tailing Unit := do
  let t ← getThe Tailer
  if t.isTailing then
    change fun t => { t with clock := .ticking }
    (Act.sleep t.interval : Act Unit)
  else change fun t => { t with clock := .off }

/-- The clock strikes, if it is ticking. -/
def tick : Tailing Unit :=
  change fun t => if t.clock = .ticking then { t with clock := .struck t.isTold } else t

/-- Do something, and get the mishap that ends it as a result. -/
def mishapOf? (act : Tailing Unit) : Tailing (Option Mishap) := do
  try
    act
    return none
  catch m => return some m

/-- Look after the log because the clock has struck. -/
def heedClock : Tailing Unit := do
  match ← mishapOf? poll with
  | some m => change fun t => { t with clock := .broken m }
  | none => await

/-- Let begin what was made. -/
def beginMade : Tailing Unit := do
  beginWatch
  if (← getThe Tailer).clock = .made then await

/-- Heed the watch and the clock in the order in which they first told of something. -/
def heed : Tailing Unit := do
  match (← getThe Tailer).clock with
  | .struck true =>
    heedWatch
    heedClock
  | .struck false =>
    heedClock
    heedWatch
  | _ => heedWatch

/-- Nothing else is to be done: let begin what was made, and heed what was told. -/
def settle : Tailing Unit := do
  beginMade
  heed
  beginMade

end MetaDesk.Tail
