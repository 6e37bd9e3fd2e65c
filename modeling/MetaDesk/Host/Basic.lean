import MetaDesk.Calendar.Written
import MetaDesk.Disk.Settle
import MetaDesk.Mishap
import MetaDesk.Numeric.Binary64
import MetaDesk.Output
import MetaDesk.Path.Home

/-! # The host

A desk works on a host, which has a disk, starts processes, waits, and shows text.  Here the host is
a value: the disk as it is, the processes as they will behave, and a record of everything that was
done.  An action changes the host and gives a result, or ends with a mishap; what was done before
the mishap stays done. -/

namespace MetaDesk

/-- Files to be written, by path. -/
abbrev Files := List (Path × Bytes)

/-- How a program will behave once it is started. -/
structure Program where
  /-- It cannot be started at all. -/
  error : Option Errno := none
  stdout : Bytes := []
  stderr : Bytes := []
  /-- Its exit code; without one it ends with zero, or by the signal that ends it. -/
  code : Option Int := none
  /-- It writes the name that its last argument has under Wine. -/
  echoesPath : Bool := false
  /-- It does not end by itself. -/
  hangs : Bool := false
  /-- It does not end when asked to. -/
  ignoresEnd : Bool := false
  /-- It has ended when it would be asked to, though its output is still open. -/
  hasEnded : Bool := false
  /-- It is gone when it is told something. -/
  isGone : Bool := false
  /-- What it writes to the disk. -/
  files : Files := []
  /-- What it leaves behind to be written during a later wait, with the number of that wait. -/
  late : List (Nat × Files) := []
deriving Repr, Inhabited

/-- What is started. -/
inductive Command where
  /-- A program with its arguments. -/
  | program (name : Text) (args : List Text)
  /-- A line for the shell. -/
  | line (t : Text)
deriving DecidableEq, Repr

/-- What a process is told. -/
inductive Signal where
  | terminate
  | kill
deriving DecidableEq, Repr

/-- The record of a start. -/
structure Spawn where
  command : Command
  /-- What is in the temporary folder at that time. -/
  scripts : List Bytes
  /-- The bottle of Wine in the environment, if an environment was given at all. -/
  bottle : Option (Option Text)
  signals : List Signal := []
deriving DecidableEq, Repr

/-- The part of the program that writes to the journal. -/
inductive Source where
  | reporting
  | launching
  | translating
  | including
  | targeting
  | compiling
  | tailing
deriving DecidableEq, Repr

/-- An entry of the journal. -/
structure Entry where
  isError : Bool
  source : Source
  message : Text
deriving DecidableEq, Repr

/-- How the watch on a file goes. -/
inductive WatchCourse where
  /-- It tells about changes. -/
  | tells
  /-- It fails at once. -/
  | fails (why : Text)
  /-- It ends at once. -/
  | ends
deriving DecidableEq, Repr

/-- The host. -/
structure Host where
  disk : Disk := {}
  /-- The working folder. -/
  here : Place := []
  /-- The folder where processes write. -/
  base : Place := []
  temp : Path := .ofText "/tmp"
  homes : Homes := {}
  /-- The settings file that the environment names. -/
  config : Option Text := none
  /-- How the programs that will be started behave, in order. -/
  programs : List Program := []
  /-- A command with a null character is refused before there is a process.  Where programs are only
  played, every command is taken. -/
  checksCommands : Bool := true
  spawns : List Spawn := []
  /-- Waits that were asked for, in seconds. -/
  sleeps : List Binary64 := []
  /-- What will be written during a later wait. -/
  late : List (Nat × Files) := []
  journal : List Entry := []
  output : Output := {}
  notices : List Notice := []
  /-- The time of day. -/
  stamp : Text := "00:00:00"
  /-- How long a compile takes, in seconds. -/
  elapsed : Binary64 := .ofInt 0
  today : Day := ⟨2024, 1, 31⟩
  /-- How watches go that are made from now on. -/
  watching : WatchCourse := .tells
  /-- Watches that were made, each with the size of its file at that time. -/
  watches : List (Path × Nat) := []
  /-- Libraries that the user was asked about. -/
  questions : List Path := []
  /-- What the user will type. -/
  typed : Text := []
  /-- What was written beside the output. -/
  complaints : Text := []
deriving Repr

/-- An action on the host. -/
abbrev Act := ExceptT Mishap (StateM Host)

/-- An action on the host and on something else; what was done to either of them before a mishap
stays done. -/
abbrev ActOn (σ : Type) := ExceptT Mishap (StateT σ (StateM Host))

instance {σ : Type} : MonadLift Act (ActOn σ) where
  monadLift act := fun s h =>
    let (result, h) := act h
    ((result, s), h)

/-- Do an action on something that the action leaves as it should be. -/
def ActOn.run {σ α : Type} (act : ActOn σ α) (s : σ) (h : Host) : (Except Mishap α × σ) × Host :=
  act s h

namespace Host

/-- Write files as a process would. -/
def putFiles (h : Host) (files : Files) : Host :=
  { h with disk := files.foldl (fun d f => d.putFile h.base f.1 f.2) h.disk }

/-- The host after a wait: what was left behind for it is written. -/
def afterWait (h : Host) : Host :=
  let due := h.late.filter fun e => e.1 ≤ 1
  let rest := (h.late.filter fun e => 1 < e.1).map fun e => (e.1 - 1, e.2)
  due.foldl (fun h e => h.putFiles e.2) { h with late := rest }

end Host

namespace Act

/-- Write to the journal. -/
def note (isError : Bool) (source : Source) (message : Text) : Act Unit :=
  modify fun h => { h with journal := h.journal ++ [⟨isError, source, message⟩] }

/-- Write a warning to the journal. -/
def warn (source : Source) (message : Text) : Act Unit := note false source message

/-- Write an error to the journal. -/
def complain (source : Source) (message : Text) : Act Unit := note true source message

/-- Change the output. -/
def display (f : Output → Output) : Act Unit := modify fun h => { h with output := f h.output }

/-- Write a line that is no part of what the user reads in the end. -/
def print (line : Text) : Act Unit := display fun o => o.echo (line ++ ['\n'])

/-- Write a line beside the output. -/
def printError (line : Text) : Act Unit :=
  modify fun h => { h with complaints := h.complaints ++ line ++ ['\n'] }

/-- Ask the user for a line. -/
def prompt (question : Text) : Act Text := do
  display fun o => o.echo question
  let typed := (← get).typed
  if typed.isEmpty then throw .endOfInput
  let line := typed.takeWhile (· != '\n')
  modify fun h => { h with typed := typed.drop (line.length + 1) }
  return line

/-- Tell about a failure that concerns a file or resource. -/
def report (f : Failure) (target : Text) : Act Unit := do
  note f.category.isForUser .reporting (f.entry target)
  display fun o => o.appendLines f.lines
  modify fun h => { h with notices := h.notices ++ f.notice?.toList }

/-- Warn on the side. -/
def remark (message : Text) : Act Unit := do
  warn .reporting message
  display fun o => o.warning message

/-- Wait so many seconds. -/
def sleep (seconds : Binary64) : Act Unit :=
  modify fun h => { h.afterWait with sleeps := h.sleeps ++ [seconds] }

/-! ## Files -/

/-- The path has a character that no path has. -/
def hasNull (p : Path) : Bool := p.names.any fun name => name.contains '\x00'

/-- Ask the disk about a path; what cannot be a path is refused. -/
def ask {α : Type} (p : Path) (f : Disk → Place → Path → Except Errno α) : Act α := do
  if hasNull p then throw (.refused .nullInPath)
  let h ← get
  match f h.disk h.here p with
  | .ok a => return a
  | .error e => throw (.system ⟨e, p.text⟩)

/-- Get the result, or end with what was refused. -/
def orRefuse {α : Type} : Except Refusal α → Act α
  | .ok a => return a
  | .error r => throw (.refused r)

/-- Change the disk at a path. -/
def change (p : Path) (f : Disk → Place → Path → Except Errno Disk) : Act Unit := do
  let disk ← ask p f
  modify fun h => { h with disk := disk }

/-- Something is at a path. -/
def pathExists (p : Path) : Act Bool :=
  if hasNull p then return false else ask p Disk.exists?

/-- A file is at a path. -/
def isFile (p : Path) : Act Bool := if hasNull p then return false else ask p Disk.isFile?

/-- A folder is at a path. -/
def isFolder (p : Path) : Act Bool := if hasNull p then return false else ask p Disk.isFolder?

/-- The size of a file. -/
def fileSize (p : Path) : Act Nat := ask p Disk.size

/-- The bytes of a file. -/
def bytesOf (p : Path) : Act Bytes := ask p Disk.read

/-- Write a file. -/
def putBytes (p : Path) (content : Bytes) : Act Unit :=
  change p fun d here p => d.write here p content

/-- Take a file away. -/
def takeAway (p : Path) : Act Unit := change p Disk.unlink

/-- Make a folder with the folders above it; it may be there already. -/
def makeFolders (p : Path) : Act Unit := go (p.names.length + 1) p
where
  /-- Make folders up to so many levels above. -/
  go : Nat → Path → Act Unit
    | 0, p => change p Disk.makeFolder
    | fuel + 1, p => do
      if hasNull p then throw (.refused .nullInPath)
      let h ← get
      match h.disk.makeFolder h.here p with
      | .ok disk => set { h with disk := disk }
      | .error e =>
        if e = .notFound && p.names != [] then
          go fuel p.parent
          again p
        else if !(← isFolder p) then throw (.system ⟨e, p.text⟩)
  /-- Make one folder. -/
  again (p : Path) : Act Unit := do
    let h ← get
    match h.disk.makeFolder h.here p with
    | .ok disk => set { h with disk := disk }
    | .error e => if !(← isFolder p) then throw (.system ⟨e, p.text⟩)

/-- The path without links and double dots. -/
def resolve (p : Path) : Act Path := do
  if hasNull p then throw (.refused .nullInPath)
  let h ← get
  match h.disk.settle h.here p with
  | some place => return Disk.pathOf place
  | none => throw .circular

/-- Make a watch on a file, and tell how it goes. -/
def watch (p : Path) : Act WatchCourse := do
  let h ← get
  let size := (h.disk.size h.here p).toOption.getD 0
  modify fun h => { h with watches := h.watches ++ [(p, size)] }
  return h.watching

/-- Do something, and get an error of the system as a result. -/
def trySystem {α : Type} (act : Act α) : Act (Except SystemError α) := fun h =>
  match act h with
  | (.error (.system e), h) => (.ok (.error e), h)
  | (.error m, h) => (.error m, h)
  | (.ok a, h) => (.ok (.ok a), h)

/-- Do something, and get a failure of the configuration as a result. -/
def tryConfigured {α : Type} (act : Act α) : Act (Except Failure α) := fun h =>
  match act h with
  | (.error (.failed f), h) =>
    if f.category = .configuration then (.ok (.error f), h) else (.error (.failed f), h)
  | (.error m, h) => (.error m, h)
  | (.ok a, h) => (.ok (.ok a), h)

end Act

end MetaDesk
