import MetaDesk.Bytes.Decoder
import MetaDesk.Host.Basic

/-! # Processes

A process is started, its output is collected, and one that does not end is told to.  Every start
is recorded, also one that fails.  A command that has a null character is refused: that is no error of
the system, and ends what was to be done with the process. -/

namespace MetaDesk.Launch

/-- A process that was started: how it behaves, the number of its record, and its last argument. -/
structure Running where
  program : Program
  number : Nat
  last : Text

/-- What a process wrote, and its exit code. -/
structure Collected where
  stdout : Bytes
  stderr : Bytes
  code : Int

/-- The program that cannot be found, as the system names it. -/
def nameOf : Command → Text
  | .program name _ => name
  | .line t => t

/-- The last argument of a command. -/
def lastOf : Command → Text
  | .program name args => args.getLast?.getD name
  | .line t => t

/-- The texts that a command is made of. -/
def textsOf : Command → List Text
  | .program name args => name :: args
  | .line t => [t]

/-- The command has a null character, or the bottle in its environment has. -/
def hasNull (command : Command) (bottle : Option (Option Text)) : Bool :=
  (textsOf command ++ (bottle.getD none).toList).any fun t => t.contains '\x00'

/-- The host starts nothing for the command. -/
def refuses (h : Host) (command : Command) (bottle : Option (Option Text)) : Bool :=
  h.checksCommands && hasNull command bottle

/-- What is in the temporary folder. -/
def scriptsIn (h : Host) : List Bytes :=
  (h.disk.children h.temp.names).filterMap fun child =>
    match child.2 with
    | .file content => some content
    | _ => none

/-- Start a process with a bottle of Wine in its environment, or with the usual environment. -/
def start (command : Command) (bottle : Option (Option Text)) :
    Act (Except SystemError Running) := do
  let h ← get
  modify fun h => { h with
    spawns := h.spawns ++ [{ command, scripts := scriptsIn h, bottle }]
    programs := h.programs.tail }
  if refuses h command bottle then throw (.refused .nullInCommand)
  let refused (e : Errno) : Act (Except SystemError Running) :=
    pure (.error { cause := e, path := nameOf command })
  match h.programs with
  | [] => refused .notFound
  | p :: _ =>
    match p.error with
    | some e => refused e
    | none => return .ok ⟨p, h.spawns.length, lastOf command⟩

/-- What a process writes to its output. -/
def Running.stdout (r : Running) : Bytes :=
  if r.program.echoesPath then Utf8.encode ("Z:" ++ Text.swap '/' '\\' r.last ++ "\n")
  else r.program.stdout

/-- Wait for the end of a process and collect its output. -/
def collect (r : Running) : Act Collected := do
  modify fun h => { h.putFiles r.program.files with late := h.late ++ r.program.late }
  return ⟨r.stdout, r.program.stderr, r.program.code.getD 0⟩

/-- Collect the output of a process that ends in time. -/
def collectInTime (r : Running) : Act (Option Collected) := do
  if r.program.hangs then return none else return some (← collect r)

/-- Tell a process something; the system refuses it if the process is gone. -/
def send (r : Running) (s : Signal) : Act Unit := do
  modify fun h => { h with
    spawns := h.spawns.modify r.number fun spawn => { spawn with signals := spawn.signals ++ [s] } }
  if r.program.isGone then throw (.system { cause := .noProcess, path := [] })

/-- Tell a process something, which need not reach it. -/
def signal (r : Running) (s : Signal) : Act Unit := do
  match ← Act.trySystem (send r s) with
  | .ok () => return
  | .error e => if e.cause != .noProcess then throw (.system e)

/-- The number of every process. -/
def processNumber : Nat := 4242

/-- End a process that has not ended: it is asked to, and killed if it does not.  The result is its
exit code. -/
def terminate (r : Running) : Act Int := do
  if r.program.hasEnded then return r.program.code.getD 0
  signal r .terminate
  if r.program.ignoresEnd then
    Act.warn .launching
      ("Process " ++ Text.ofNat processNumber ++ " ignored SIGTERM, sending SIGKILL")
    signal r .kill
    return r.program.code.getD (-9)
  else return r.program.code.getD (-15)

/-- The text that a process wrote. -/
def textOf (output : Bytes) : Text := Encoding.decode .utf8 output

end MetaDesk.Launch
