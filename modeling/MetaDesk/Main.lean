import MetaDesk.Command.Run

/-! # The program

The program carries out its command line on a host that holds what the line names: the files among
its words, the settings file of the environment, and the working folder.  What the user types is
read only when a log is to be followed, since nothing else asks.  What was printed is written in
the end, and the code of the ending is that of the program. -/

namespace MetaDesk.Program

/-- A file as it is on the real disk, if it can be read. -/
def fileAt? (name : String) : IO (Option ByteArray) := do
  try return some (← IO.FS.readBinFile name) catch _ => return none

/-- A word, and the value that it may give to an option. -/
def namesIn (word : String) : List String :=
  let value := (word.toList.dropWhile (· != '=')).drop 1
  if value.isEmpty then [word] else [word, String.ofList value]

/-- The host with the files that some names have on the real disk. -/
def withFiles (h : Host) (names : List String) : IO Host :=
  names.foldlM (fun h name => do
    match ← fileAt? name with
    | none => return h
    | some content =>
      let p := Path.ofText name.toList
      return { h with disk := h.disk.putFile h.here p content.toList }) h

/-- The host that a command line is carried out on. -/
def hostFor (words : List String) : IO Host := do
  let here := (Path.ofText ((← IO.getEnv "PWD").getD "/").toList).names
  let home := ((← IO.getEnv "HOME").getD "/").toList
  let config ← IO.getEnv "MQL_TOOLS_CONFIG"
  let h : Host := {
    disk := Disk.makeFolders {} [] (Disk.pathOf here)
    here := here
    base := here
    homes := { own := home }
    config := config.map String.toList }
  withFiles h (words.flatMap namesIn ++ config.toList)

/-- What the user types, if the command line asks for something that reads it. -/
def typedFor (words : List String) : IO Text := do
  match Command.Invocation.ofArgs (words.map String.toList) with
  | .ok i =>
    match i.request with
    | some (.tail _) => return (← (← IO.getStdin).readToEnd).toList
    | _ => return []
  | .error _ => return []

end MetaDesk.Program

open MetaDesk in
/-- Carry out a command line. -/
def main (words : List String) : IO UInt32 := do
  let host := { ← Program.hostFor words with typed := ← Program.typedFor words }
  let (ending, host) := Command.run (return) (words.map String.toList) host
  IO.print (String.ofList host.output.echoed)
  IO.eprint (String.ofList (Command.complaintsOf host))
  match ending with
  | .ok e => return e.code.toUInt32
  | .error m =>
    IO.eprintln (String.ofList m.message)
    return 1
