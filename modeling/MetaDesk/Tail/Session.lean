import MetaDesk.Bytes.Decoder
import MetaDesk.Host.Basic
import MetaDesk.Settings.Basic
import MetaDesk.Text.Blank

/-! # Following a file

A session remembers up to which byte a growing file was read.  Each check reads what has come since
and gives it as text, without byte order marks; a character that is not yet whole is kept for the
next check.  A file that has become shorter is read again from its start. -/

namespace MetaDesk.Tail

/-- The encoding of the log of a mode. -/
def encodingOf : TailMode → Encoding
  | .live => .utf8
  | .standard => .utf16

/-- What a check finds. -/
inductive Change where
  | missing
  | unchanged (size : Nat)
  | grown (text : Text) (size : Nat)
  | truncated (size : Nat)
deriving DecidableEq, Repr

/-- A file that is followed. -/
structure Session where
  file : Path
  mode : TailMode
  /-- How many bytes were read. -/
  offset : Nat := 0
  decoder : Decoder := ⟨encodingOf mode, []⟩
deriving DecidableEq, Repr

namespace Session

/-- Read from the start of the file. -/
def reset (s : Session) : Session := { file := s.file, mode := s.mode }

/-- Follow another file. -/
def switchTo (s : Session) (file : Path) : Session := { file := file, mode := s.mode }

/-- The size of a file, if there is one. -/
def sizeOf? (p : Path) : Act (Option Nat) := do
  match ← Act.trySystem (Act.fileSize p) with
  | .ok n => return some n
  | .error e => if e.cause = .notFound then return none else throw (.system e)

/-- Follow a file from its end. -/
def atEnd (file : Path) (mode : TailMode) : Act Session := do
  return { file := file, mode := mode, offset := (← sizeOf? file).getD 0 }

/-- Take in the next bytes of the file. -/
def take (s : Session) (bytes : Bytes) : Text × Session :=
  let (text, decoder) := s.decoder.feed bytes
  (Text.dropMarks text, { s with offset := s.offset + bytes.length, decoder := decoder })

/-- Read the file up to a size. -/
def readTo (s : Session) (size : Nat) : Act (Text × Session) := do
  let bytes ← Act.bytesOf s.file
  return s.take ((bytes.drop s.offset).take (size - s.offset))

/-- Look for what has come since the last check. -/
def check (s : Session) : Act (Change × Session) := do
  match ← sizeOf? s.file with
  | none => return (.missing, s)
  | some size =>
    if s.offset < size then
      let (text, s) ← s.readTo size
      return (.grown text size, s)
    else if size < s.offset then return (.truncated size, s.reset)
    else return (.unchanged size, s)

theorem take_offset (s : Session) (bytes : Bytes) :
    (s.take bytes).2.offset = s.offset + bytes.length := rfl

end Session

end MetaDesk.Tail
