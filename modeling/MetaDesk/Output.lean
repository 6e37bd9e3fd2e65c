import MetaDesk.Failure
import MetaDesk.Text.Blank

/-! # Output

The output is what the user reads, piece by piece as it was written.  It only grows, until it is
cleared; what was echoed stays echoed. -/

namespace MetaDesk

/-- Text for the user. -/
structure Output where
  /-- What was written since the last clearing, one piece after the other. -/
  pieces : List Text := []
  /-- Everything that was ever echoed. -/
  echoed : Text := []
deriving DecidableEq, Repr

namespace Output

/-- Everything since the last clearing. -/
def text (o : Output) : Text := o.pieces.flatten

/-- Add a text; an empty one is no piece. -/
def append (o : Output) (t : Text) : Output :=
  if t.isEmpty then o else ⟨o.pieces ++ [t], o.echoed ++ t⟩

/-- Echo a text that is not kept. -/
def echo (o : Output) (t : Text) : Output := { o with echoed := o.echoed ++ t }

/-- Add a line. -/
def appendLine (o : Output) (t : Text) : Output := o.append (t ++ ['\n'])

/-- Add lines. -/
def appendLines (o : Output) (ts : List Text) : Output := ts.foldl appendLine o

/-- Add a warning. -/
def warning (o : Output) (t : Text) : Output := o.appendLine (Failure.warningLine t)

/-- Add an error. -/
def error (o : Output) (t : Text) : Output := o.appendLine (Failure.errorLine t)

/-- Forget what was written. -/
def clear (o : Output) : Output := { o with pieces := [] }

/-- What was written, as lines. -/
def lines (o : Output) : List Text := Text.lines o.text

theorem append_nil (o : Output) : o.append [] = o := rfl

theorem text_append (o : Output) (t : Text) : (o.append t).text = o.text ++ t := by
  cases t with
  | nil => rw [append_nil, List.append_nil]
  | cons => simp [append, text]

end Output

end MetaDesk
