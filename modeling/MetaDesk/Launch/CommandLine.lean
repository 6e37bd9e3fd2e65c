import MetaDesk.Text.Letter

/-! # The command line of the compiler

The compiler wants the path behind a flag between quotation marks, and nothing else quoted.  Quoting
what is already quoted changes nothing. -/

namespace MetaDesk.Launch

/-- The flag before the file to compile. -/
def compileFlag : Text := "/compile:"

/-- The flag before the log file. -/
def logFlag : Text := "/log:"

/-- The flag before the include folder. -/
def includeFlag : Text := "/inc:"

/-- The switch for a compiler that keeps its data beside itself. -/
def portableSwitch : Text := "/portable"

/-- The flags that are followed by a path. -/
def pathFlags : List Text := [compileFlag, logFlag, includeFlag]

/-- The text is between quotation marks. -/
def isQuoted (t : Text) : Bool :=
  2 ≤ t.length && t.head? = some '"' && t.getLast? = some '"'

/-- The text between quotation marks, once. -/
def quoteValue (t : Text) : Text := if isQuoted t then t else '"' :: t ++ ['"']

/-- The flag that an argument starts with, in any case. -/
def flagOf? (arg : Text) : Option Text :=
  pathFlags.find? fun flag => flag.isPrefixOf (Text.lower arg)

/-- An argument with the path behind its flag quoted. -/
def quoteFlag (arg : Text) : Text :=
  match flagOf? arg with
  | some flag => arg.take flag.length ++ quoteValue (arg.drop flag.length)
  | none => arg

/-- Arguments with their paths quoted. -/
def quoteFlags (args : List Text) : List Text := args.map quoteFlag

/-- What the compiler is given. -/
structure Job where
  source : Text
  log : Text
  /-- The include folder; an empty one counts as none. -/
  includes : Option Text
  portable : Bool
deriving DecidableEq, Repr

/-- The arguments for a job. -/
def Job.args (j : Job) : List Text :=
  let folder := (j.includes.getD [])
  quoteFlags ([compileFlag ++ j.source, logFlag ++ j.log]
    ++ (if folder.isEmpty then [] else [includeFlag ++ folder])
    ++ (if j.portable then [portableSwitch] else []))

/-- Program and arguments in one line. -/
def commandLine (program : Text) (args : List Text) : Text :=
  Text.joinWith [' '] (quoteValue program :: args)

theorem isQuoted_quoteValue (t : Text) : isQuoted (quoteValue t) = true := by
  simp only [quoteValue]
  split
  · assumption
  · have hlast : ('"' :: (t ++ ['"'])).getLast? = some '"' :=
      List.getLast?_concat (l := '"' :: t)
    simp [isQuoted, hlast]

theorem quoteValue_quoteValue (t : Text) : quoteValue (quoteValue t) = quoteValue t := by
  conv => lhs; rw [quoteValue]
  rw [if_pos (isQuoted_quoteValue t)]

end MetaDesk.Launch
