import MetaDesk.Host.Basic

/-! # The library for live logs

A program writes its live log through a library that has to be in the include folder of its
terminal.  The library is deployed from here. -/

namespace MetaDesk.Tail

/-- The name of the library. -/
def libraryName : Text := "LiveLog.mqh"

/-- The name of the live log. -/
def liveLogName : Text := "LiveLog.txt"

/-- The lines of the library. -/
def libraryLines : List String := [
  "//+------------------------------------------------------------------+",
  "//| LiveLog.mqh                                                      |",
  "//| Real-time logging to MQL<4|5>/Files/LiveLog.txt.                 |",
  "//| Usage: #include <LiveLog.mqh> and call PrintLive(...)            |",
  "//+------------------------------------------------------------------+",
  "#property strict",
  "",
  "#define LIVELOG_FILENAME \"LiveLog.txt\"",
  "",
  "int g_livelog_handle = INVALID_HANDLE;",
  "",
  "bool LiveLogOpen()",
  "  \x7b",
  "   if(g_livelog_handle != INVALID_HANDLE)",
  "      return true;",
  "   g_livelog_handle = FileOpen(LIVELOG_FILENAME, FILE_READ | FILE_WRITE | FILE_TXT | FILE_ANSI"
    ++ " | FILE_SHARE_READ | FILE_SHARE_WRITE);",
  "   if(g_livelog_handle == INVALID_HANDLE)",
  "      return false;",
  "   FileSeek(g_livelog_handle, 0, SEEK_END);",
  "   return true;",
  "  \x7d",
  "",
  "void LiveLogClose()",
  "  \x7b",
  "   if(g_livelog_handle != INVALID_HANDLE)",
  "     \x7b",
  "      FileClose(g_livelog_handle);",
  "      g_livelog_handle = INVALID_HANDLE;",
  "     \x7d",
  "  \x7d",
  "",
  "void LiveLogWrite(string text)",
  "  \x7b",
  "   if(!LiveLogOpen())",
  "     \x7b",
  "      Print(text);",
  "      return;",
  "     \x7d",
  "   string stamp = TimeToString(TimeLocal(), TIME_DATE | TIME_SECONDS);",
  "   FileWriteString(g_livelog_handle, stamp + \" \" + text + \"\\r\\n\");",
  "   FileFlush(g_livelog_handle);",
  "  \x7d",
  "",
  "void PrintLive(string a)",
  "  \x7b",
  "   LiveLogWrite(a);",
  "  \x7d",
  "",
  "void PrintLive(string a, string b)",
  "  \x7b",
  "   LiveLogWrite(a + b);",
  "  \x7d",
  "",
  "void PrintLive(string a, string b, string c)",
  "  \x7b",
  "   LiveLogWrite(a + b + c);",
  "  \x7d",
  "",
  "void PrintLive(string a, string b, string c, string d)",
  "  \x7b",
  "   LiveLogWrite(a + b + c + d);",
  "  \x7d",
  "//+------------------------------------------------------------------+"]

/-- The text of the library. -/
def libraryText : Text := (libraryLines.map String.toList).flatMap (· ++ ['\n'])

/-- Where the library is taken from. -/
inductive Library where
  | bundled
  /-- It should be at a path and is not. -/
  | missing (p : Path)
deriving DecidableEq, Repr

/-- The library in a data folder. -/
def libraryIn (base : Path) : Path := (base.child "Include").child libraryName

/-- A failure that there is nothing to do about. -/
def undeployed (message : Text) (path : Option Text) : Act Bool := do
  Act.report (.configuration message none path none) []
  return false

/-- Put the library into a data folder. -/
def Library.deploy (l : Library) (base : Path) : Act Bool := do
  let target := libraryIn base
  match l with
  | .missing p => undeployed (libraryName ++ " template not found at: " ++ p.text) none
  | .bundled =>
    let write : Act Unit := do
      Act.makeFolders target.parent
      Act.putBytes target (Utf8.encode libraryText)
    match ← Act.trySystem write with
    | .error e =>
      undeployed ("Failed to install " ++ libraryName ++ ": " ++ e.message) (some target.text)
    | .ok () =>
      Act.display fun o =>
        o.appendLine ("[Info] Installed " ++ libraryName ++ " to: " ++ target.text)
      return true

end MetaDesk.Tail
