import MetaDesk.Main
import MetaDesk.Proofs.CompilerLog.RoundTrip
import MetaDesk.Proofs.CompilerLog.Splitting
import MetaDesk.Proofs.Spelling.BoundedDistance
import MetaDesk.Proofs.Tail.Following
import MetaDesk.Spelling.Checker
import MetaDesk.Spelling.NameFile
import MetaDesk.Spelling.Suggestion
import MetaDesk.Proofs.Tail.Looking
import MetaDesk.Proofs.Tail.Starting
import MetaDesk.Proofs.Tail.Tailing
import MetaDesk.Proofs.Tail.Turning
import MetaDesk.Proofs.Tail.Telling
import MetaDesk.Proofs.Tail.Standing
import MetaDesk.Proofs.Tail.Stages
import MetaDesk.Proofs.Tail.Running
import MetaDesk.Proofs.CompilerLog.Errors
import MetaDesk.Proofs.Compile.Outcome
import MetaDesk.Proofs.Command.Preparing
import MetaDesk.Proofs.Command.ExitCode
import MetaDesk.Proofs.Command.Printing
import MetaDesk.Proofs.Text.Order
import MetaDesk.Proofs.Bytes.Utf16
import MetaDesk.Proofs.Compile.Logging
import MetaDesk.Proofs.Compile.OldLog
import MetaDesk.Proofs.Compile.Preparing
import MetaDesk.Proofs.Compile.Publishing
import MetaDesk.Proofs.Compile.Stopping
import MetaDesk.Proofs.Compile.Storing
import MetaDesk.Proofs.Disk.Differing
import MetaDesk.Proofs.Disk.Tree
import MetaDesk.Proofs.Include.Indexing
import MetaDesk.Proofs.Include.Mains
import MetaDesk.Proofs.Spelling.Closest
import MetaDesk.Proofs.Target.Resolving
import MetaDesk.Proofs.Command.IncludeFolder
import MetaDesk.Proofs.Launch.Translating
import MetaDesk.Proofs.Compile.Translating
import MetaDesk.Proofs.CompilerLog.Results
import MetaDesk.Proofs.CompilerLog.Entries
import MetaDesk.Proofs.CompilerLog.Links
import MetaDesk.Proofs.Settings.Checking
import MetaDesk.Proofs.Command.Loading
import MetaDesk.Proofs.CompilerLog.Readable
import MetaDesk.Proofs.CompilerLog.Modes
import MetaDesk.Proofs.Tail.FromEnd
import MetaDesk.Proofs.Tail.Returning
import MetaDesk.Proofs.Include.Comments
import MetaDesk.Proofs.Include.Walking
import MetaDesk.Proofs.Target.Keeping
import MetaDesk.Proofs.Target.Finding
import MetaDesk.Proofs.Launch.CommandLine
import MetaDesk.Proofs.Compile.Waiting
import MetaDesk.Proofs.Launch.Script
import MetaDesk.Proofs.Target.Remembering
import MetaDesk.Proofs.Spelling.Answering
import MetaDesk.Proofs.Spelling.Preferring
import MetaDesk.Proofs.CompilerLog.Positions
import MetaDesk.Proofs.History
import MetaDesk.Proofs.Launch.Quoting
import MetaDesk.Proofs.Diagnostic.Changing
import MetaDesk.Proofs.Spelling.Checking
