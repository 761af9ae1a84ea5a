import LineShell.Alias
import LineShell.Builtin
import LineShell.CommandLine
import LineShell.Completion
import LineShell.Editor
import LineShell.Fault
import LineShell.Fault.Errno
import LineShell.Flag
import LineShell.Highlight
import LineShell.Host
import LineShell.Log
import LineShell.Machine.Ascii
import LineShell.Machine.Basic
import LineShell.Machine.Environment
import LineShell.Machine.Keyboard
import LineShell.Machine.Number
import LineShell.Machine.Process
import LineShell.Machine.Program
import LineShell.Machine.Shell.Argument
import LineShell.Machine.Shell.Arithmetic
import LineShell.Machine.Shell.Builtin
import LineShell.Machine.Shell.Command
import LineShell.Machine.Shell.Condition
import LineShell.Machine.Shell.Directory
import LineShell.Machine.Shell.Evaluation
import LineShell.Machine.Shell.Expansion
import LineShell.Machine.Shell.Format
import LineShell.Machine.Shell.Input
import LineShell.Machine.Shell.Invocation
import LineShell.Machine.Shell.Job
import LineShell.Machine.Shell.JobControl
import LineShell.Machine.Shell.Launch
import LineShell.Machine.Shell.OptionReading
import LineShell.Machine.Shell.Parser
import LineShell.Machine.Shell.Pattern
import LineShell.Machine.Shell.Permission
import LineShell.Machine.Shell.Redirect
import LineShell.Machine.Shell.Setting
import LineShell.Machine.Shell.Signal
import LineShell.Machine.Shell.Source
import LineShell.Machine.Shell.State
import LineShell.Machine.Shell.Switch
import LineShell.Machine.Shell.Token
import LineShell.Machine.Shell.Trap
import LineShell.Machine.Tree
import LineShell.Machine.Utility.ArgumentText
import LineShell.Machine.Utility.Cat
import LineShell.Machine.Utility.Directories
import LineShell.Machine.Utility.Echo
import LineShell.Machine.Utility.Env
import LineShell.Machine.Utility.Options
import LineShell.Machine.Utility.Quoting
import LineShell.Machine.Utility.Touch
import LineShell.Main
import LineShell.Path
import LineShell.Proofs.Alias
import LineShell.Proofs.CommandLine
import LineShell.Proofs.Completion.Candidates
import LineShell.Proofs.Completion.Directory
import LineShell.Proofs.Completion.Position
import LineShell.Proofs.DirectoryMap
import LineShell.Proofs.Flag
import LineShell.Proofs.Highlight
import LineShell.Proofs.Line
import LineShell.Proofs.Machine.Walk
import LineShell.Proofs.Message
import LineShell.Proofs.Path
import LineShell.Proofs.Script
import LineShell.Proofs.Session.ChangeDirectory
import LineShell.Proofs.Session.Colour
import LineShell.Proofs.Session.Continuation
import LineShell.Proofs.Session.DeadEnd
import LineShell.Proofs.Session.DirectoryCache
import LineShell.Proofs.Session.DirectoryLength
import LineShell.Proofs.Session.Editor
import LineShell.Proofs.Session.Effect
import LineShell.Proofs.Session.Exchange
import LineShell.Proofs.Session.Footprint
import LineShell.Proofs.Session.Inert
import LineShell.Proofs.Session.Interrupt
import LineShell.Proofs.Session.Limit
import LineShell.Proofs.Session.Outcome
import LineShell.Proofs.Session.Partition
import LineShell.Proofs.Session.Pipe
import LineShell.Proofs.Session.Program
import LineShell.Proofs.Session.Read
import LineShell.Proofs.Session.Refusal
import LineShell.Proofs.Session.Report
import LineShell.Proofs.Session.Roles
import LineShell.Proofs.Session.Script
import LineShell.Proofs.Session.Simulation
import LineShell.Proofs.Session.Terminator
import LineShell.Proofs.Session.Turns
import LineShell.Proofs.Session.Typing
import LineShell.Proofs.Text.Ansi
import LineShell.Proofs.Text.Cut
import LineShell.Proofs.Text.Decoding
import LineShell.Proofs.Text.Lossy
import LineShell.Proofs.Text.Order
import LineShell.Proofs.Text.Screen
import LineShell.Proofs.Text.Utf8
import LineShell.Proofs.Token.Capacity
import LineShell.Proofs.Token.Layout
import LineShell.Proofs.Token.Pool
import LineShell.Proofs.Token.Words
import LineShell.Reader
import LineShell.Session.Basic
import LineShell.Session.Command
import LineShell.Session.Directory
import LineShell.Session.Event
import LineShell.Session.Loop
import LineShell.Session.Read
import LineShell.Text.Ansi
import LineShell.Text.Blank
import LineShell.Text.Column
import LineShell.Text.Cut
import LineShell.Text.Utf8
import LineShell.Token
import LineShell.Token.Pool
