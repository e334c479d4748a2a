import PtyShell.Text.Blank
import PtyShell.Text.Digit
import PtyShell.Text.Letter
import PtyShell.Text.Lines
import PtyShell.Text.Quoted
import PtyShell.Text.Styling
import PtyShell.Text.Utf8
import PtyShell.Number.Binary64
import PtyShell.Number.FloatText
import PtyShell.Number.Integer
import PtyShell.Json.Reader
import PtyShell.Env
import PtyShell.Termination
import PtyShell.Host
import PtyShell.Validation.Record
import PtyShell.Launch
import PtyShell.Drain
import PtyShell.Handle.Session
import PtyShell.Handle.Request
import PtyShell.Runner
import PtyShell.Config.Standard
import PtyShell.Description
import PtyShell.Cli.Program
import PtyShell.Main
import PtyShell.Proofs.Host
import PtyShell.Proofs.Handle.Step
import PtyShell.Proofs.Handle.Session
import PtyShell.Proofs.Handle.Order
import PtyShell.Proofs.Handle.Publication
import PtyShell.Proofs.Handle.Report
import PtyShell.Proofs.Handle.Kills
import PtyShell.Proofs.Handle.Ownership
import PtyShell.Proofs.Handle.Roles
import PtyShell.Proofs.Termination
import PtyShell.Proofs.Handle.ExitStatus
import PtyShell.Proofs.Launch.Stages
import PtyShell.Proofs.Launch.Preparation
import PtyShell.Proofs.Launch.Descriptors
import PtyShell.Proofs.Drain
import PtyShell.Proofs.Drain.Chunks
import PtyShell.Proofs.Runner.Step
import PtyShell.Proofs.Runner.Capture
import PtyShell.Proofs.Runner.Release
import PtyShell.Proofs.Runner.FailedWait
import PtyShell.Proofs.Runner.Origin
import PtyShell.Proofs.Description
import PtyShell.Proofs.Cli.Step
import PtyShell.Proofs.Cli.Threads
import PtyShell.Proofs.Cli.Course
import PtyShell.Proofs.Cli.Delivery
import PtyShell.Proofs.Cli.Patience
import PtyShell.Proofs.Handle.Progress
import PtyShell.Proofs.Cli.Progress
import PtyShell.Proofs.Cli.Status
import PtyShell.Proofs.Env
import PtyShell.Proofs.ChildEnv
import PtyShell.Proofs.Env.Sequence
import PtyShell.Proofs.Launch.Choices
import PtyShell.Proofs.Launch.Shell
import PtyShell.Proofs.Launch.Target
import PtyShell.Proofs.Launch.Reports
import PtyShell.Proofs.Launch.Size
import PtyShell.Proofs.Launch.Faults
import PtyShell.Proofs.Launch.Environment
import PtyShell.Proofs.Launch.Directory
import PtyShell.Proofs.Launch.Hermetic
import PtyShell.Proofs.Path
import PtyShell.Proofs.FileSystem
import PtyShell.Proofs.Launch.ShellPath
import PtyShell.Proofs.Launch.Selection
import PtyShell.Proofs.Validation
import PtyShell.Proofs.EnvFile
import PtyShell.Proofs.Json
import PtyShell.Proofs.Utf8
import PtyShell.Proofs.Config.Services
import PtyShell.Proofs.Config.Standard
import PtyShell.Proofs.Config.Precedence
import PtyShell.Proofs.Config.Rejection
import PtyShell.Proofs.Config.Repetition
import PtyShell.Proofs.Cli.Agreement
