import MiniPL.Text.Lines
import MiniPL.Text.Utf8
import MiniPL.Text.Window
import MiniPL.Value.Input
import MiniPL.Operator.Table
import MiniPL.Scanner
import MiniPL.Cursor
import MiniPL.Program
import MiniPL.Program.Printer
import MiniPL.Program.Reader
import MiniPL.Console
import MiniPL.Event
import MiniPL.Machine
import MiniPL.Session
import MiniPL.Arithmetic
import MiniPL.CommandLine.Folder
import MiniPL.Diagnostic
import MiniPL.Prompt
import MiniPL.Showcase
import MiniPL.CommandLine.Options
import MiniPL.CommandLine.Run
import MiniPL.Main
import MiniPL.Proofs.Pieces
import MiniPL.Proofs.Scanning
import MiniPL.Proofs.Grammar
import MiniPL.Proofs.Reading
import MiniPL.Proofs.Accepting
import MiniPL.Proofs.RoundTrip
import MiniPL.Proofs.Execution
import MiniPL.Proofs.Keeping
import MiniPL.Proofs.TableInvariant
import MiniPL.Proofs.Rescanning
import MiniPL.Proofs.SideBySide
import MiniPL.Proofs.Joining
import MiniPL.Proofs.Calculating
import MiniPL.Proofs.Pending
import MiniPL.Proofs.Refusing
import MiniPL.Proofs.Locating
import MiniPL.Proofs.Expecting
import MiniPL.Proofs.Failing
import MiniPL.Proofs.Taking
import MiniPL.Proofs.Conversing
import MiniPL.Proofs.Reporting
import MiniPL.Proofs.Typing
import MiniPL.Proofs.Unrolling
import MiniPL.Proofs.Pointing
import MiniPL.Proofs.Replying
import MiniPL.Proofs.Framing
import MiniPL.Proofs.Mentioning
import MiniPL.Proofs.Stopping
import MiniPL.Proofs.Operating
import MiniPL.Proofs.Declaring
import MiniPL.Proofs.Decoding
import MiniPL.Proofs.Continuing
import MiniPL.Proofs.Spacing
import MiniPL.Proofs.Stepping
import MiniPL.Proofs.Counting
import MiniPL.Proofs.Collecting
import MiniPL.Proofs.Walking
import MiniPL.Proofs.Looping
import MiniPL.Proofs.Moving
import MiniPL.Proofs.Appending
