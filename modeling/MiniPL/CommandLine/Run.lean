import MiniPL.CommandLine.Folder
import MiniPL.CommandLine.Options
import MiniPL.Diagnostic
import MiniPL.Program.Printer
import MiniPL.Session
import MiniPL.Text.Utf8
/-!
# Running a file

What the command does with a file: it reads the text, shows its tokens and its tree if it is asked to, and
runs it. Whatever goes wrong is handed to the handler of diagnostics, which decides on the exit code.
-/

namespace MiniPL.CommandLine

/-- Everything that a command leaves behind. -/
structure Reply where
  exit : Int
  stdout : Text
  stderr : Text
  deriving DecidableEq

/-- What became of a text: what was shown, what was recorded, the latest first, and why it was not run to
its end, if it was not. -/
structure Account where
  shown : Text
  events : List Event
  failure : Option Failure

/-- Text that is shown only on request. -/
def onRequest (wanted : Bool) (t : Text) : Text := if wanted then t else []

/-- Runs a program, whose text has shown something already. -/
def accountRun (shown : Text) (m : Machine) (p : Program) : Account :=
  let ended := m.run p
  { shown := shown ++ ended.machine.output, events := ended.machine.events, failure := ended.fault.map .run }

/-- Reads tokens as a program and runs it. -/
def accountRead (o : Options) (m : Machine) (ts : List Token) : Account :=
  let shown := onRequest o.tokens (Token.listing ts ++ "\n")
  match Program.ofScanned ts with
  | .error f => { shown, events := m.events, failure := some f }
  | .ok p => accountRun (shown ++ onRequest o.ast p.source) { m with events := .parsed p.length :: m.events } p

/-- Scans a text, reads it as a program and runs it. -/
def account (o : Options) (m : Machine) (code : Text) : Account :=
  match Token.ofText code with
  | .error f => { shown := [], events := m.events, failure := some f }
  | .ok ts => accountRead o { m with events := .scanned code.length ts.length :: m.events } ts

/-- The reply to work that showed something and recorded some events, the latest first. -/
def reply (o : Options) (shown : Text) (events : List Event) (raised : Option Diagnostic.Raised) : Reply :=
  let handled := (Diagnostic.Handler.fresh false o.color).handle raised
  { exit := handled.handler.exitCode
    stdout := shown
    stderr := onRequest o.verbose (Diagnostic.stacked (events.reverse.map Event.line)) ++ handled.written }

/-- Runs the text of a file on the text that the console holds. -/
def runText (o : Options) (code input : Text) : Reply :=
  let m := Machine.fresh (.ofText input)
  let a := account o { m with events := [.fileRead code.length o.file] } code
  reply o a.shown a.events (a.failure.map fun f => .report f.render)

mutual

/-- Whether a statement can ask for a line of input. -/
def asks : Stmt → Bool
  | .read _ => true
  | .loop _ _ _ body => anyAsks body
  | _ => false

/-- Whether one of the statements can ask for a line of input. -/
def anyAsks : List Stmt → Bool
  | [] => false
  | s :: rest => asks s || anyAsks rest

end

/-- Whether the contents of a file are a program that can ask for a line of input. Otherwise it does not
matter what the console holds. -/
def wantsInput (contents : Except Unreadable (List UInt8)) : Bool :=
  match contents with
  | .error _ => false
  | .ok bytes => match Text.Utf8.decode bytes with
    | .error _ => false
    | .ok t => match Program.ofText t.unifyLineEnds with
      | .error _ => false
      | .ok p => anyAsks p

/-- What an unreadable file ends with. Only the null character is found before the system is asked. -/
def raised (file : Text) : Unreadable → Diagnostic.Raised
  | .nullCharacter => .foreign "ValueError" Unreadable.nullCharacter.text
  | e => .report (Fault.report ("Cannot read " ++ file ++ ": " ++ e.text))

/-- Runs the contents of a file on the text that was given as input. -/
def run (o : Options) (contents : Except Unreadable (List UInt8)) (input : Text) : Reply :=
  match contents with
  | .error e => reply o [] [] (some (raised o.file e))
  | .ok bytes => match Text.Utf8.decode bytes with
    | .error f => reply o [] [] (some (.foreign "UnicodeDecodeError" f.text))
    | .ok t => runText o t.unifyLineEnds input.unifyLineEnds

/-- The reply to a request, given the contents of the files and the input. -/
def Request.reply (contents : Text → Except Unreadable (List UInt8)) (input : Text) : Request → Reply
  | .help => { exit := 0, stdout := manual, stderr := [] }
  | .misuse text => { exit := 2, stdout := [], stderr := complaint text }
  | .run o => CommandLine.run o (contents o.file) input

end MiniPL.CommandLine
