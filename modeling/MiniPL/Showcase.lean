import MiniPL.Program.Printer
import MiniPL.Session
import MiniPL.Text.Quoted
/-!
# A showcase

A dozen short programs, each with its tokens, its tree written as source, its output and its variables, or
with the failure that comes before them.
-/

namespace MiniPL.Showcase

/-- The programs. -/
def samples : List Text :=
  ["var x : int := 4 + (6 * 2);\nprint x;",
   "var s : string := \"a\\tb\\n\";\nprint s;",
   "var i : int;\nfor i in 1..3 do\n    print i;\nend for;",
   "for i in 1..3 do print i; end for;",
   "var b : bool := !(1 < 2);\nassert (b = false);",
   "assert (2 < 1);",
   "print \"a\" + 1;",
   "print 7 / 0;",
   "print 1 + 2 + 3;",
   "var n : int := 99999999999;",
   "print \"unterminated",
   "/* block\n   comment */ print 1; // line comment"]

/-- A label and what it labels, on one line. -/
def labelled (label shown : Text) : Text := label ++ ": " ++ shown ++ "\n"

/-- The variables of a table with their values as they are displayed, in the order of the table. -/
def bindings (t : NameTable) : Text :=
  "\x7b" ++ Text.join ", " (t.values.map fun (name, v) => name.quoted ++ ": " ++ v.display.quoted) ++ "\x7d"

/-- What a run shows: its output, and then its variables or the fault. -/
def ended (e : Machine.Ended) : Text :=
  labelled "output" e.machine.output.quoted ++
    match e.fault with
    | some f => f.render ++ "\n"
    | none => labelled "variables" (bindings e.machine.table)

/-- What a program shows that has these tokens. -/
def read (ts : List Token) : Text :=
  labelled "tokens" (Token.listing ts) ++
    match Program.ofScanned ts with
    | .error f => f.render ++ "\n"
    | .ok p => "ast:\n" ++ p.source ++ ended ((Machine.fresh (.ofText [])).run p)

/-- What a sample shows. -/
def sample (code : Text) : Text :=
  List.replicate 10 '=' ++ "\n" ++ labelled "code" code.quoted ++
    match Token.ofText code with
    | .error f => f.render ++ "\n"
    | .ok ts => read ts

/-- What all samples show. -/
def text : Text := samples.flatMap sample

end MiniPL.Showcase
