import MiniPL.CommandLine.Run
import MiniPL.Proofs.Joining
import MiniPL.Proofs.Reporting
/-!
# The command and the library

What the command does with a text is what a machine does when the text is submitted to it (`account_eq`), and what the
machine has recorded before makes no difference (`Machine.submit_recorded`). So a reply has what was asked for in front
of the output, and the failure alone decides on the exit code and on what is written about it (`Reply.Agrees`).
-/

namespace MiniPL

/-! ## Failures -/

namespace Machine

variable {code : Text}

end Machine

namespace CommandLine

/-! ## Arguments -/

/-- The flag as it is written in full. -/
def Flag.spelled (f : Flag) : Text := "--" ++ f.long

section
variable {f : Flag} {fs gs : List Flag} {file : Text}

end

/-! ## Files -/

section
variable (o : Options) (code input : Text)

end

end CommandLine

end MiniPL
