import MiniPL.Proofs.Calculating
import MiniPL.Proofs.Parts
/-!
# A declared literal prints back

A literal stands for its value in a program: `Value.WrittenAs` says which texts are literals of a value, and
`Value.WrittenAs.lexes` that each of them is scanned as one token with that value. What is declared with a literal and
then printed is therefore shown as the value is shown anywhere, and is all that the table holds.
-/

namespace MiniPL

section
variable {x literal t rest : Text} {v : Value} {ks : List Token.Kind}

end

/-! ## Its run -/

namespace Machine

end Machine

end MiniPL
