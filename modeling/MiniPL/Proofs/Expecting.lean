import MiniPL.Program.Reader
import MiniPL.Proofs.Outcomes
/-!
# What a reader says when it refuses

A reader refuses tokens because one of a few things was expected, or because of a second operator
(`Cursor.Cause.Usual`). It never finds the slot taken: a token is put back only right after the next one was handed
out, and that leaves the slot free.
-/

namespace MiniPL

namespace Reader

/-- Everything that a reader can say that it expected. -/
def expectations : List Text :=
  ["statement", "identifier", "':'", "type", "';' or ':='", "':='", "'in'", "'..'", "'do'", "'end'", "'for'", "'('",
    "expression", "operand", "operator", "')'", "';'"]

end Reader

/-- The cause is about what was expected, or about a second operator. -/
def Cursor.Cause.Usual : Cursor.Cause → Prop
  | .unexpectedEnd expected => expected ∈ Reader.expectations
  | .unexpected expected _ => expected ∈ Reader.expectations
  | .chainedOperator => True
  | .slotTaken => False

namespace Reader

variable {α β : Type} {r : Reader α} {f : α → Reader β} {g : Token → Reader β} {t : Token} {expected : Text}

/-- Whatever the reader refuses, the cause is usual. -/
def Usual (r : Reader α) : Prop := ∀ c f c', r c = .error (.refused f) c' → f.cause.Usual

/-- The same, as long as the slot is free. -/
def UsualIfFree (r : Reader α) : Prop := ∀ c f c', c.slot = none → r c = .error (.refused f) c' → f.cause.Usual

/-! ## Sequences -/

theorem Usual.bind (hr : Usual r) (hf : ∀ a, Usual (f a)) : Usual (r >>= f) := by
  intro c e c' h
  rcases bind_error.1 h with h | ⟨a, c₁, -, h⟩
  · exact hr c e c' h
  · exact hf a c₁ e c' h

theorem Usual.ifFree (hr : Usual r) : UsualIfFree r := fun c e c' _ h => hr c e c' h

theorem UsualIfFree.bind (hr : UsualIfFree r) (hf : ∀ a, Usual (f a)) : UsualIfFree (r >>= f) := by
  intro c e c' hc h
  rcases bind_error.1 h with h | ⟨a, c₁, -, h⟩
  · exact hr c e c' hc h
  · exact hf a c₁ e c' h

theorem pure_usual (a : α) : Usual (pure a) := by
  intro c e c' h
  cases h

/-! ## Single tokens -/

theorem refuse_usual {cause : Cursor.Cause} (h : cause.Usual) : Usual (refuse cause : Reader α) := by
  intro c e c' he
  cases he
  exact h

/-- What comes after a refusal is not done. -/
theorem refuse_bind_usual {cause : Cursor.Cause} (h : cause.Usual) : Usual (refuse cause >>= f) := by
  intro c e c' he
  rcases bind_error.1 he with he | ⟨a, c₁, h₁, -⟩
  · exact refuse_usual h _ _ _ he
  · cases h₁

theorem refuseEnd_usual (h : expected ∈ expectations) : Usual (refuseEnd expected : Reader α) := by
  intro c e c' he
  cases he
  exact h

theorem next_usual (h : expected ∈ expectations) : Usual (next expected) := by
  intro c e c' he
  obtain ⟨n, slot, rest⟩ := c
  cases slot with
  | some u => cases he
  | none =>
    cases rest with
    | nil => exact refuseEnd_usual h _ _ _ he
    | cons u rest => cases he

theorem slot_of_next {c c' : Cursor} (h : next expected c = .ok t c') : c'.slot = none := by
  obtain ⟨n, slot, rest⟩ := c
  cases slot with
  | some u => cases h; rfl
  | none =>
    cases rest with
    | nil => cases h
    | cons u rest => cases h; rfl

/-- After the next token was handed out the slot is free. -/
theorem usual_next (h : expected ∈ expectations) (hg : ∀ t, UsualIfFree (g t)) : Usual (next expected >>= g) := by
  intro c e c' he
  rcases bind_error.1 he with he | ⟨t, c₁, h₁, he⟩
  · exact next_usual h _ _ _ he
  · exact hg t _ _ _ (slot_of_next h₁) he

theorem putBack_usual : UsualIfFree (putBack t) := by
  intro c e c' hc he
  obtain ⟨n, slot, rest⟩ := c
  cases hc
  cases he

theorem atEnd_usual : Usual atEnd := by
  intro c e c' he
  cases he

theorem take_usual {read? : Token → Option α} (h : expected ∈ expectations) : Usual (take read? expected) := by
  refine (next_usual h).bind fun t => ?_
  cases read? t with
  | none => exact refuse_usual h
  | some a => exact pure_usual a

theorem expect_usual {category : Token.Category} (h : expected ∈ expectations) : Usual (expect category expected) :=
  take_usual h

theorem keyword_usual {k : Keyword} (h : ("'" ++ k.word ++ "'" : Text) ∈ expectations) : Usual (expectKeyword k) :=
  take_usual h

theorem name_usual : Usual expectName := take_usual (by decide)

theorem end_usual : Usual expectEnd := (expect_usual (by decide)).bind fun _ => pure_usual ()

/-- An unknown operator is not refused, it is a fault of its own. -/
theorem operator_usual (symbol : Text) : Usual (operator symbol) := by
  intro c e c' he
  unfold operator at he
  split at he <;> cases he

/-! ## Expressions -/

section
variable {inner : Reader Expr} (hi : Usual inner)
include hi

theorem operandWith_usual : Usual (operandWith inner t) := by
  unfold operandWith
  split
  · exact pure_usual _
  · exact pure_usual _
  · exact pure_usual _
  · exact pure_usual _
  · exact hi.bind fun e => (expect_usual (by decide)).bind fun _ => pure_usual _
  · exact refuse_usual (by decide : ("operand" : Text) ∈ expectations)

omit hi in
theorem refuseChain_usual : Usual refuseChain := by
  refine atEnd_usual.bind fun b => ?_
  split
  · exact pure_usual ()
  · refine usual_next (by decide) fun t => ?_
    split
    · exact (refuse_bind_usual (show Cursor.Cause.Usual .chainedOperator from trivial)).ifFree
    · exact putBack_usual

theorem expressionFrom_usual {left : Operand} : Usual (expressionFrom inner left) := by
  refine atEnd_usual.bind fun b => ?_
  split
  · exact pure_usual _
  · refine usual_next (by decide) fun t => ?_
    cases t.symbol? with
    | none => exact putBack_usual.bind fun _ => pure_usual _
    | some symbol =>
      refine Usual.ifFree ((next_usual (by decide)).bind fun u => ?_)
      refine (operandWith_usual hi).bind fun right => refuseChain_usual.bind fun _ => ?_
      exact (operator_usual symbol).bind fun op => pure_usual _

theorem expressionWith_usual : Usual (expressionWith inner) := by
  refine (next_usual (by decide)).bind fun t => ?_
  cases t.symbol? with
  | none => exact (operandWith_usual hi).bind fun left => expressionFrom_usual hi
  | some symbol =>
    refine (next_usual (by decide)).bind fun u => (operandWith_usual hi).bind fun a => ?_
    exact (operator_usual symbol).bind fun op => pure_usual _
end

theorem expressionWithin_usual (bound : Nat) : Usual (expressionWithin bound) := by
  induction bound with
  | zero => exact refuseEnd_usual (by decide)
  | succ bound ih => exact expressionWith_usual ih

theorem expression_usual : Usual expression :=
  expressionWith_usual fun c => expressionWithin_usual (c.unread + 1) c

/-! ## Statements -/

theorem declaration_usual : Usual declaration := by
  refine name_usual.bind fun x => (expect_usual (by decide)).bind fun _ => ?_
  refine (take_usual (by decide)).bind fun ty => (next_usual (by decide)).bind fun t => ?_
  split
  · exact pure_usual _
  · exact expression_usual.bind fun e => end_usual.bind fun _ => pure_usual _
  · exact refuse_usual (by decide : ("';' or ':='" : Text) ∈ expectations)

theorem assignment_usual {x : Text} : Usual (assignment x) :=
  (expect_usual (by decide)).bind fun _ => expression_usual.bind fun _ => end_usual.bind fun _ => pure_usual _

theorem input_usual : Usual input := name_usual.bind fun _ => end_usual.bind fun _ => pure_usual _

theorem output_usual : Usual output := expression_usual.bind fun _ => end_usual.bind fun _ => pure_usual _

theorem assertion_usual : Usual assertion :=
  (expect_usual (by decide)).bind fun _ => expression_usual.bind fun _ =>
    (expect_usual (by decide)).bind fun _ => end_usual.bind fun _ => pure_usual _

section
variable {body : Reader (List Stmt)} (hb : Usual body)
include hb

theorem loopWith_usual : Usual (loopWith body) := by
  refine name_usual.bind fun x => (keyword_usual (by decide)).bind fun _ => ?_
  refine expression_usual.bind fun first => (expect_usual (by decide)).bind fun _ => ?_
  refine expression_usual.bind fun last => (keyword_usual (by decide)).bind fun _ => ?_
  exact hb.bind fun statements => (keyword_usual (by decide)).bind fun _ => end_usual.bind fun _ => pure_usual _

theorem statementWith_usual : Usual (statementWith body t) := by
  unfold statementWith
  split
  · exact assignment_usual
  · exact pure_usual _
  · exact declaration_usual
  · exact loopWith_usual hb
  · exact input_usual
  · exact output_usual
  · exact assertion_usual
  · exact refuse_usual (by decide : ("statement" : Text) ∈ expectations)
end

theorem blockWithin_usual (bound : Nat) : Usual (blockWithin bound) := by
  induction bound with
  | zero => exact refuseEnd_usual (by decide)
  | succ bound ih =>
    refine (next_usual (by decide)).bind fun t => ?_
    split
    · exact pure_usual _
    · exact (statementWith_usual ih).bind fun s => ih.bind fun b => pure_usual _

theorem statement_usual : Usual (statement t) :=
  statementWith_usual fun c => blockWithin_usual (c.unread + 1) c

theorem programWithin_usual (bound : Nat) : Usual (programWithin bound) := by
  induction bound with
  | zero => exact refuseEnd_usual (by decide)
  | succ bound ih =>
    refine atEnd_usual.bind fun b => ?_
    split
    · exact pure_usual _
    · exact (next_usual (by decide)).bind fun t => statement_usual.bind fun s => ih.bind fun p => pure_usual _

end Reader

/-- Tokens are refused as a program for a usual cause. -/
theorem Program.usual_of_refused {ts : List Token} {f : Cursor.Fault} (h : ofTokens ts = .error (.refused f)) :
    f.cause.Usual := by
  unfold ofTokens Reader.runOn EStateM.run at h
  cases hr : Reader.program (Cursor.start ts) with
  | ok p c => rw [hr] at h; cases h
  | error e c =>
    rw [hr] at h
    cases h
    exact Reader.programWithin_usual _ _ _ _ hr

end MiniPL
