import MiniPL.Operator
import MiniPL.Token
/-!
# What is due in the middle of a program

Where tokens break off, some things are due before a program can be over: the `;` of a statement, an operand, the
`end` of a block. The next token takes the place of the first of them and may make others due (`Due.step`), or it
cannot come. So any tokens are the beginning of a program up to some point, the `refusal`. What is due can always be
supplied (`refusal_supply`).
-/

namespace MiniPL

open Token (Kind Category)

/-- Something that is due. -/
inductive Due where
  /-- A token of the category. -/
  | one (category : Category)
  | keyword (k : Keyword)
  | type
  | operand
  /-- An operator and an operand after it, if an operator comes. -/
  | tail
  | expression
  /-- What ends a declaration, with a value or without. -/
  | initializer
  | statement
  /-- Statements and the `end` after them. -/
  | block

namespace Due

/-- What is due after the first token of an operand. -/
def afterOperand : Kind → Option (List Due)
  | .integer _ => some []
  | .string _ => some []
  | .boolean _ => some []
  | .identifier _ => some []
  | .bracketOpen => some [expression, one .bracketClose]
  | _ => none

/-- What is due after the first token of a statement. -/
def afterStatement : Kind → Option (List Due)
  | .statementEnd => some []
  | .identifier _ => some [one .assignment, expression, one .statementEnd]
  | .keyword .var => some [one .identifier, one .typeMark, type, initializer]
  | .keyword .forWord => some [one .identifier, keyword .inWord, expression, one .range, expression, keyword .doWord,
      block, keyword .forWord, one .statementEnd]
  | .keyword .read => some [one .identifier, one .statementEnd]
  | .keyword .print => some [expression, one .statementEnd]
  | .keyword .assert => some [one .bracketOpen, expression, one .bracketClose, one .statementEnd]
  | _ => none

/-- What is due after a token that begins something. -/
def after (d : Due) (k : Kind) : Option (List Due) :=
  match d with
  | one category => if k.category = category then some [] else none
  | keyword w => if k = .keyword w then some [] else none
  | type => match k with
    | .keyword (.type _) => some []
    | _ => none
  | operand => afterOperand k
  | tail => match k with
    | .operator _ => some [operand]
    | _ => none
  | expression => match k with
    | .operator _ => some [operand]
    | k => (afterOperand k).map (· ++ [tail])
  | initializer => match k with
    | .statementEnd => some []
    | .assignment => some [expression, one .statementEnd]
    | _ => none
  | statement => afterStatement k
  | block => if k = .keyword .endWord then some [] else (afterStatement k).map (· ++ [block])

/-- Nothing need come for it. -/
def optional : Due → Bool
  | tail => true
  | _ => false

/-- What is due after a token. Where nothing is, the token begins a statement of the program. -/
def step : List Due → Kind → Option (List Due)
  | [], k => afterStatement k
  | d :: σ, k => match d.after k with
    | some ds => some (ds ++ σ)
    | none => if d.optional then step σ k else none

/-- Where the kinds are refused, if they are: those from the first one on that cannot come, or no kinds if they end
where something is due. -/
def refusal : List Due → List Kind → Option (List Kind)
  | σ, [] => if σ.all optional then none else some []
  | σ, k :: ks => match step σ k with
    | some τ => refusal τ ks
    | none => some (k :: ks)

section
variable {d : Due} {ds σ τ : List Due} {k : Kind} {ks ls ms rest : List Kind}

theorem refusal_of_step (h : step σ k = some τ) : refusal σ (k :: ks) = refusal τ ks := by
  simp only [refusal, h]

theorem refusal_of_step_none (h : step σ k = none) : refusal σ (k :: ks) = some (k :: ks) := by
  simp only [refusal, h]

theorem refusal_congr (h : step σ k = step τ k) : refusal σ (k :: ks) = refusal τ (k :: ks) := by
  simp only [refusal, h]

theorem refusal_after (h : d.after k = some ds) : refusal (d :: σ) (k :: ks) = refusal (ds ++ σ) ks :=
  refusal_of_step (by simp only [step, h])

/-- No operator can come, so an expression is over before an operator at the latest. -/
def Closed (σ : List Due) : Prop := ∀ symbol, step σ (.operator symbol) = none

/-- An expression that begins with an operand may go on after it. -/
theorem step_expression (hk : ∀ symbol, k ≠ .operator symbol) :
    step (expression :: σ) k = step (operand :: tail :: σ) k := by
  cases k with
  | operator symbol => exact absurd rfl (hk symbol)
  | _ => rfl

theorem step_tail (hk : ∀ symbol, k ≠ .operator symbol) : step (tail :: σ) k = step σ k := by
  cases k with
  | operator symbol => exact absurd rfl (hk symbol)
  | _ => rfl

/-- A block that is not over goes on with a statement. -/
theorem step_block (hk : k ≠ .keyword .endWord) : step (block :: σ) k = step (statement :: block :: σ) k := by
  simp only [step, after, if_neg hk]
  cases afterStatement k <;> simp [optional]

theorem step_nil : step [] k = step [statement] k := by
  simp only [step, after]
  cases afterStatement k <;> simp [optional]

/-! ## Up to the refusal -/

theorem refusal_suffix (h : refusal σ ks = some rest) : rest <:+ ks := by
  induction ks generalizing σ with
  | nil =>
    unfold refusal at h
    split at h
    · cases h
    · exact ⟨[], (Option.some.inj h).symm⟩
  | cons k ks ih =>
    cases hs : step σ k with
    | none =>
      rw [refusal_of_step_none hs] at h
      exact ⟨[], (Option.some.inj h).symm⟩
    | some τ =>
      rw [refusal_of_step hs] at h
      exact (ih h).trans (List.suffix_cons k ks)

theorem step_eq_none (h : refusal σ (k :: ks) = some (k :: ks)) : step σ k = none := by
  cases hs : step σ k with
  | none => rfl
  | some τ =>
    -- Then no kinds as many as these would be left.
    rw [refusal_of_step hs] at h
    have hl := (refusal_suffix h).length_le
    exact absurd hl (Nat.not_succ_le_self _)

/-- Before the refusal everything depends on what is due there, and there the kinds are refused at once. -/
theorem refusal_cut (h : refusal σ (ms ++ rest) = some rest) :
    ∃ τ, (∀ ls, refusal σ (ms ++ ls) = refusal τ ls) ∧ refusal τ rest = some rest := by
  induction ms generalizing σ with
  | nil => exact ⟨σ, fun _ => rfl, h⟩
  | cons m ms ih =>
    cases hs : step σ m with
    | none =>
      rw [List.cons_append, refusal_of_step_none hs] at h
      have hl := congrArg List.length (Option.some.inj h)
      simp only [List.length_cons, List.length_append] at hl
      omega
    | some τ =>
      rw [List.cons_append, refusal_of_step hs] at h
      obtain ⟨θ, hθ, hr⟩ := ih h
      exact ⟨θ, fun ls => (refusal_of_step hs).trans (hθ ls), hr⟩

/-- A kind that cannot come is refused whatever comes after it. -/
theorem refusal_stays (h : refusal σ (ms ++ k :: rest) = some (k :: rest)) (ls : List Kind) :
    refusal σ (ms ++ k :: ls) = some (k :: ls) := by
  obtain ⟨τ, hτ, hr⟩ := refusal_cut h
  rw [hτ, refusal_of_step_none (step_eq_none hr)]

/-! ## Supplying what is due -/

/-- A kind of the category. -/
def sample : Category → Kind
  | .keyword => .keyword .var
  | .identifier => .identifier "x"
  | .integer => .integer 0
  | .string => .string []
  | .boolean => .boolean true
  | .operator => .operator Operator.add.symbol
  | .bracketOpen => .bracketOpen
  | .bracketClose => .bracketClose
  | .assignment => .assignment
  | .typeMark => .typeMark
  | .range => .range
  | .dot => .dot
  | .statementEnd => .statementEnd

theorem category_sample (category : Category) : (sample category).category = category := by
  cases category <;> rfl

/-- Kinds that supply what is due. -/
def supply : Due → List Kind
  | one category => [sample category]
  | keyword k => [.keyword k]
  | type => [.keyword (.type .int)]
  | operand => [.integer 0]
  | tail => [.operator Operator.add.symbol, .integer 0]
  | expression => [.operator Operator.add.symbol, .integer 0]
  | initializer => [.statementEnd]
  | statement => [.statementEnd]
  | block => [.keyword .endWord]

theorem refusal_supply_append (d : Due) (σ : List Due) (ls : List Kind) :
    refusal (d :: σ) (d.supply ++ ls) = refusal σ ls := by
  cases d with
  | one category =>
    have hs : (one category).after (sample category) = some [] := if_pos (category_sample category)
    exact refusal_after hs
  | keyword k =>
    have hk : (keyword k).after (.keyword k) = some [] := if_pos rfl
    exact refusal_after hk
  | _ => rfl

theorem refusal_supply (σ : List Due) : refusal σ (σ.flatMap supply) = none := by
  induction σ with
  | nil => rfl
  | cons d σ ih => rw [List.flatMap_cons, refusal_supply_append, ih]

/-- The only operator among the kinds that supply it is one of the language. -/
theorem eq_of_mem_supply {symbol : Text} (h : .operator symbol ∈ σ.flatMap supply) :
    symbol = Operator.add.symbol := by
  obtain ⟨d, -, hd⟩ := List.mem_flatMap.1 h
  cases d with
  | one category =>
    have he := List.mem_singleton.1 hd
    cases category <;> cases he
    rfl
  | tail | expression => simpa [supply] using hd
  | _ => simp [supply] at hd
end

end Due

end MiniPL
