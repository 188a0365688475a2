import MiniPL.Proofs.Accepting
/-!
# The loops of the reader end

A reader of what nests or repeats calls itself again after it has taken a token. So its equation determines what it does
on every cursor (`Descends.eq_bounded_iff`), and the bounds that the readers of the grammar compute are never met: an
expression, a block and a program are the only solutions of the equations without bounds.
-/

namespace MiniPL

namespace Reader

variable {α β : Type} {r s : Reader α} {f g : α → Reader β} {c c' : Cursor} {n m : Nat} {t : Token}

/-! ## Readers that agree where few tokens are ahead -/

/-- The readers do the same where fewer than `n` tokens are ahead. -/
def Agree (n : Nat) (r s : Reader α) : Prop := ∀ c, c.unread < n → r c = s c

/-- The reader does not leave more tokens ahead than it finds. -/
def Shrinks (r : Reader α) : Prop := ∀ c a c', r c = .ok a c' → c'.unread ≤ c.unread

theorem Sound.shrinks {spelled : α → List Token.Kind → Prop} (h : Sound r spelled) : Shrinks r := by
  intro c a c' hr
  obtain ⟨ks, hk, -⟩ := h c a c' hr
  rw [← c.length_kinds, ← c'.length_kinds, hk, List.length_append]
  exact Nat.le_add_left _ _

theorem next_unread {expected : Text} (h : next expected c = .ok t c') : c'.unread < c.unread := by
  rw [← c.length_kinds, ← c'.length_kinds, next_ok h]
  exact Nat.lt_succ_self _

theorem shrinks_next {expected : Text} : Shrinks (next expected) := fun _ _ _ h => Nat.le_of_lt (next_unread h)

theorem shrinks_take {read? : Token → Option α} {expected : Text} : Shrinks (take read? expected) := by
  intro c a c' h
  obtain ⟨t, -, hk⟩ := take_ok h
  rw [← c.length_kinds, ← c'.length_kinds, hk]
  exact Nat.le_succ _

theorem shrinks_atEnd : Shrinks atEnd := by
  intro c b c' h
  cases h
  exact Nat.le_refl _

theorem agree_refl (n : Nat) (r : Reader α) : Agree n r r := fun _ _ => rfl

theorem Agree.andThen (h : Agree n r s) (f : α → Reader β) : Agree n (r >>= f) (s >>= f) :=
  fun c hc => bind_of_eq (h c hc)

theorem agree_after (hr : Shrinks r) (h : ∀ a, Agree n (f a) (g a)) : Agree n (r >>= f) (r >>= g) := by
  intro c hc
  cases hrc : r c with
  | ok a c' =>
    rw [bind_of_ok hrc, bind_of_ok hrc]
    exact h a c' (Nat.lt_of_le_of_lt (hr c a c' hrc) hc)
  | error e c' => rw [bind_of_error hrc, bind_of_error hrc]

theorem Agree.bind (h : Agree n r s) (hs : Shrinks s) (hf : ∀ a, Agree n (f a) (g a)) :
    Agree n (r >>= f) (s >>= g) :=
  fun c hc => (h.andThen f c hc).trans (agree_after hs hf c hc)

/-- Behind a token there are fewer ahead. -/
theorem agree_next {expected : Text} {f g : Token → Reader β} (h : ∀ t, Agree n (f t) (g t)) :
    Agree (n + 1) (next expected >>= f) (next expected >>= g) := by
  intro c hc
  cases hn : next expected c with
  | ok t c' =>
    rw [bind_of_ok hn, bind_of_ok hn]
    exact h t c' (Nat.lt_of_lt_of_le (next_unread hn) (Nat.le_of_lt_succ hc))
  | error e c' => rw [bind_of_error hn, bind_of_error hn]

/-! ## Equations with one solution -/

/-- What `step` makes of a reader looks at it only behind a token, for readers that are `good`. -/
def Descends (step : Reader α → Reader α) (good : Reader α → Prop) : Prop :=
  ∀ n r s, good s → Agree n r s → Agree (n + 1) (step r) (step s)

/-- A reader whose bound is computed where it begins. -/
def bounded (within : Nat → Reader α) : Reader α := fun c => within (c.unread + 1) c

section
variable {step : Reader α → Reader α} {good : Reader α → Prop} {within : Nat → Reader α}
  (hd : Descends step good) (hs : ∀ n, within (n + 1) = step (within n)) (hg : ∀ n, good (within n))
include hd hs hg

/-- A greater bound changes nothing. -/
theorem agree_within (h : n ≤ m) : Agree n (within m) (within n) := by
  induction n generalizing m with
  | zero => exact fun c hc => absurd hc (Nat.not_lt_zero _)
  | succ n ih =>
    obtain ⟨m, rfl⟩ := Nat.exists_eq_succ_of_ne_zero (Nat.ne_of_gt (Nat.lt_of_lt_of_le (Nat.succ_pos n) h))
    rw [Nat.succ_eq_add_one, hs m, hs n]
    exact hd n _ _ (hg n) (ih (Nat.le_of_succ_le_succ h))

theorem agree_bounded (n : Nat) : Agree n (bounded within) (within n) :=
  fun c hc => (agree_within hd hs hg hc c (Nat.lt_succ_self _)).symm

theorem Descends.step_bounded : step (bounded within) = bounded within := by
  funext c
  have h := hd c.unread _ _ (hg c.unread) (agree_bounded hd hs hg c.unread) c (Nat.lt_succ_self _)
  rw [h, ← hs]
  rfl

/-- The equation has no other solution: what a reader does is determined from few tokens up to many. -/
theorem Descends.eq_bounded_iff (hb : good (bounded within)) : r = step r ↔ r = bounded within := by
  have he := hd.step_bounded hs hg
  refine ⟨fun hr => ?_, fun hr => by rw [hr, he]⟩
  have ha : ∀ n, Agree n r (bounded within) := by
    intro n
    induction n with
    | zero => exact fun c hc => absurd hc (Nat.not_lt_zero _)
    | succ n ih =>
      rw [hr, ← he]
      exact hd n _ _ hb ih
  funext c
  exact ha _ c (Nat.lt_succ_self _)

end

/-! ## Expressions -/

/-- An operand has a first token, which was handed out before. -/
theorem operandWith_shrinks {inner : Reader Expr} (hi : Sound inner Expr.Spelled) (t : Token) :
    Shrinks (operandWith inner t) := by
  intro c a c' hc
  obtain ⟨ks, hk, ha⟩ := operandWith_ok hi hc
  obtain ⟨k, ls, rfl, -⟩ := operand_begins ha
  rw [List.cons_append, List.cons.injEq] at hk
  rw [← c.length_kinds, ← c'.length_kinds, hk.2, List.length_append]
  exact Nat.le_add_left _ _

section
variable {inner inner' : Reader Expr} (h : Agree n inner inner')
include h

theorem operandWith_agree (t : Token) : Agree n (operandWith inner t) (operandWith inner' t) := by
  unfold operandWith
  cases t.kind with
  | bracketOpen => exact h.andThen _
  | _ => exact agree_refl n _

theorem expressionFrom_agree (left : Operand) : Agree n (expressionFrom inner left) (expressionFrom inner' left) := by
  refine agree_after shrinks_atEnd fun b => ?_
  cases b with
  | true => exact agree_refl n _
  | false =>
    refine agree_after shrinks_next fun t => ?_
    cases t.symbol? with
    | none => exact agree_refl n _
    | some symbol => exact agree_after shrinks_next fun u => (operandWith_agree h u).andThen _

/-- The first token of an expression has been taken when what is in parentheses begins. -/
theorem expressionWith_agree (hi : Sound inner' Expr.Spelled) :
    Agree (n + 1) (expressionWith inner) (expressionWith inner') := by
  refine agree_next fun t => ?_
  cases t.symbol? with
  | some symbol => exact agree_after shrinks_next fun u => (operandWith_agree h u).andThen _
  | none => exact (operandWith_agree h t).bind (operandWith_shrinks hi t) (expressionFrom_agree h)

end

theorem expressionWith_descends : Descends expressionWith fun r => Sound r Expr.Spelled :=
  fun _ _ _ hi h => expressionWith_agree h hi

theorem expression_eq_inner : expression = inner :=
  expressionWith_descends.step_bounded (fun _ => rfl) expressionWithin_ok

/-- Nothing but the reader of expressions reads what is in parentheses as it reads expressions. -/
theorem eq_expression_iff (r : Reader Expr) : r = expressionWith r ↔ r = expression := by
  rw [expression_eq_inner]
  exact expressionWith_descends.eq_bounded_iff (fun _ => rfl) expressionWithin_ok inner_ok

/-! ## Blocks -/

/-- The statements up to `end`, `body` reading those of a loop and those after the first one. -/
def blockWith (body : Reader (List Stmt)) : Reader (List Stmt) := do
  let t ← next "'end'"
  if t.kind = .keyword .endWord then return []
  let s ← statementWith body t
  return s :: (← body)

section
variable {body body' : Reader (List Stmt)} (h : Agree n body body')
include h

theorem loopWith_agree : Agree n (loopWith body) (loopWith body') := by
  refine agree_after shrinks_take fun _ => agree_after shrinks_take fun _ => ?_
  refine agree_after expression_ok.shrinks fun _ => agree_after shrinks_take fun _ => ?_
  refine agree_after expression_ok.shrinks fun _ => agree_after shrinks_take fun _ => ?_
  exact h.andThen _

theorem statementWith_agree (t : Token) : Agree n (statementWith body t) (statementWith body' t) := by
  unfold statementWith
  cases t.kind with
  | keyword k =>
    cases k with
    | forWord => exact loopWith_agree h
    | _ => exact agree_refl n _
  | _ => exact agree_refl n _

theorem blockWith_agree (hb : SoundBlock body') : Agree (n + 1) (blockWith body) (blockWith body') := by
  refine agree_next fun t => ?_
  by_cases ht : t.kind = .keyword .endWord
  · simp only [if_pos ht]
    exact agree_refl n _
  · simp only [if_neg ht]
    exact (statementWith_agree h t).bind (statementWith_ok hb).shrinks fun s => h.andThen _

end

theorem blockWith_descends : Descends blockWith SoundBlock := fun _ _ _ hb h => blockWith_agree h hb

/-- Nothing but the reader of blocks reads them, those of inner loops included, statement by statement. -/
theorem eq_block_iff (r : Reader (List Stmt)) : r = blockWith r ↔ r = block :=
  blockWith_descends.eq_bounded_iff (fun _ => rfl) blockWithin_ok block_ok

/-! ## Programs -/

/-- The statements up to the last token, `others` reading those after the first one. -/
def programWith (others : Reader Program) : Reader Program := do
  if ← atEnd then return []
  let s ← statement (← next "statement")
  return s :: (← others)

theorem programWith_agree {others others' : Reader Program} (h : Agree n others others') :
    Agree (n + 1) (programWith others) (programWith others') := by
  refine agree_after shrinks_atEnd fun b => ?_
  cases b with
  | true => exact agree_refl _ _
  | false => exact agree_next fun t => agree_after statement_ok.shrinks fun s => h.andThen _

theorem programWith_descends : Descends programWith fun _ => True := fun _ _ _ _ h => programWith_agree h

/-- Nothing but the reader of programs reads them statement by statement. -/
theorem eq_program_iff (r : Reader Program) : r = programWith r ↔ r = program :=
  programWith_descends.eq_bounded_iff (fun _ => rfl) (fun _ => trivial) trivial

end Reader

end MiniPL
