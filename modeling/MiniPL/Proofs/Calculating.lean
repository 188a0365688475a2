import MiniPL.Arithmetic
import MiniPL.Proofs.Joining
/-!
# A program calculates what is computed directly

The program of `Arithmetic.byProgram` is the source of a tree (`question_eq`) whose operands evaluate to the two
numbers, so it prints or fails as the direct computation does. This takes literals for both magnitudes; without one
the scanner refuses the program at that literal.
-/

namespace MiniPL

namespace Arithmetic

/-- The results are the same number, or the second is a report in which the first is found. -/
def Agree : Except Text Int → Except Text Int → Prop
  | .ok m, .ok n => m = n
  | .error s, .error t => s <:+: t
  | _, _ => False

/-- There is a literal for the magnitude of the number. -/
def HasLiteral (n : Int) : Prop := (n.natAbs : Int) ≤ Value.maxInt

instance (n : Int) : Decidable (HasLiteral n) := inferInstanceAs (Decidable (_ ≤ _))

/-! ## Numbers -/

theorem quotient_eq_tdiv (a b : Int) : quotient a b = a.tdiv b := by
  have hn : ∀ n : Nat, decide (Int.ofNat n < 0) = false := fun n =>
    decide_eq_false (Int.not_lt.2 (Int.natCast_nonneg n))
  have hs : ∀ n : Nat, decide (Int.negSucc n < 0) = true := fun n => decide_eq_true (Int.negSucc_lt_zero n)
  unfold quotient
  cases a with
  | ofNat m =>
    cases b with
    | ofNat n => simp only [hn]; rfl
    | negSucc n => simp only [hn, hs]; rfl
  | negSucc m =>
    cases b with
    | ofNat n => simp only [hn, hs]; rfl
    | negSucc n => simp only [hs]; rfl

/-! ## The program -/

/-- A number as an operand: a literal, or a difference in parentheses. -/
def tree (n : Int) : Operand :=
  if 0 ≤ n then .literal (.int n) else .group (.binary (.literal (.int 0)) .sub (.literal (.int (-n))))

/-- The statement that prints the result of an operation. -/
def statement (op : Operation) (a b : Int) : Stmt := .print (.binary (tree a) op.operator (tree b))

theorem tree_source (n : Int) : (tree n).source = operand n := by
  unfold tree operand
  split
  · rfl
  · simp [Operand.source, Expr.source, Value.literal, Value.display, Operator.symbol, Operator.char, Text.ofInt]

theorem question_eq (op : Operation) (a b : Int) : question op a b = (statement op a b).source [] := by
  unfold question statement
  rw [Stmt.source, Expr.source, tree_source, tree_source, List.nil_append]
  simp only [List.append_assoc]

theorem tree_writable {n : Int} (h : HasLiteral n) : Writable (tree n).names (tree n).integers := by
  unfold HasLiteral at h
  unfold tree
  split
  · exact writable_integer.2 ⟨by assumption, by omega⟩
  · refine @writable_append [] [] [0] [-n] |>.2 ⟨writable_integer.2 ⟨by decide, by decide⟩, ?_⟩
    exact writable_integer.2 ⟨by omega, by omega⟩

theorem HasLiteral.inRange {n : Int} (h : HasLiteral n) : Value.InRange n := by
  unfold HasLiteral Value.maxInt at h
  unfold Value.InRange Value.minInt Value.maxInt
  omega

theorem tree_eval {n : Int} (h : HasLiteral n) (t : NameTable) : (tree n).eval t = .ok (.int n) := by
  unfold tree
  split
  · rfl
  · show Value.checked (0 - -n) = _
    rw [Int.zero_sub, Int.neg_neg]
    exact if_pos h.inRange

/-- Operands with literals make a program. -/
theorem ofText_question {op : Operation} {a b : Int} (ha : HasLiteral a) (hb : HasLiteral b) :
    Program.ofText (question op a b) = .ok [statement op a b] := by
  have hl : Lexes [] [] [] := ⟨[], .done, rfl⟩
  have hw : Writable (statement op a b).names (statement op a b).integers :=
    writable_append.2 ⟨tree_writable ha, tree_writable hb⟩
  have hi : ∀ c ∈ ([] : Text), Text.isBlank c := by simp
  obtain ⟨ts, hs, hk⟩ := Stmt.source_lexes hw hi hl
  rw [List.append_nil, ← question_eq] at hs
  refine Program.ofText_ok.2 ⟨ts, hs, ?_⟩
  show Stmt.BlockSpelled _ _
  rw [hk]
  exact Stmt.blockSpelled [statement op a b]

/-! ## Its run -/

theorem run_print (m : Machine) (e : Expr) : m.run [.print e] = match e.eval m.table with
    | .ok v => { fault := none, machine := { m with printed := v.display :: m.printed } }
    | .error f => { fault := some f, machine := m } := by
  have hs : Stmt.runAll [.print e] = Run.value e >>= fun v => Run.print v.display := by
    simp [Stmt.runAll, Stmt.run]
  have hv : Run.value e m = Run.ofExcept (e.eval m.table) m := rfl
  unfold Machine.run EStateM.run
  rw [hs]
  cases he : e.eval m.table with
  | ok v =>
    rw [he] at hv
    rw [bind_of_ok (hv.trans rfl)]
    rfl
  | error f =>
    rw [he] at hv
    rw [bind_of_error (hv.trans rfl)]

theorem apply_eq (op : Operation) (a b : Int) : op.operator.apply (.int a) (.int b) =
    if op = .div ∧ b = 0 then .error .divisionByZero else Value.checked (exact op a b) := by
  cases op with
  | div =>
    show Operator.quotient _ _ = _
    by_cases hb : b = 0
    · subst hb; rfl
    · rw [Operator.quotient_eq_checked hb, if_neg fun h => hb h.2, exact, quotient_eq_tdiv]
  | _ => exact (if_neg (by simp)).symm

/-- The program prints the result, or is stopped by a division by zero or a result without a place. -/
theorem byProgram_eq {op : Operation} {a b : Int} (ha : HasLiteral a) (hb : HasLiteral b) :
    byProgram op a b =
      if op = .div ∧ b = 0 then .error Fault.divisionByZero.render
      else if Value.InRange (exact op a b) then .ok (exact op a b)
      else .error (Fault.overflow (exact op a b)).render := by
  obtain ⟨events, ho⟩ := Machine.submit_of_ofText (ofText_question ha hb) (Machine.fresh (.ofText []))
  have he : ∀ t, (Expr.binary (tree a) op.operator (tree b)).eval t = op.operator.apply (.int a) (.int b) := by
    intro t
    rw [Expr.eval, tree_eval ha, tree_eval hb]
    rfl
  unfold byProgram
  rw [ho, statement, run_print, he, apply_eq]
  unfold Value.checked
  by_cases hd : op = .div ∧ b = 0
  · rw [if_pos hd, if_pos hd]
    rfl
  rw [if_neg hd, if_neg hd]
  by_cases hr : Value.InRange (exact op a b)
  · rw [if_pos hr, if_pos hr]
    simp [Machine.output, Machine.fresh, Value.display, Value.signed?_ofInt]
  · rw [if_neg hr, if_neg hr]
    rfl

theorem direct_cases (op : Operation) (a b : Int) :
    ((op = .div ∧ b = 0) ∧ direct op a b = .error "Division by zero") ∨
    (¬ (op = .div ∧ b = 0) ∧ Value.InRange (exact op a b) ∧ direct op a b = .ok (exact op a b)) ∨
    (¬ (op = .div ∧ b = 0) ∧ ¬ Value.InRange (exact op a b) ∧ direct op a b = .error "Integer overflow") := by
  unfold direct
  by_cases hd : op = .div ∧ b = 0
  · exact .inl ⟨hd, if_pos hd⟩
  rw [if_neg hd]
  by_cases hr : Value.InRange (exact op a b)
  · exact .inr (.inl ⟨hd, hr, if_pos hr⟩)
  · exact .inr (.inr ⟨hd, hr, if_neg hr⟩)

theorem agree_of_hasLiteral {op : Operation} {a b : Int} (ha : HasLiteral a) (hb : HasLiteral b) :
    Agree (direct op a b) (byProgram op a b) := by
  rw [byProgram_eq ha hb]
  rcases direct_cases op a b with ⟨hd, h⟩ | ⟨hd, hr, h⟩ | ⟨hd, hr, h⟩
  · rw [h, if_pos hd]
    exact ⟨"[Runtime error] ", [], rfl⟩
  · rw [h, if_neg hd, if_pos hr]
    rfl
  · rw [h, if_neg hd, if_neg hr]
    exact ⟨"[Runtime error] ", ": " ++ Text.ofInt (exact op a b) ++ " does not fit in 32 bits", rfl⟩

/-! ## A magnitude without a literal -/

/-- An operand is its digits and what surrounds them, which are tokens before the digits and no part of them after. -/
theorem operand_cut (n : Int) {t : Text} (ht : Closes t) : ∃ before after,
    operand n ++ t = before ++ (Text.ofNat n.natAbs ++ after) ∧ Closes after ∧
      ∃ ks, Lexes (operand n ++ t) ks (Text.ofNat n.natAbs ++ after) := by
  have hl : ∀ u, Lexes u [] u := fun u => ⟨[], .done, rfl⟩
  cases n with
  | ofNat m => exact ⟨[], t, rfl, ht, [], hl _⟩
  | negSucc m =>
    have he : operand (.negSucc m) ++ t =
        '(' :: (Text.ofNat 0 ++ ' ' :: (Operator.sub.symbol ++ ' ' :: (Text.ofNat (m + 1) ++ ')' :: t))) := by
      show "(0 - " ++ Text.ofNat (m + 1) ++ ")" ++ t = _
      rw [List.append_assoc, List.append_assoc]
      rfl
    have hs := lexes_operator .sub (by decide) (by decide) (lexes_space (hl (Text.ofNat (m + 1) ++ ')' :: t)))
    have hz := lexes_decimal (decimal_toDigits 0) (by decide) closes_space (lexes_space hs)
    rw [he]
    exact ⟨"(0 - ", ')' :: t, rfl, closes_close, _, lexes_open hz⟩

/-- The first of two numbers for which there is no literal, if one of them has none. -/
def offender (a b : Int) : Int := if HasLiteral a then b else a

theorem question_cut (op : Operation) (a b : Int) : ∃ before after,
    question op a b = before ++ (Text.ofNat (offender a b).natAbs ++ after) ∧ Closes after ∧
      ∃ ks, Lexes (question op a b) ks (Text.ofNat (offender a b).natAbs ++ after) := by
  have hq : question op a b =
      Keyword.print.word ++ ' ' :: (operand a ++ ' ' :: (op.operator.symbol ++ ' ' :: (operand b ++ [';']))) := by
    unfold question
    simp only [List.append_assoc]
    rfl
  rw [hq]
  unfold offender
  by_cases ha : HasLiteral a
  · rw [if_pos ha]
    obtain ⟨before, after, he, hc, ks, hl⟩ := operand_cut b (closes_end (t := []))
    let start := Keyword.print.word ++ ' ' :: (operand a ++ ' ' :: (op.operator.symbol ++ ' ' :: before))
    refine ⟨start, after, ?_, hc, ?_⟩
    · rw [he]
      simp only [start, List.append_assoc, List.cons_append]
    · rw [← tree_source a]
      have ho := lexes_operator op.operator (by decide) (by decide) (lexes_space hl)
      have hs := Operand.source_lexes (tree_writable ha) closes_space (lexes_space ho)
      exact ⟨_, lexes_keyword_space .print hs⟩
  · rw [if_neg ha]
    obtain ⟨before, after, he, hc, ks, hl⟩ :=
      operand_cut a (closes_space (t := op.operator.symbol ++ ' ' :: (operand b ++ [';'])))
    refine ⟨Keyword.print.word ++ ' ' :: before, after, ?_, hc, _, lexes_keyword_space .print hl⟩
    rw [he, List.append_assoc, List.cons_append]

theorem byProgram_of_stuck {op : Operation} {a b : Int} {before rest : Text} {ks : List Token.Kind}
    {cause : Scanner.Cause} (he : question op a b = before ++ rest) (hl : Lexes (question op a b) ks rest)
    (hs : Stuck rest cause) :
    byProgram op a b = .error (Failure.scan (question op a b) { cause, index := before.length }).render := by
  obtain ⟨ts, hp, -⟩ := hl
  have hi : (question op a b).length - rest.length = before.length := by
    rw [he, List.length_append]
    omega
  have hf : Token.ofText (question op a b) = .error (.scan (question op a b) { cause, index := before.length }) := by
    rw [← hi]
    exact congrArg (Except.mapError _) (Scanner.scan_of_stuck hp hs)
  unfold byProgram Machine.submit
  rw [hf]

/-- Without a literal for one of the numbers the program is refused where its digits are. -/
theorem byProgram_refused (op : Operation) {a b : Int} (h : ¬ (HasLiteral a ∧ HasLiteral b)) :
    ∃ before digits after, digits = Text.ofNat (offender a b).natAbs ∧
      question op a b = before ++ digits ++ after ∧
      byProgram op a b =
        .error (Failure.scan (question op a b) { cause := .outOfRange digits, index := before.length }).render := by
  obtain ⟨before, after, he, hc, ks, hl⟩ := question_cut op a b
  obtain ⟨c, u, rfl, hw⟩ := hc
  have ho : ¬ HasLiteral (offender a b) := by
    unfold offender
    split
    · next ha => exact fun hb => h ⟨ha, hb⟩
    · assumption
  have hn : IsNumber (Text.ofNat (offender a b).natAbs) :=
    ⟨Nat.toDigits_ne_nil, fun c hc => isDigit_of_mem_toDigits hc⟩
  have hv : Value.maxInt < Text.toNat (Text.ofNat (offender a b).natAbs) := by
    rw [Text.ofNat, toNat_toDigits]
    exact Int.not_le.1 ho
  refine ⟨before, _, c :: u, rfl, by rw [he, List.append_assoc], ?_⟩
  exact byProgram_of_stuck he hl (.outOfRange hn hv fun hd => hw (isWordChar_of_isDigit hd))

/-! ## The refusal is none of the texts of the direct computation -/

section
variable {c : Char}

theorem not_mem_ofNat (hd : ¬ Text.isDigit c) (n : Nat) : c ∉ Text.ofNat n := fun h => hd (isDigit_of_mem_toDigits h)

theorem not_mem_flatten {t : Text} (h : c ∉ t) (hs : c ≠ ' ') : c ∉ t.map Text.flatten := by
  rw [List.mem_map]
  rintro ⟨d, hm, hf⟩
  unfold Text.flatten at hf
  split at hf
  · exact hs hf.symm
  · exact h (hf ▸ hm)

/-- A window shows characters of the text, spaces, dots and a caret. -/
theorem not_mem_window {t : Text} (h : c ∉ t) (hc : c ∉ [' ', '.', '^']) (index context : Nat) :
    c ∉ (t.windowAt index context).shown ∧ c ∉ (t.windowAt index context).caret := by
  simp only [List.mem_cons, List.not_mem_nil, or_false, not_or] at hc
  obtain ⟨hs, hd, hp⟩ := hc
  have he : ∀ cut, c ∉ Text.ellipsis cut := by
    intro cut
    cases cut
    · exact List.not_mem_nil
    · intro hm
      exact hd (List.eq_of_mem_replicate (n := 3) hm)
  have ht : c ∉ (t.take (min t.length (index + context))).drop (index - context) := fun hm =>
    h (List.mem_of_mem_take (List.mem_of_mem_drop hm))
  unfold Text.windowAt
  simp only [List.mem_append, List.mem_singleton, not_or]
  exact ⟨⟨⟨he _, not_mem_flatten ht hs⟩, he _⟩, fun hm => hs (List.eq_of_mem_replicate hm), hp⟩

end

theorem not_mem_operand (n : Int) : 'v' ∉ operand n := by
  have hd : ∀ m, 'v' ∉ Text.ofNat m := not_mem_ofNat (by decide)
  unfold operand
  cases n with
  | ofNat m => exact hd m
  | negSucc m =>
    exact List.not_mem_append (List.not_mem_append (by decide) (hd (m + 1))) (by decide)

theorem not_mem_question (op : Operation) (a b : Int) : 'v' ∉ question op a b := by
  have ho : 'v' ∉ op.operator.symbol := by cases op <;> decide
  unfold question
  simp only [List.mem_append, not_or]
  exact ⟨⟨⟨⟨⟨⟨by decide, not_mem_operand a⟩, by decide⟩, ho⟩, by decide⟩, not_mem_operand b⟩, by decide⟩

/-- No `v` is in the report of a refused literal. -/
theorem not_mem_refusal (op : Operation) (a b : Int) (n index : Nat) :
    'v' ∉ (Failure.scan (question op a b) { cause := .outOfRange (Text.ofNat n), index }).render := by
  have hm : 'v' ∉ (Scanner.Cause.outOfRange (Text.ofNat n)).text :=
    List.not_mem_append (List.not_mem_append (by decide) (not_mem_ofNat (by decide) n)) (by decide)
  obtain ⟨hs, hc⟩ := not_mem_window (not_mem_question op a b) (by decide) index 10
  let window := (question op a b).windowAt index 10
  show 'v' ∉ ("[Lexical error] " : Text) ++ Scanner.Cause.text (.outOfRange (Text.ofNat n)) ++
    (['\n'] ++ (window.shown ++ (['\n'] ++ (window.caret ++ []))))
  simp only [List.mem_append, not_or]
  exact ⟨⟨by decide, hm⟩, by decide, hs, by decide, hc, List.not_mem_nil⟩

/-- There is a `v` in everything that the direct computation says is wrong. -/
theorem mem_of_direct_error {op : Operation} {a b : Int} {s : Text} (h : direct op a b = .error s) : 'v' ∈ s := by
  rcases direct_cases op a b with ⟨-, hd⟩ | ⟨-, -, hd⟩ | ⟨-, -, hd⟩
  · rw [hd] at h
    cases h
    decide
  · rw [hd] at h
    cases h
  · rw [hd] at h
    cases h
    decide

theorem not_agree_of_refused {op : Operation} {a b : Int} (h : ¬ (HasLiteral a ∧ HasLiteral b)) :
    ¬ Agree (direct op a b) (byProgram op a b) := by
  obtain ⟨before, _, after, rfl, -, he⟩ := byProgram_refused op h
  rw [he]
  cases hd : direct op a b with
  | ok n => exact id
  | error s => exact fun hi => not_mem_refusal op a b _ _ (hi.subset (mem_of_direct_error hd))

/-! ## The two computations -/

/-- The program agrees with the direct computation exactly if there are literals for both magnitudes. Otherwise it is
refused, where the first literal that does not fit begins. -/
theorem agree_byProgram_iff (op : Operation) (a b : Int) :
    (Agree (direct op a b) (byProgram op a b) ↔ HasLiteral a ∧ HasLiteral b) ∧
      (¬ (HasLiteral a ∧ HasLiteral b) → ∃ before digits after, digits = Text.ofNat (offender a b).natAbs ∧
        question op a b = before ++ digits ++ after ∧
        byProgram op a b =
          .error (Failure.scan (question op a b) { cause := .outOfRange digits, index := before.length }).render) :=
  ⟨⟨fun h => Classical.byContradiction fun hn => not_agree_of_refused hn h, fun h => agree_of_hasLiteral h.1 h.2⟩,
    byProgram_refused op⟩

/-- The least number of the language is a value without a literal. -/
theorem agree_byProgram_minInt : Value.InRange Value.minInt ∧ ¬ HasLiteral Value.minInt ∧
    ¬ Agree (direct .add Value.minInt 1) (byProgram .add Value.minInt 1) ∧
    ∃ before digits after, digits = "2147483648".toList ∧
      question .add Value.minInt 1 = before ++ digits ++ after ∧
      byProgram .add Value.minInt 1 = .error (Failure.scan (question .add Value.minInt 1)
        { cause := .outOfRange digits, index := before.length }).render := by
  have h : ¬ (HasLiteral Value.minInt ∧ HasLiteral 1) := by decide
  obtain ⟨hi, hr⟩ := agree_byProgram_iff .add Value.minInt 1
  obtain ⟨before, _, after, rfl, hq, he⟩ := hr h
  exact ⟨by decide, by decide, fun ha => h (hi.1 ha), before, _, after, by decide, hq, he⟩

end Arithmetic

end MiniPL
