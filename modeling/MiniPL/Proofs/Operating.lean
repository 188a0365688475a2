import MiniPL.Proofs.Failing
import MiniPL.Proofs.Typing
/-!
# What operators make of operands

`Operator.Makes` is the table of the operators: a row for each operator and the types that it takes, one for an operator
in the wrong place and one for types that it does not take. The evaluation of an operator is what the table says, and
nothing else is (`Operator.makes_iff`). In the row of the division the quotient is known by its product with the divisor
alone (`Operator.Cut`).
-/

namespace MiniPL

/-! ## Quotients -/

/-- The product of `q` and the divisor `b` does not pass the dividend `a`, is not a whole divisor away from it, and does
not lie on the other side of zero. -/
structure Operator.Cut (a b q : Int) : Prop where
  within : (q * b).natAbs ≤ a.natAbs
  near : (a - q * b).natAbs < b.natAbs
  side : (0 < a → 0 ≤ q * b) ∧ (a < 0 → q * b ≤ 0)

namespace Operator

variable {a b q q' : Int}

theorem cut_tdiv (a : Int) (hb : b ≠ 0) : Cut a b (a.tdiv b) := by
  have hp := Int.tdiv_mul_self a b
  have hm := Int.natAbs_tmod a b
  have hlt : a.natAbs % b.natAbs < b.natAbs := Nat.mod_lt _ (by omega)
  have hle := Nat.mod_le a.natAbs b.natAbs
  -- The remainder lies on the side of the dividend.
  have hpos : 0 ≤ a → 0 ≤ a.tmod b := Int.tmod_nonneg b
  have hneg : a ≤ 0 → a.tmod b ≤ 0 := by
    intro ha
    have h := Int.tmod_nonneg b (Int.neg_nonneg_of_nonpos ha)
    rw [Int.neg_tmod] at h
    omega
  constructor <;> omega

/-- Two products that are both that near to the dividend are the same multiple of the divisor. -/
theorem Cut.unique (h : Cut a b q) (h' : Cut a b q') : q' = q := by
  obtain ⟨hw, hn, hs⟩ := h
  obtain ⟨hw', hn', hs'⟩ := h'
  have hd : ((q' - q) * b).natAbs < b.natAbs := by
    rw [Int.sub_mul]
    omega
  rw [Int.natAbs_mul] at hd
  have hz : (q' - q).natAbs = 0 := by
    apply Classical.byContradiction
    intro hne
    have hle := Nat.le_mul_of_pos_left b.natAbs (Nat.pos_of_ne_zero hne)
    omega
  omega

/-- Of numbers with a place in 32 bits only the least one, divided by minus one, has a quotient without. -/
theorem Cut.not_inRange_iff (h : Cut a b q) (ha : Value.InRange a) (hb : b ≠ 0) :
    ¬ Value.InRange q ↔ a = Value.minInt ∧ b = -1 := by
  obtain ⟨hw, hn, hs⟩ := h
  unfold Value.InRange Value.minInt Value.maxInt at ha ⊢
  constructor
  · intro hq
    have hb' : b = 1 ∨ b = -1 := by
      apply Classical.byContradiction
      intro hne
      -- A divisor of two or more halves the dividend.
      have hle := Nat.mul_le_mul_left q.natAbs (show 2 ≤ b.natAbs by omega)
      rw [Int.natAbs_mul] at hw
      omega
    rcases hb' with rfl | rfl <;> omega
  · rintro ⟨rfl, rfl⟩
    omega

end Operator

/-! ## The order of texts -/

/-- The one text is the beginning of the other, or has the lesser code point where they first differ. -/
def Text.Before (s t : Text) : Prop :=
  (∃ d u, t = s ++ d :: u) ∨ ∃ p c d u v, s = p ++ c :: u ∧ t = p ++ d :: v ∧ c.toNat < d.toNat

theorem Text.before_nil (t : Text) : Before [] t ↔ t ≠ [] := by
  constructor
  · rintro (⟨d, u, rfl⟩ | ⟨p, c, d, u, v, hs, -⟩)
    · simp
    · simp at hs
  · intro ht
    obtain ⟨d, u, rfl⟩ := List.exists_cons_of_ne_nil ht
    exact .inl ⟨d, u, rfl⟩

theorem Text.not_before_empty (s : Text) : ¬ Before s [] := by
  rintro (⟨d, u, h⟩ | ⟨p, c, d, u, v, -, h, -⟩)
  · simp at h
  · simp at h

theorem Text.before_cons (c d : Char) (s t : Text) :
    Before (c :: s) (d :: t) ↔ c.toNat < d.toNat ∨ c = d ∧ Before s t := by
  constructor
  · rintro (⟨e, u, h⟩ | ⟨p, c', d', u, v, hs, ht, hlt⟩)
    · simp only [List.cons_append, List.cons.injEq] at h
      obtain ⟨rfl, rfl⟩ := h
      exact .inr ⟨rfl, .inl ⟨e, u, rfl⟩⟩
    · cases p with
      | nil =>
        simp only [List.nil_append, List.cons.injEq] at hs ht
        rw [hs.1, ht.1]
        exact .inl hlt
      | cons e p =>
        simp only [List.cons_append, List.cons.injEq] at hs ht
        exact .inr ⟨hs.1.trans ht.1.symm, .inr ⟨p, c', d', u, v, hs.2, ht.2, hlt⟩⟩
  · rintro (hlt | ⟨rfl, ⟨e, u, rfl⟩ | ⟨p, c', d', u, v, rfl, rfl, hlt⟩⟩)
    · exact .inr ⟨[], c, d, s, t, rfl, rfl, hlt⟩
    · exact .inl ⟨e, u, rfl⟩
    · exact .inr ⟨c :: p, c', d', u, v, rfl, rfl, hlt⟩

theorem Text.lt_iff_before (s t : Text) : s < t ↔ s.Before t := by
  induction s generalizing t with
  | nil => cases t <;> simp [before_nil]
  | cons c s ih =>
    cases t with
    | nil => simp [not_before_empty]
    | cons d t =>
      have hlt : c < d ↔ c.toNat < d.toNat := UInt32.lt_iff_toNat_lt
      rw [before_cons, List.cons_lt_cons_iff, ih, hlt]

/-! ## The table -/

namespace Operator

/-- A number as a result: itself, if it has a place in 32 bits. -/
def held (n : Int) : Except Failure.Kind Value := if Value.InRange n then .ok (.int n) else .error .overflow

/-- What an operator makes of two operands. -/
inductive Makes : Operator → Value → Value → Except Failure.Kind Value → Prop
  | sum (a b : Int) : Makes .add (.int a) (.int b) (held (a + b))
  | difference (a b : Int) : Makes .sub (.int a) (.int b) (held (a - b))
  | product (a b : Int) : Makes .mul (.int a) (.int b) (held (a * b))
  | concatenation (s t : Text) : Makes .add (.string s) (.string t) (.ok (.string (s ++ t)))
  | byZero (a : Int) : Makes .div (.int a) (.int 0) (.error .divisionByZero)
  | quotient {a b q : Int} : b ≠ 0 → Cut a b q → Makes .div (.int a) (.int b) (held q)
  | conjunction (p q : Bool) : Makes .and (.bool p) (.bool q) (.ok (.bool (p && q)))
  /-- Values of all types can be compared. Those of different types are different. -/
  | equality {l r : Value} {p : Bool} : (p = true ↔ l = r) → Makes .equal l r (.ok (.bool p))
  | numbers {a b : Int} {p : Bool} : (p = true ↔ a < b) → Makes .less (.int a) (.int b) (.ok (.bool p))
  | texts {s t : Text} {p : Bool} : (p = true ↔ s.Before t) → Makes .less (.string s) (.string t) (.ok (.bool p))
  | truths {p q r : Bool} : (r = true ↔ p = false ∧ q = true) → Makes .less (.bool p) (.bool q) (.ok (.bool r))
  | misplaced (l r : Value) : Makes .not l r (.error .arity)
  | mismatch {op : Operator} {l r : Value} : op ≠ .not → op.ty? l.ty r.ty = none → Makes op l r (.error .typeMismatch)

/-- What an operator makes of its only operand. -/
inductive MakesUnary : Operator → Value → Except Failure.Kind Value → Prop
  | negation (p : Bool) : MakesUnary .not (.bool p) (.ok (.bool (!p)))
  | mismatch {v : Value} : v.ty ≠ .bool → MakesUnary .not v (.error .typeMismatch)
  | misplaced {op : Operator} (v : Value) : op ≠ .not → MakesUnary op v (.error .arity)

theorem mapError_checked (n : Int) : (Value.checked n).mapError Fault.kind = held n := by
  unfold Value.checked held
  split <;> rfl

/-- An operator looks at the types before it computes. -/
theorem apply_mismatch {op : Operator} {l r : Value} (hn : op ≠ .not) (h : op.ty? l.ty r.ty = none) :
    (op.apply l r).mapError Fault.kind = .error .typeMismatch := by
  cases op with
  | equal => cases h
  | not => exact absurd rfl hn
  | _ => cases l <;> cases r <;> cases h <;> rfl

theorem makes_apply (op : Operator) (l r : Value) : op.Makes l r ((op.apply l r).mapError Fault.kind) := by
  by_cases hn : op = .not
  · rw [hn]
    exact .misplaced l r
  cases hty : op.ty? l.ty r.ty with
  | none =>
    rw [apply_mismatch hn hty]
    exact .mismatch hn hty
  | some ty =>
    cases op with
    | add =>
      cases l <;> cases r <;> cases hty
      · exact mapError_checked _ ▸ .sum _ _
      · exact .concatenation _ _
    | sub =>
      cases l <;> cases r <;> cases hty
      exact mapError_checked _ ▸ .difference _ _
    | mul =>
      cases l <;> cases r <;> cases hty
      exact mapError_checked _ ▸ .product _ _
    | div =>
      cases l <;> cases r <;> cases hty
      rename_i a b
      by_cases hb : b = 0
      · rw [hb]
        exact .byZero a
      · show Makes .div _ _ ((Operator.quotient (.int a) (.int b)).mapError Fault.kind)
        rw [quotient_eq_checked hb, mapError_checked]
        exact .quotient hb (cut_tdiv a hb)
    | and =>
      cases l <;> cases r <;> cases hty
      exact .conjunction _ _
    | equal => exact .equality decide_eq_true_iff
    | less =>
      cases l <;> cases r <;> cases hty
      · exact .numbers decide_eq_true_iff
      · exact .texts (decide_eq_true_iff.trans (Text.lt_iff_before _ _))
      · exact .truths (by simp)
    | not => exact absurd rfl hn

/-- No two rows disagree. -/
theorem apply_of_makes {op : Operator} {l r : Value} {x : Except Failure.Kind Value} (h : op.Makes l r x) :
    (op.apply l r).mapError Fault.kind = x := by
  have same {p q : Bool} {P : Prop} (hp : p = true ↔ P) (hq : q = true ↔ P) :
      (.ok (.bool p) : Except Failure.Kind Value) = .ok (.bool q) := by
    rw [Bool.eq_iff_iff.2 (hp.trans hq.symm)]
  cases h with
  | sum a b => exact mapError_checked _
  | difference a b => exact mapError_checked _
  | product a b => exact mapError_checked _
  | concatenation s t => rfl
  | byZero a => rfl
  | @quotient a b q hb hc =>
    show (Operator.quotient (.int a) (.int b)).mapError Fault.kind = _
    rw [quotient_eq_checked hb, mapError_checked, hc.unique (cut_tdiv a hb)]
  | conjunction p q => rfl
  | equality hp => exact same decide_eq_true_iff hp
  | numbers hp => exact same decide_eq_true_iff hp
  | @texts s t p hp =>
    have hlt : decide (s < t) = true ↔ s.Before t := decide_eq_true_iff.trans (Text.lt_iff_before s t)
    exact same hlt hp
  | @truths p q r hp =>
    have hlt : (!p && q) = true ↔ p = false ∧ q = true := by simp
    exact same hlt hp
  | misplaced l r => rfl
  | mismatch hn hty => exact apply_mismatch hn hty

theorem applyUnary_iff_makes (op : Operator) (v : Value) (x : Except Failure.Kind Value) :
    (op.applyUnary v).mapError Fault.kind = x ↔ op.MakesUnary v x := by
  constructor
  · rintro rfl
    by_cases hn : op = .not
    · rw [hn]
      cases v with
      | bool p => exact .negation p
      | int n => exact .mismatch (by simp [Value.ty])
      | string s => exact .mismatch (by simp [Value.ty])
    · have ho : op.applyUnary v = .error (.notUnary op) := by
        cases op with
        | not => exact absurd rfl hn
        | _ => rfl
      rw [ho]
      exact .misplaced v hn
  · intro h
    cases h with
    | negation p => rfl
    | mismatch hv =>
      cases v with
      | bool p => exact absurd rfl hv
      | _ => rfl
    | misplaced _ hn =>
      cases op with
      | not => exact absurd rfl hn
      | _ => rfl

/-- An operator makes of its operands what the table says, and nothing else. In the row of the division there is exactly
one quotient. It has no place in 32 bits, where the operands have theirs, only if the least number is divided by minus
one. -/
theorem makes_iff :
    (∀ (op : Operator) l r x, (op.apply l r).mapError Fault.kind = x ↔ op.Makes l r x) ∧
      (∀ (op : Operator) v x, (op.applyUnary v).mapError Fault.kind = x ↔ op.MakesUnary v x) ∧
      ∀ a b, b ≠ 0 → ∃ q, Cut a b q ∧ (∀ q', Cut a b q' → q' = q) ∧
        (Value.InRange a → Value.InRange b → (¬ Value.InRange q ↔ a = Value.minInt ∧ b = -1)) := by
  refine ⟨fun op l r x => ⟨?_, apply_of_makes⟩, applyUnary_iff_makes, fun a b hb => ?_⟩
  · rintro rfl
    exact makes_apply op l r
  · have hc := cut_tdiv a hb
    exact ⟨a.tdiv b, hc, fun q' h' => hc.unique h', fun ha _ => hc.not_inRange_iff ha hb⟩

/-- The one quotient that overflows. -/
theorem makes_iff_minInt :
    Value.InRange Value.minInt ∧ Value.InRange (-1) ∧ (∃ q, Cut Value.minInt (-1) q ∧ ¬ Value.InRange q) ∧
      Makes .div (.int Value.minInt) (.int (-1)) (.error .overflow) := by
  have ha : Value.InRange Value.minInt := by decide
  have hb : Value.InRange (-1) := by decide
  obtain ⟨q, hc, -, hq⟩ := makes_iff.2.2 Value.minInt (-1) (by decide)
  exact ⟨ha, hb, ⟨q, hc, (hq ha hb).2 ⟨rfl, rfl⟩⟩, (makes_iff.1 _ _ _ _).1 rfl⟩

end Operator

end MiniPL
