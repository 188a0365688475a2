import MiniPL.Program.Reader
import MiniPL.Proofs.Grammar
import MiniPL.Proofs.Outcomes
/-!
# What is read is spelled so

A reader is judged by the kinds of the tokens ahead of the cursor, a token in the slot included. An expression
reads one token too many and puts it back, so that token is ahead of the cursor again.
-/

namespace MiniPL

open Token (Kind)

/-- The kinds of the tokens that can still be handed out. -/
def Cursor.kinds (c : Cursor) : List Kind := (c.slot.toList ++ c.rest).map Token.kind

theorem Cursor.length_kinds (c : Cursor) : c.kinds.length = c.unread := by
  simp [kinds, unread]

theorem Cursor.atEnd_iff (c : Cursor) : c.atEnd = true ↔ c.kinds = [] := by
  obtain ⟨n, slot, rest⟩ := c
  cases slot <;> simp [atEnd, kinds]

namespace Reader

variable {α β : Type} {c c' : Cursor}

/-- What the reader takes off the tokens ahead of the cursor spells what it returns. -/
def Sound (r : Reader α) (spelled : α → List Kind → Prop) : Prop :=
  ∀ c a c', r c = .ok a c' → ∃ ks, c.kinds = ks ++ c'.kinds ∧ spelled a ks

/-! ## Single tokens -/

theorem next_ok {expected : Text} {t : Token} (h : next expected c = .ok t c') : c.kinds = t.kind :: c'.kinds := by
  obtain ⟨n, slot, rest⟩ := c
  cases slot with
  | some u => cases h; rfl
  | none =>
    cases rest with
    | nil => cases h
    | cons u rest => cases h; rfl

theorem refuse_ok {cause : Cursor.Cause} {a : α} : refuse cause c ≠ .ok a c' := by
  intro h
  cases h

theorem next_of_take {read? : Token → Option α} {expected : Text} {a : α} (h : take read? expected c = .ok a c') :
    ∃ t, read? t = some a ∧ next expected c = .ok t c' := by
  obtain ⟨t, c₁, h₁, h⟩ := bind_ok.1 h
  cases hr : read? t with
  | none => simp only [hr] at h; exact absurd h refuse_ok
  | some b =>
    simp only [hr] at h
    obtain ⟨rfl, rfl⟩ := pure_ok.1 h
    exact ⟨t, hr, h₁⟩

theorem take_ok {read? : Token → Option α} {expected : Text} {a : α} (h : take read? expected c = .ok a c') :
    ∃ t, read? t = some a ∧ c.kinds = t.kind :: c'.kinds := by
  obtain ⟨t, hr, hn⟩ := next_of_take h
  exact ⟨t, hr, next_ok hn⟩

theorem name_ok {x : Text} (h : expectName c = .ok x c') : c.kinds = .identifier x :: c'.kinds := by
  obtain ⟨t, ht, hk⟩ := take_ok h
  unfold Token.name? at ht
  split at ht
  · next hx => cases ht; rw [hk, hx]
  · cases ht

theorem type_ok {expected : Text} {ty : Ty} (h : take Token.type? expected c = .ok ty c') :
    c.kinds = .keyword (.type ty) :: c'.kinds := by
  obtain ⟨t, ht, hk⟩ := take_ok h
  unfold Token.type? at ht
  split at ht
  · next hx => cases ht; rw [hk, hx]
  · cases ht

theorem keyword_ok {k : Keyword} (h : expectKeyword k c = .ok () c') : c.kinds = .keyword k :: c'.kinds := by
  obtain ⟨t, ht, hk⟩ := take_ok h
  split at ht
  · next hx => rw [hk, hx]
  · cases ht

/-- The only kind of a category, if its tokens have no value. -/
def bareKind? : Token.Category → Option Kind
  | .bracketOpen => some .bracketOpen
  | .bracketClose => some .bracketClose
  | .assignment => some .assignment
  | .typeMark => some .typeMark
  | .range => some .range
  | .dot => some .dot
  | .statementEnd => some .statementEnd
  | _ => none

theorem category_eq_iff {category : Token.Category} {k : Kind} (hk : bareKind? category = some k) (k' : Kind) :
    k'.category = category ↔ k' = k := by
  cases category <;> cases hk <;> cases k' <;> simp [Kind.category]

theorem expect_ok {category : Token.Category} {k : Kind} (hk : bareKind? category = some k) {expected : Text}
    {t : Token} (h : expect category expected c = .ok t c') : c.kinds = k :: c'.kinds := by
  obtain ⟨u, hu, hc⟩ := take_ok h
  split at hu
  · next hx => rw [hc, (category_eq_iff hk _).1 hx]
  · cases hu

theorem end_ok (h : expectEnd c = .ok () c') : c.kinds = .statementEnd :: c'.kinds := by
  obtain ⟨t, c₁, h₁, h⟩ := bind_ok.1 h
  obtain ⟨-, rfl⟩ := pure_ok.1 h
  exact expect_ok rfl h₁

theorem putBack_ok {t : Token} (h : putBack t c = .ok () c') : c'.kinds = t.kind :: c.kinds := by
  obtain ⟨u, c₁, h₁, h⟩ := bind_ok.1 h
  obtain ⟨n, slot, rest⟩ := c
  cases slot with
  | some v => cases h₁
  | none => cases h₁; cases h; rfl

theorem symbol_kind {t : Token} {symbol : Text} (h : t.symbol? = some symbol) : t.kind = .operator symbol := by
  unfold Token.symbol? at h
  split at h
  · next hx => cases h; exact hx
  · cases h

theorem operator_ok {symbol : Text} {op : Operator} (h : operator symbol c = .ok op c') :
    symbol = op.symbol ∧ c = c' := by
  unfold operator Operator.named at h
  cases ho : Operator.ofSymbol? symbol with
  | none => simp [ho] at h
  | some op' =>
    simp only [ho, EStateM.Result.ok.injEq] at h
    obtain ⟨rfl, rfl⟩ := h
    exact ⟨Operator.ofSymbol?_eq_some_iff.1 ho, rfl⟩

/-! ## Expressions -/

section
variable {inner : Reader Expr} (hi : Sound inner Expr.Spelled)
include hi

theorem operandWith_ok {t : Token} {a : Operand} (h : operandWith inner t c = .ok a c') :
    ∃ ks, t.kind :: c.kinds = ks ++ c'.kinds ∧ a.Spelled ks := by
  cases hk : t.kind with
  | integer n => simp only [operandWith, hk] at h; obtain ⟨rfl, rfl⟩ := pure_ok.1 h; exact ⟨[_], rfl, .integer n⟩
  | string s => simp only [operandWith, hk] at h; obtain ⟨rfl, rfl⟩ := pure_ok.1 h; exact ⟨[_], rfl, .string s⟩
  | boolean b => simp only [operandWith, hk] at h; obtain ⟨rfl, rfl⟩ := pure_ok.1 h; exact ⟨[_], rfl, .boolean b⟩
  | identifier x => simp only [operandWith, hk] at h; obtain ⟨rfl, rfl⟩ := pure_ok.1 h; exact ⟨[_], rfl, .variable x⟩
  | bracketOpen =>
    simp only [operandWith, hk] at h
    obtain ⟨e, c₁, h₁, h⟩ := bind_ok.1 h
    obtain ⟨_, c₂, h₂, h⟩ := bind_ok.1 h
    obtain ⟨rfl, rfl⟩ := pure_ok.1 h
    obtain ⟨ks, he, hs⟩ := hi _ _ _ h₁
    have hc := expect_ok rfl h₂
    exact ⟨_, by simp [he, hc], .group hs⟩
  | _ => simp only [operandWith, hk] at h; exact absurd h refuse_ok

omit hi in
theorem refuseChain_ok (h : refuseChain c = .ok () c') : c'.kinds = c.kinds := by
  obtain ⟨b, c₁, h₁, h⟩ := bind_ok.1 h
  cases h₁
  split at h
  · obtain ⟨-, rfl⟩ := pure_ok.1 h; rfl
  · obtain ⟨t, c₁, h₁, h⟩ := bind_ok.1 h
    split at h
    · obtain ⟨_, _, h, -⟩ := bind_ok.1 h
      exact absurd h refuse_ok
    · rw [putBack_ok h, next_ok h₁]

/-- After an operand comes an operator with another one, or the expression is over. -/
theorem expressionFrom_ok {left : Operand} {e : Expr} (h : expressionFrom inner left c = .ok e c') :
    ∃ ks, c.kinds = ks ++ c'.kinds ∧ ∀ ls, left.Spelled ls → e.Spelled (ls ++ ks) := by
  obtain ⟨b, c₁, h₁, h⟩ := bind_ok.1 h
  cases h₁
  split at h
  · obtain ⟨rfl, rfl⟩ := pure_ok.1 h
    exact ⟨[], rfl, fun ls hl => by rw [List.append_nil]; exact .simple hl⟩
  · obtain ⟨t, c₁, h₁, h⟩ := bind_ok.1 h
    cases hs : t.symbol? with
    | none =>
      simp only [hs] at h
      obtain ⟨_, c₂, h₂, h⟩ := bind_ok.1 h
      obtain ⟨rfl, rfl⟩ := pure_ok.1 h
      -- The token that ended the expression is ahead again, so nothing was taken.
      refine ⟨[], ?_, fun ls hl => by rw [List.append_nil]; exact .simple hl⟩
      rw [next_ok h₁, putBack_ok h₂, List.nil_append]
    | some symbol =>
      simp only [hs] at h
      obtain ⟨u, c₂, h₂, h⟩ := bind_ok.1 h
      obtain ⟨right, c₃, h₃, h⟩ := bind_ok.1 h
      obtain ⟨_, c₄, h₄, h⟩ := bind_ok.1 h
      obtain ⟨op, c₅, h₅, h⟩ := bind_ok.1 h
      obtain ⟨rfl, rfl⟩ := pure_ok.1 h
      obtain ⟨rfl, rfl⟩ := operator_ok h₅
      obtain ⟨ks, hk, hr⟩ := operandWith_ok hi h₃
      refine ⟨.operator op.symbol :: ks, ?_, fun ls hl => .binary hl hr⟩
      rw [next_ok h₁, symbol_kind hs, next_ok h₂, hk, refuseChain_ok h₄, List.cons_append]

theorem expressionWith_ok : Sound (expressionWith inner) Expr.Spelled := by
  intro c e c' h
  obtain ⟨t, c₁, h₁, h⟩ := bind_ok.1 h
  cases hs : t.symbol? with
  | some symbol =>
    simp only [hs] at h
    obtain ⟨u, c₂, h₂, h⟩ := bind_ok.1 h
    obtain ⟨a, c₃, h₃, h⟩ := bind_ok.1 h
    obtain ⟨op, c₄, h₄, h⟩ := bind_ok.1 h
    obtain ⟨rfl, rfl⟩ := pure_ok.1 h
    obtain ⟨rfl, rfl⟩ := operator_ok h₄
    obtain ⟨ks, hk, ha⟩ := operandWith_ok hi h₃
    refine ⟨.operator op.symbol :: ks, ?_, .unary ha⟩
    rw [next_ok h₁, symbol_kind hs, next_ok h₂, hk, List.cons_append]
  | none =>
    simp only [hs] at h
    obtain ⟨a, c₂, h₂, h⟩ := bind_ok.1 h
    obtain ⟨ks, hk, ha⟩ := operandWith_ok hi h₂
    obtain ⟨ls, hl, he⟩ := expressionFrom_ok hi h
    refine ⟨ks ++ ls, ?_, he ks ha⟩
    rw [next_ok h₁, hk, hl, List.append_assoc]
end

theorem expressionWithin_ok (bound : Nat) : Sound (expressionWithin bound) Expr.Spelled := by
  induction bound with
  | zero => intro c e c' h; cases h
  | succ bound ih => exact expressionWith_ok ih

theorem inner_ok : Sound inner Expr.Spelled := fun c => expressionWithin_ok (c.unread + 1) c

theorem expression_ok : Sound expression Expr.Spelled := expressionWith_ok inner_ok

/-! ## Statements -/

/-- What the reader takes ends with `end` and spells the statements before it. -/
def SoundBlock (body : Reader (List Stmt)) : Prop :=
  Sound body fun b ks => ∃ ls, ks = ls ++ [.keyword .endWord] ∧ Stmt.BlockSpelled b ls

section
variable {body : Reader (List Stmt)} (hb : SoundBlock body)
include hb

omit hb in
theorem assignment_ok {x : Text} : Sound (assignment x) fun s ks => s.Spelled (.identifier x :: ks) := by
  intro c s c' h
  obtain ⟨_, c₁, h₁, h⟩ := bind_ok.1 h
  obtain ⟨e, c₂, h₂, h⟩ := bind_ok.1 h
  obtain ⟨_, c₃, h₃, h⟩ := bind_ok.1 h
  obtain ⟨rfl, rfl⟩ := pure_ok.1 h
  have k₁ := expect_ok rfl h₁
  obtain ⟨ks, k₂, he⟩ := expression_ok _ _ _ h₂
  refine ⟨_, ?_, .assign he⟩
  simp [k₁, k₂, end_ok h₃]

omit hb in
theorem declaration_ok : Sound declaration fun s ks => s.Spelled (.keyword .var :: ks) := by
  intro c s c' h
  obtain ⟨x, c₁, h₁, h⟩ := bind_ok.1 h
  obtain ⟨_, c₂, h₂, h⟩ := bind_ok.1 h
  obtain ⟨ty, c₃, h₃, h⟩ := bind_ok.1 h
  obtain ⟨t, c₄, h₄, h⟩ := bind_ok.1 h
  have k₂ := expect_ok rfl h₂
  have hc : c.kinds = .identifier x :: .typeMark :: .keyword (.type ty) :: t.kind :: c₄.kinds := by
    rw [name_ok h₁, k₂, type_ok h₃, next_ok h₄]
  cases hk : t.kind with
  | statementEnd =>
    simp only [hk] at h
    obtain ⟨rfl, rfl⟩ := pure_ok.1 h
    exact ⟨_, by rw [hc, hk]; rfl, .declare x ty⟩
  | assignment =>
    simp only [hk] at h
    obtain ⟨e, c₅, h₅, h⟩ := bind_ok.1 h
    obtain ⟨_, c₆, h₆, h⟩ := bind_ok.1 h
    obtain ⟨rfl, rfl⟩ := pure_ok.1 h
    obtain ⟨ks, k₅, he⟩ := expression_ok _ _ _ h₅
    refine ⟨_, ?_, .declareTo he⟩
    simp [hc, hk, k₅, end_ok h₆]
  | _ => simp only [hk] at h; exact absurd h refuse_ok

theorem loopWith_ok : Sound (loopWith body) fun s ks => s.Spelled (.keyword .forWord :: ks) := by
  intro c s c' h
  obtain ⟨x, c₁, h₁, h⟩ := bind_ok.1 h
  obtain ⟨_, c₂, h₂, h⟩ := bind_ok.1 h
  obtain ⟨first, c₃, h₃, h⟩ := bind_ok.1 h
  obtain ⟨_, c₄, h₄, h⟩ := bind_ok.1 h
  obtain ⟨last, c₅, h₅, h⟩ := bind_ok.1 h
  obtain ⟨_, c₆, h₆, h⟩ := bind_ok.1 h
  obtain ⟨b, c₇, h₇, h⟩ := bind_ok.1 h
  obtain ⟨_, c₈, h₈, h⟩ := bind_ok.1 h
  obtain ⟨_, c₉, h₉, h⟩ := bind_ok.1 h
  obtain ⟨rfl, rfl⟩ := pure_ok.1 h
  obtain ⟨ks, k₃, hf⟩ := expression_ok _ _ _ h₃
  have k₄ := expect_ok rfl h₄
  obtain ⟨ls, k₅, hl⟩ := expression_ok _ _ _ h₅
  obtain ⟨_, k₇, ms, rfl, hm⟩ := hb _ _ _ h₇
  refine ⟨_, ?_, .loop hf hl hm⟩
  simp [name_ok h₁, keyword_ok h₂, k₃, k₄, k₅, keyword_ok h₆, k₇, keyword_ok h₈, end_ok h₉]

omit hb in
theorem input_ok : Sound input fun s ks => s.Spelled (.keyword .read :: ks) := by
  intro c s c' h
  obtain ⟨x, c₁, h₁, h⟩ := bind_ok.1 h
  obtain ⟨_, c₂, h₂, h⟩ := bind_ok.1 h
  obtain ⟨rfl, rfl⟩ := pure_ok.1 h
  exact ⟨_, by rw [name_ok h₁, end_ok h₂]; rfl, .read x⟩

omit hb in
theorem output_ok : Sound output fun s ks => s.Spelled (.keyword .print :: ks) := by
  intro c s c' h
  obtain ⟨e, c₁, h₁, h⟩ := bind_ok.1 h
  obtain ⟨_, c₂, h₂, h⟩ := bind_ok.1 h
  obtain ⟨rfl, rfl⟩ := pure_ok.1 h
  obtain ⟨ks, k₁, he⟩ := expression_ok _ _ _ h₁
  refine ⟨_, ?_, .print he⟩
  simp [k₁, end_ok h₂]

omit hb in
theorem assertion_ok : Sound assertion fun s ks => s.Spelled (.keyword .assert :: ks) := by
  intro c s c' h
  obtain ⟨_, c₁, h₁, h⟩ := bind_ok.1 h
  obtain ⟨e, c₂, h₂, h⟩ := bind_ok.1 h
  obtain ⟨_, c₃, h₃, h⟩ := bind_ok.1 h
  obtain ⟨_, c₄, h₄, h⟩ := bind_ok.1 h
  obtain ⟨rfl, rfl⟩ := pure_ok.1 h
  have k₁ := expect_ok rfl h₁
  obtain ⟨ks, k₂, he⟩ := expression_ok _ _ _ h₂
  have k₃ := expect_ok rfl h₃
  refine ⟨_, ?_, .assert he⟩
  simp [k₁, k₂, k₃, end_ok h₄]

theorem statementWith_ok {t : Token} : Sound (statementWith body t) fun s ks => s.Spelled (t.kind :: ks) := by
  intro c s c' h
  unfold statementWith at h
  cases hk : t.kind with
  | identifier x => simp only [hk] at h; exact assignment_ok _ _ _ h
  | statementEnd =>
    simp only [hk] at h
    obtain ⟨rfl, rfl⟩ := pure_ok.1 h
    exact ⟨[], rfl, .empty⟩
  | keyword k =>
    cases k with
    | var => simp only [hk] at h; exact declaration_ok _ _ _ h
    | forWord => simp only [hk] at h; exact loopWith_ok hb _ _ _ h
    | read => simp only [hk] at h; exact input_ok _ _ _ h
    | print => simp only [hk] at h; exact output_ok _ _ _ h
    | assert => simp only [hk] at h; exact assertion_ok _ _ _ h
    | _ => simp only [hk] at h; exact absurd h refuse_ok
  | _ => simp only [hk] at h; exact absurd h refuse_ok
end

theorem blockWithin_ok (bound : Nat) : SoundBlock (blockWithin bound) := by
  induction bound with
  | zero => intro c b c' h; cases h
  | succ bound ih =>
    intro c b c' h
    obtain ⟨t, c₁, h₁, h⟩ := bind_ok.1 h
    split at h
    · next hk =>
      obtain ⟨rfl, rfl⟩ := pure_ok.1 h
      exact ⟨_, by rw [next_ok h₁, hk]; rfl, [], rfl, .nil⟩
    · obtain ⟨s, c₂, h₂, h⟩ := bind_ok.1 h
      obtain ⟨b, c₃, h₃, h⟩ := bind_ok.1 h
      obtain ⟨rfl, rfl⟩ := pure_ok.1 h
      obtain ⟨ks, k₂, hs⟩ := statementWith_ok ih _ _ _ h₂
      obtain ⟨_, k₃, ls, rfl, hb⟩ := ih _ _ _ h₃
      refine ⟨_, ?_, _, rfl, .cons hs hb⟩
      simp [next_ok h₁, k₂, k₃]

theorem block_ok : SoundBlock block := fun c => blockWithin_ok (c.unread + 1) c

theorem statement_ok {t : Token} : Sound (statement t) fun s ks => s.Spelled (t.kind :: ks) :=
  statementWith_ok block_ok

/-- Reading a program leaves no token. -/
theorem programWithin_ok (bound : Nat) {p : Program} (h : programWithin bound c = .ok p c') :
    Stmt.BlockSpelled p c.kinds := by
  induction bound generalizing c p with
  | zero => cases h
  | succ bound ih =>
    obtain ⟨b, c₁, h₁, h⟩ := bind_ok.1 h
    cases h₁
    split at h
    · next he =>
      obtain ⟨rfl, rfl⟩ := pure_ok.1 h
      rw [(Cursor.atEnd_iff c).1 he]
      exact .nil
    · obtain ⟨t, c₁, h₁, h⟩ := bind_ok.1 h
      obtain ⟨s, c₂, h₂, h⟩ := bind_ok.1 h
      obtain ⟨p, c₃, h₃, h⟩ := bind_ok.1 h
      obtain ⟨rfl, rfl⟩ := pure_ok.1 h
      obtain ⟨ks, k₂, hs⟩ := statement_ok _ _ _ h₂
      rw [next_ok h₁, k₂]
      exact .cons hs (ih h₃)

end Reader

end MiniPL
