import MiniPL.Proofs.Accepting
import MiniPL.Proofs.Pending
/-!
# Tokens are refused as early as they can be

`Follows` says how a reader changes what is due, and that the tokens are refused where they cannot go on. The index of
a fault is one less than the number of tokens taken. It is right for a token that went through the slot as well: the
slot is empty whenever a token is refused, so that token is still the last one taken.
-/

namespace MiniPL

open Token (Kind)
open Due (refusal)

/-- The tokens ahead of the cursor are the last ones of the list, and it has taken the others. -/
def Cursor.On (ts : List Token) (c : Cursor) : Prop :=
  ∃ read, ts = read ++ (c.slot.toList ++ c.rest) ∧ c.taken = read.length + c.slot.toList.length

/-- The cursor has just handed out the token. -/
def Cursor.After (ts : List Token) (t : Token) (c : Cursor) : Prop :=
  ∃ read, ts = read ++ t :: c.rest ∧ c.taken = read.length + 1 ∧ c.slot = none

theorem Cursor.start_on (ts : List Token) : (start ts).On ts := ⟨[], rfl, rfl⟩

theorem Cursor.After.mem {ts : List Token} {t : Token} {c : Cursor} (h : c.After ts t) : t ∈ ts := by
  obtain ⟨read, rfl, -⟩ := h
  simp

namespace Reader

variable {α β : Type} {r : Reader α} {f : α → Reader β} {g : Token → Reader β} {ts : List Token} {t : Token}
  {c : Cursor} {j l m n : Nat} {k : Kind} {d : Due} {ds σ τ υ : List Due} {expected : Text}

/-- How a reader may end on tokens that are to be refused at `due`, if at all: it has refused them there, or `σ` is due
now and the tokens it has left are to be refused there. An unknown operator is one of the tokens. -/
def Judged (ts : List Token) (n : Nat) (due : Option (List Kind)) (σ : List Due) :
    EStateM.Result Fault Cursor α → Prop
  | .ok _ c => c.On ts ∧ c.unread < n ∧ refusal σ c.kinds = due
  | .error (.refused f) _ => ∃ rest, due = some rest ∧ f.index + rest.length = ts.length
  | .error (.unknownOperator e) _ => ∃ t ∈ ts, t.kind = .operator e.symbol ∧ Operator.ofSymbol? e.symbol = none

/-- Where `σ` is due and fewer than `n` tokens are ahead, the reader reads so far that `τ` is due. -/
def Follows (ts : List Token) (n : Nat) (r : Reader α) (σ τ : List Due) : Prop :=
  ∀ c, c.On ts → c.unread < n → Judged ts n (refusal σ c.kinds) τ (r c)

/-- The same for a reader that goes on after a token. -/
def FollowsToken (ts : List Token) (m n : Nat) (t : Token) (r : Reader α) (σ τ : List Due) : Prop :=
  ∀ c, c.After ts t → c.unread < m → Judged ts n (refusal σ (t.kind :: c.kinds)) τ (r c)

/-! ## Sequences -/

theorem Judged.mono {due : Option (List Kind)} {result : EStateM.Result Fault Cursor α}
    (h : Judged ts m due σ result) (hn : m ≤ n) : Judged ts n due σ result := by
  match result with
  | .ok _ c => exact ⟨h.1, Nat.lt_of_lt_of_le h.2.1 hn, h.2.2⟩
  | .error (.refused f) _ => exact h
  | .error (.unknownOperator e) _ => exact h

theorem Judged.bind {due : Option (List Kind)} (h : Judged ts m due τ (r c))
    (hf : ∀ a c', c'.On ts → c'.unread < m → Judged ts n (refusal τ c'.kinds) υ (f a c')) :
    Judged ts n due υ ((r >>= f) c) := by
  cases hr : r c with
  | ok a c' =>
    rw [hr] at h
    obtain ⟨ho, hl, he⟩ := h
    rw [bind_of_ok hr, ← he]
    exact hf a c' ho hl
  | error e c' =>
    rw [hr] at h
    rw [bind_of_error hr]
    cases e <;> exact h

theorem Follows.bind (h : Follows ts n r σ τ) (hf : ∀ a, Follows ts n (f a) τ υ) : Follows ts n (r >>= f) σ υ :=
  fun c hc hl => (h c hc hl).bind fun a c' hc' hl' => hf a c' hc' hl'

theorem FollowsToken.bind (h : FollowsToken ts m n t r σ τ) (hf : ∀ a, Follows ts n (f a) τ υ) :
    FollowsToken ts m n t (r >>= f) σ υ :=
  fun c hc hl => (h c hc hl).bind fun a c' hc' hl' => hf a c' hc' hl'

theorem FollowsToken.mono (h : FollowsToken ts l m t r σ τ) (hl : j ≤ l) (hm : m ≤ n) :
    FollowsToken ts j n t r σ τ :=
  fun c hc hu => (h c hc (Nat.lt_of_lt_of_le hu hl)).mono hm

theorem pure_follows (a : α) : Follows ts n (pure a) σ σ :=
  fun _ hc hl => ⟨hc, hl, rfl⟩

/-! ## Single tokens -/

/-- The next token is handed out, or missed if something is due. -/
theorem judged_next (hc : c.On ts) (hl : c.unread < n) (hσ : c.kinds = [] → refusal σ [] = some [])
    (h : ∀ t m, n = m + 1 → FollowsToken ts m n t (g t) σ τ) :
    Judged ts n (refusal σ c.kinds) τ ((next expected >>= g) c) := by
  obtain ⟨k, slot, rest⟩ := c
  obtain ⟨read, hts, hk⟩ := hc
  simp only [Cursor.unread, Option.toList] at hl hk
  cases slot with
  | some t =>
    simp only [List.length_singleton] at hl hk
    have ht := h t (n - 1) (by omega) ⟨k, none, rest⟩ ⟨read, hts, hk, rfl⟩
    exact ht (by simp only [Cursor.unread, Option.toList, List.length_nil]; omega)
  | none =>
    simp only [List.length_nil] at hl hk
    cases rest with
    | nil =>
      refine ⟨[], hσ rfl, ?_⟩
      simp [hts, hk]
    | cons t rest =>
      simp only [List.length_cons] at hl
      have ht := h t (n - 1) (by omega) ⟨k + 1, none, rest⟩ ⟨read, hts, congrArg (· + 1) hk, rfl⟩
      exact ht (by simp only [Cursor.unread, Option.toList, List.length_nil]; omega)

theorem follows_next (hσ : refusal σ [] = some []) (h : ∀ t m, n = m + 1 → FollowsToken ts m n t (g t) σ τ) :
    Follows ts n (next expected >>= g) σ τ :=
  fun _ hc hl => judged_next hc hl (fun _ => hσ) h

/-- A reader that keeps the next token has fewer ahead afterwards. -/
theorem follows_kept (hσ : refusal σ [] = some []) (h : ∀ t m, n = m + 1 → FollowsToken ts m m t (g t) σ τ) :
    Follows ts n (next expected >>= g) σ τ :=
  follows_next hσ fun t m hm => (h t m hm).mono (Nat.le_refl m) (hm ▸ Nat.le_succ m)

/-- At the end of the tokens the next one is not asked for. -/
theorem follows_atEnd {b : β} (hσ : refusal σ [] = refusal τ [])
    (h : ∀ t m, n = m + 1 → FollowsToken ts m n t (g t) σ τ) :
    Follows ts n (atEnd >>= fun e => if e = true then pure b else next expected >>= g) σ τ := by
  intro c hc hl
  show Judged ts n _ τ ((if c.atEnd = true then pure b else next expected >>= g) c)
  by_cases he : c.atEnd = true
  · have hk := (Cursor.atEnd_iff c).1 he
    rw [if_pos he, hk, hσ]
    exact ⟨hc, hl, congrArg _ hk⟩
  · rw [if_neg he]
    exact judged_next hc hl (fun hk => absurd ((Cursor.atEnd_iff c).2 hk) he) h

/-- A token that begins what is due makes due what comes after it. -/
theorem follows_after (ht : t.kind = k) (hd : d.after k = some ds) (h : Follows ts n r (ds ++ σ) τ) :
    FollowsToken ts n n t r (d :: σ) τ := by
  subst ht
  rintro c ⟨read, hts, hk, hs⟩ hl
  rw [Due.refusal_after hd]
  refine h c ⟨read ++ [t], ?_, ?_⟩ hl
  · rw [hs, hts]
    simp
  · rw [hk, hs]
    simp

/-- The token that was handed out last can be refused. -/
theorem refuse_follows {cause : Cursor.Cause} (ht : t.kind = k) (h : Due.step σ k = none) :
    FollowsToken ts m n t (refuse cause : Reader α) σ τ := by
  subst ht
  rintro c ⟨read, hts, hk, hs⟩ hl
  refine ⟨_, Due.refusal_of_step_none h, ?_⟩
  have hr : c.kinds.length = c.rest.length := by simp [Cursor.kinds, hs]
  simp only [hts, hk, hr, List.length_append, List.length_cons]
  omega

theorem putBack_follows : FollowsToken ts n (n + 1) t (putBack t) σ σ := by
  rintro ⟨k, _, rest⟩ ⟨read, hts, hk, rfl⟩ hl
  refine ⟨⟨read, hts, hk⟩, ?_, rfl⟩
  simp only [Cursor.unread, Option.toList, List.length_nil, List.length_singleton] at hl ⊢
  omega

theorem FollowsToken.of_step_eq (h : FollowsToken ts m n t r τ υ) (hs : Due.step σ t.kind = Due.step τ t.kind) :
    FollowsToken ts m n t r σ υ := by
  intro c hc hl
  rw [Due.refusal_congr hs]
  exact h c hc hl

theorem take_follows {read? : Token → Option α} (ho : d.optional = false)
    (h : ∀ t, d.after t.kind = (read? t).map fun _ => []) : Follows ts n (take read? expected) (d :: σ) σ := by
  refine follows_kept (by simp [refusal, ho]) fun t m _ => ?_
  have hd := h t
  cases hr : read? t with
  | none =>
    rw [hr] at hd
    exact refuse_follows rfl (by simp [Due.step, hd, ho])
  | some a =>
    rw [hr] at hd
    exact follows_after rfl hd (pure_follows a)

theorem expect_follows {category : Token.Category} :
    Follows ts n (expect category expected) (.one category :: σ) σ :=
  take_follows rfl fun t => by by_cases h : t.kind.category = category <;> simp [Due.after, Token.category, h]

theorem keyword_follows {k : Keyword} : Follows ts n (expectKeyword k) (.keyword k :: σ) σ :=
  take_follows rfl fun t => by by_cases h : t.kind = .keyword k <;> simp [Due.after, h]

theorem name_follows : Follows ts n expectName (.one .identifier :: σ) σ :=
  take_follows rfl fun t => by simp only [Token.name?]; cases t.kind <;> rfl

theorem type_follows : Follows ts n (take Token.type? expected) (.type :: σ) σ :=
  take_follows rfl fun t => by
    simp only [Token.type?]
    cases t.kind with
    | keyword k => cases k <;> rfl
    | _ => rfl

theorem end_follows : Follows ts n expectEnd (.one .statementEnd :: σ) σ :=
  expect_follows.bind fun _ => pure_follows ()

theorem operator_follows {symbol : Text} (ht : t ∈ ts) (hk : t.kind = .operator symbol) :
    Follows ts n (operator symbol) σ σ := by
  intro c hc hl
  unfold operator Operator.named
  cases ho : Operator.ofSymbol? symbol with
  | none => exact ⟨t, ht, hk, ho⟩
  | some op => exact ⟨hc, hl, rfl⟩

/-! ## Expressions -/

theorem kind_ne_operator (h : t.symbol? = none) (symbol : Text) : t.kind ≠ .operator symbol := by
  intro hk
  simp [Token.symbol?, hk] at h

section
variable {inner : Reader Expr} (hi : ∀ {σ}, Due.Closed σ → Follows ts n inner (.expression :: σ) σ)
include hi

theorem operandWith_follows : FollowsToken ts n n t (operandWith inner t) (.operand :: σ) σ := by
  unfold operandWith
  cases hk : t.kind with
  | integer _ | string _ | boolean _ | identifier _ => exact follows_after hk rfl (pure_follows _)
  | bracketOpen =>
    refine follows_after hk rfl ?_
    exact (hi fun _ => rfl).bind fun e => expect_follows.bind fun _ => pure_follows _
  | _ => exact refuse_follows hk rfl

theorem operand_follows {f : Operand → Reader β} (hf : ∀ a, Follows ts n (f a) σ τ) :
    Follows ts n (next expected >>= fun t => operandWith inner t >>= f) (.operand :: σ) τ := by
  refine follows_next rfl fun t m hm => ?_
  exact ((operandWith_follows hi).bind hf).mono (hm ▸ Nat.le_succ m) (Nat.le_refl n)

omit hi in
theorem refuseChain_follows (hσ : Due.Closed σ) : Follows ts n refuseChain σ σ := by
  refine follows_atEnd rfl ?_
  rintro t m rfl
  by_cases hk : t.category = .operator
  · simp only [if_pos hk]
    obtain ⟨symbol, hs⟩ : ∃ symbol, t.kind = .operator symbol := by
      unfold Token.category at hk
      cases h : t.kind <;> simp_all [Kind.category]
    exact refuse_follows (α := Unit) hs (hσ symbol)
  · simp only [if_neg hk]
    exact putBack_follows

/-- After an operand comes an operator with another one and no third, or whatever is due next. -/
theorem expressionFrom_follows {left : Operand} (hσ : Due.Closed σ) :
    Follows ts n (expressionFrom inner left) (.tail :: σ) σ := by
  refine follows_atEnd (by simp [refusal, Due.optional]) ?_
  rintro t m rfl
  cases hs : t.symbol? with
  | none =>
    refine FollowsToken.of_step_eq ?_ (Due.step_tail (kind_ne_operator hs))
    exact FollowsToken.bind putBack_follows fun _ => pure_follows _
  | some symbol =>
    have hk := symbol_kind hs
    intro c hc hl
    refine follows_after hk rfl ?_ c hc (Nat.lt_succ_of_lt hl)
    refine operand_follows hi fun right => ?_
    exact (refuseChain_follows hσ).bind fun _ => (operator_follows hc.mem hk).bind fun op => pure_follows _

theorem expressionWith_follows (hσ : Due.Closed σ) :
    Follows ts (n + 1) (expressionWith inner) (.expression :: σ) σ := by
  refine follows_kept rfl ?_
  rintro t _ ⟨⟩
  cases hs : t.symbol? with
  | none =>
    refine FollowsToken.of_step_eq ?_ (Due.step_expression (kind_ne_operator hs))
    exact (operandWith_follows hi).bind fun left => expressionFrom_follows hi hσ
  | some symbol =>
    have hk := symbol_kind hs
    intro c hc hl
    refine follows_after hk rfl ?_ c hc hl
    exact operand_follows hi fun a => (operator_follows hc.mem hk).bind fun op => pure_follows _

end

theorem expressionWithin_follows (bound : Nat) (hσ : Due.Closed σ) :
    Follows ts bound (expressionWithin bound) (.expression :: σ) σ := by
  induction bound generalizing σ with
  | zero => exact fun c _ hl => absurd hl (Nat.not_lt_zero _)
  | succ bound ih => exact expressionWith_follows ih hσ

theorem inner_follows (hσ : Due.Closed σ) : Follows ts n inner (.expression :: σ) σ :=
  fun c hc hl => (expressionWithin_follows (c.unread + 1) hσ c hc (Nat.lt_succ_self _)).mono hl

theorem expression_follows (hσ : Due.Closed σ) : Follows ts n expression (.expression :: σ) σ := by
  cases n with
  | zero => exact fun c _ hl => absurd hl (Nat.not_lt_zero _)
  | succ n => exact expressionWith_follows inner_follows hσ

/-! ## Statements -/

theorem declaration_follows :
    Follows ts n declaration (.one .identifier :: .one .typeMark :: .type :: .initializer :: σ) σ := by
  refine name_follows.bind fun x => expect_follows.bind fun _ => type_follows.bind fun ty => ?_
  refine follows_kept rfl fun t m _ => ?_
  cases hk : t.kind with
  | statementEnd => exact follows_after hk rfl (pure_follows _)
  | assignment =>
    refine follows_after hk rfl ?_
    exact (expression_follows fun _ => rfl).bind fun e => end_follows.bind fun _ => pure_follows _
  | _ => exact refuse_follows hk rfl

theorem assignment_follows {x : Text} :
    Follows ts n (assignment x) (.one .assignment :: .expression :: .one .statementEnd :: σ) σ :=
  expect_follows.bind fun _ => (expression_follows fun _ => rfl).bind fun _ => end_follows.bind fun _ => pure_follows _

theorem input_follows : Follows ts n input (.one .identifier :: .one .statementEnd :: σ) σ :=
  name_follows.bind fun _ => end_follows.bind fun _ => pure_follows _

theorem output_follows : Follows ts n output (.expression :: .one .statementEnd :: σ) σ :=
  (expression_follows fun _ => rfl).bind fun _ => end_follows.bind fun _ => pure_follows _

theorem assertion_follows : Follows ts n assertion
    (.one .bracketOpen :: .expression :: .one .bracketClose :: .one .statementEnd :: σ) σ :=
  expect_follows.bind fun _ => (expression_follows fun _ => rfl).bind fun _ =>
    expect_follows.bind fun _ => end_follows.bind fun _ => pure_follows _

section
variable {body : Reader (List Stmt)} (hb : ∀ {σ}, Follows ts n body (.block :: σ) σ)
include hb

theorem loopWith_follows : Follows ts n (loopWith body) (.one .identifier :: .keyword .inWord :: .expression ::
    .one .range :: .expression :: .keyword .doWord :: .block :: .keyword .forWord :: .one .statementEnd :: σ) σ := by
  refine name_follows.bind fun x => keyword_follows.bind fun _ => ?_
  refine (expression_follows fun _ => rfl).bind fun first => expect_follows.bind fun _ => ?_
  refine (expression_follows fun _ => rfl).bind fun last => keyword_follows.bind fun _ => ?_
  exact hb.bind fun statements => keyword_follows.bind fun _ => end_follows.bind fun _ => pure_follows _

theorem statementWith_follows : FollowsToken ts n n t (statementWith body t) (.statement :: σ) σ := by
  unfold statementWith
  cases hk : t.kind with
  | identifier x => exact follows_after hk rfl assignment_follows
  | statementEnd => exact follows_after hk rfl (pure_follows _)
  | keyword k =>
    cases k with
    | var => exact follows_after hk rfl declaration_follows
    | forWord => exact follows_after hk rfl (loopWith_follows hb)
    | read => exact follows_after hk rfl input_follows
    | print => exact follows_after hk rfl output_follows
    | assert => exact follows_after hk rfl assertion_follows
    | _ => exact refuse_follows hk rfl
  | _ => exact refuse_follows hk rfl
end

theorem blockWithin_follows (bound : Nat) : Follows ts bound (blockWithin bound) (.block :: σ) σ := by
  induction bound generalizing σ with
  | zero => exact fun c _ hl => absurd hl (Nat.not_lt_zero _)
  | succ bound ih =>
    refine follows_kept rfl ?_
    rintro t _ ⟨⟩
    by_cases hk : t.kind = .keyword .endWord
    · rw [if_pos hk]
      exact follows_after hk rfl (pure_follows _)
    · rw [if_neg hk]
      refine FollowsToken.of_step_eq ?_ (Due.step_block hk)
      exact (statementWith_follows ih).bind fun s => ih.bind fun b => pure_follows _

theorem block_follows : Follows ts n block (.block :: σ) σ :=
  fun c hc hl => (blockWithin_follows (c.unread + 1) c hc (Nat.lt_succ_self _)).mono hl

theorem programWithin_follows (bound : Nat) : Follows ts bound (programWithin bound) [] [] := by
  induction bound with
  | zero => exact fun c _ hl => absurd hl (Nat.not_lt_zero _)
  | succ bound ih =>
    refine follows_atEnd rfl ?_
    rintro t _ ⟨⟩
    refine FollowsToken.mono ?_ (Nat.le_refl bound) (Nat.le_succ bound)
    refine FollowsToken.of_step_eq ?_ Due.step_nil
    exact (statementWith_follows block_follows).bind fun s => ih.bind fun p => pure_follows _

/-- A program is over where the tokens end. -/
theorem programWithin_end (bound : Nat) {p : Program} {c' : Cursor} (h : programWithin bound c = .ok p c') :
    c'.kinds = [] := by
  induction bound generalizing c p with
  | zero => cases h
  | succ bound ih =>
    obtain ⟨b, c₁, h₁, h⟩ := bind_ok.1 h
    cases h₁
    split at h
    · next he =>
      obtain ⟨rfl, rfl⟩ := pure_ok.1 h
      exact (Cursor.atEnd_iff c).1 he
    · obtain ⟨t, c₁, -, h⟩ := bind_ok.1 h
      obtain ⟨s, c₂, -, h⟩ := bind_ok.1 h
      obtain ⟨p, c₃, h₃, h⟩ := bind_ok.1 h
      obtain ⟨-, rfl⟩ := pure_ok.1 h
      exact ih h₃

end Reader

/-! ## Programs -/

namespace Program

open Reader (Judged programWithin_follows programWithin_end)

/-- Every operator among the tokens is one of the language. -/
def KnownOperators (ts : List Token) : Prop :=
  ∀ t ∈ ts, ∀ symbol, t.kind = .operator symbol → ∃ op : Operator, symbol = op.symbol

variable {ts : List Token} {f : Cursor.Fault}

/-- Tokens are read as a program if all of them can come and nothing is due at the end, and otherwise the first that
cannot come is refused. An operator that is unknown is one of the tokens. -/
theorem ofTokens_judged (ts : List Token) : match ofTokens ts with
    | .ok _ => refusal [] (ts.map Token.kind) = none
    | .error (.refused f) =>
      ∃ rest, refusal [] (ts.map Token.kind) = some rest ∧ f.index + rest.length = ts.length
    | .error (.unknownOperator e) => ∃ t ∈ ts, t.kind = .operator e.symbol ∧ Operator.ofSymbol? e.symbol = none := by
  have ho := Cursor.start_on ts
  have h := programWithin_follows ((Cursor.start ts).unread + 1) (Cursor.start ts) ho (Nat.lt_succ_self _)
  rw [kinds_start] at h
  unfold ofTokens Reader.runOn EStateM.run Reader.program
  cases hr : Reader.programWithin ((Cursor.start ts).unread + 1) (Cursor.start ts) with
  | ok p c =>
    rw [hr] at h
    have he := h.2.2
    rw [programWithin_end _ hr] at he
    exact he.symm
  | error e c =>
    rw [hr] at h
    cases e with
    | refused f => exact h
    | unknownOperator e => exact h

theorem refusal_of_ok {p : Program} (h : ofTokens ts = .ok p) : refusal [] (ts.map Token.kind) = none := by
  have hj := ofTokens_judged ts
  rwa [h] at hj

/-- The fault is at the token where the tokens are refused. -/
theorem refusal_of_refused (h : ofTokens ts = .error (.refused f)) : f.index ≤ ts.length ∧
    refusal [] (ts.map Token.kind) = some ((ts.drop f.index).map Token.kind) := by
  have hj := ofTokens_judged ts
  rw [h] at hj
  obtain ⟨rest, hr, hl⟩ := hj
  obtain ⟨ms, hm⟩ := Due.refusal_suffix hr
  have hn : ms.length = f.index := by
    have := congrArg List.length hm
    simp only [List.length_append, List.length_map] at this
    omega
  refine ⟨by omega, hr.trans ?_⟩
  rw [List.map_drop, ← hm, ← hn, List.drop_left]

/-- Tokens with known operators make a program if none of them is refused. -/
theorem ofTokens_of_refusal (h : refusal [] (ts.map Token.kind) = none)
    (hk : KnownOperators ts) :
    ∃ p, ofTokens ts = .ok p := by
  have hj := ofTokens_judged ts
  cases ho : ofTokens ts with
  | ok p => exact ⟨p, rfl⟩
  | error e =>
    rw [ho] at hj
    cases e with
    | refused f =>
      obtain ⟨rest, hr, -⟩ := hj
      rw [h] at hr
      cases hr
    | unknownOperator e =>
      obtain ⟨t, ht, hs, hn⟩ := hj
      obtain ⟨op, he⟩ := hk t ht _ hs
      rw [Operator.ofSymbol?_eq_some_iff.2 he] at hn
      cases hn

/-- Tokens that can come make a program with some others after them. -/
theorem ofTokens_completed {σ : List Due} (h : ∀ ls, refusal [] (ts.map Token.kind ++ ls) = refusal σ ls)
    (hk : KnownOperators ts) :
    ∃ us p, ofTokens (ts ++ us) = .ok p := by
  let us : List Token := (σ.flatMap Due.supply).map fun kind => { kind, lexeme := [] }
  have hu : us.map Token.kind = σ.flatMap Due.supply := by simp [us, Function.comp_def]
  refine ⟨us, ofTokens_of_refusal ?_ ?_⟩
  · rw [List.map_append, hu, h, Due.refusal_supply]
  · intro t ht symbol hs
    rcases List.mem_append.1 ht with ht | ht
    · exact hk t ht symbol hs
    · have hm : t.kind ∈ us.map Token.kind := List.mem_map_of_mem ht
      rw [hu, hs] at hm
      exact ⟨.add, Due.eq_of_mem_supply hm⟩

/-- A fault is reported at the first token with which the tokens begin no program any more: those before it still do.
If it is reported at the end, only tokens that would come there are missing. -/
theorem refused_earliest (hk : KnownOperators ts) (h : ofTokens ts = .error (.refused f)) :
    f.index ≤ ts.length ∧
      (f.index < ts.length → (∃ us p, ofTokens (ts.take f.index ++ us) = .ok p) ∧
        ∀ us p, ofTokens (ts.take (f.index + 1) ++ us) ≠ .ok p) ∧
      (f.index = ts.length → (∀ p, ofTokens ts ≠ .ok p) ∧ ∃ us p, ofTokens (ts ++ us) = .ok p) := by
  obtain ⟨hl, hr⟩ := refusal_of_refused h
  rw [← List.take_append_drop f.index ts, List.map_append, List.take_append_drop] at hr
  have hc : ∃ us p, ofTokens (ts.take f.index ++ us) = .ok p := by
    obtain ⟨σ, hσ, -⟩ := Due.refusal_cut hr
    exact ofTokens_completed hσ fun t ht => hk t (List.mem_of_mem_take ht)
  refine ⟨hl, fun hi => ⟨hc, fun us p hp => ?_⟩, fun hi => ⟨fun p hp => ?_, ?_⟩⟩
  · -- The token at the index is refused whatever comes after it.
    rw [List.drop_eq_getElem_cons hi, List.map_cons] at hr
    have hn := Due.refusal_stays hr (us.map Token.kind)
    have ho := refusal_of_ok hp
    rw [List.take_succ_eq_append_getElem hi, List.append_assoc, List.map_append] at ho
    exact absurd (hn.symm.trans ho) (by simp)
  · rw [h] at hp
    cases hp
  · rwa [hi, List.take_length] at hc

/-- The token that is refused here was put back before. -/
theorem refused_earliest_slot :
    let ts : List Token := [⟨.keyword .print, "print"⟩, ⟨.integer 1, "1"⟩, ⟨.operator "+", "+"⟩, ⟨.integer 2, "2"⟩,
      ⟨.integer 3, "3"⟩, ⟨.statementEnd, ";"⟩]
    ofTokens ts = .error (.refused { cause := .unexpected "';'" ⟨.integer 3, "3"⟩, index := 4 }) ∧
      KnownOperators ts ∧ (∃ us p, ofTokens (ts.take 4 ++ us) = .ok p) ∧
      ∀ us p, ofTokens (ts.take 5 ++ us) ≠ .ok p := by
  intro ts
  have h : ofTokens ts = .error (.refused { cause := .unexpected "';'" ⟨.integer 3, "3"⟩, index := 4 }) := by
    decide +kernel
  have hk : KnownOperators ts := by
    intro t ht symbol hs
    have hm : t.kind ∈ ts.map Token.kind := List.mem_map_of_mem ht
    rw [hs] at hm
    exact ⟨.add, by simpa [ts, Operator.symbol, Operator.char] using hm⟩
  exact ⟨h, hk, (refused_earliest hk h).2.1 (by decide)⟩

end Program

end MiniPL
