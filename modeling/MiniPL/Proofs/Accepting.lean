import MiniPL.Proofs.Reading
/-!
# What is spelled is read so

`Yields` says what a reader returns on given kinds of tokens, and what it leaves. An expression is read as it
is spelled where no operator comes after it. The bounds of the reader are never met: each is more than the
number of tokens ahead.
-/

namespace MiniPL

open Token (Kind)

namespace Reader

variable {α β : Type} {r : Reader α} {f : α → Reader β} {ks ls rest : List Kind} {k : Kind} {a : α} {b : β}
  {expected : Text} {c : Cursor}

/-- Where tokens of the kinds `ks` are ahead, the reader returns `a` and leaves those of the kinds `rest`. -/
def Yields (r : Reader α) (ks : List Kind) (a : α) (rest : List Kind) : Prop :=
  ∀ c, c.kinds = ks → ∃ c', r c = .ok a c' ∧ c'.kinds = rest

theorem Yields.bind (h : Yields r ks a ls) (h' : Yields (f a) ls b rest) : Yields (r >>= f) ks b rest := by
  intro c hc
  obtain ⟨c₁, h₁, k₁⟩ := h c hc
  obtain ⟨c₂, h₂, k₂⟩ := h' c₁ k₁
  exact ⟨c₂, bind_ok.2 ⟨a, c₁, h₁, h₂⟩, k₂⟩

theorem yields_pure (a : α) (ks : List Kind) : Yields (pure a) ks a ks :=
  fun c hc => ⟨c, rfl, hc⟩

/-! ## Single tokens -/

/-- The next token leaves the slot free. -/
theorem next_free (expected : Text) (hc : c.kinds = k :: ks) :
    ∃ t c', next expected c = .ok t c' ∧ t.kind = k ∧ c'.kinds = ks ∧ c'.slot = none := by
  obtain ⟨n, slot, tokens⟩ := c
  cases slot with
  | some u =>
    simp only [Cursor.kinds, Option.toList, List.map_cons, List.singleton_append, List.cons.injEq] at hc
    exact ⟨u, _, rfl, hc.1, hc.2, rfl⟩
  | none =>
    cases tokens with
    | nil => cases hc
    | cons u tokens =>
      simp only [Cursor.kinds, Option.toList, List.nil_append, List.map_cons, List.cons.injEq] at hc
      exact ⟨u, _, rfl, hc.1, hc.2, rfl⟩

theorem yields_next {f : Token → Reader β} (h : ∀ t, t.kind = k → Yields (f t) ks b rest) :
    Yields (next expected >>= f) (k :: ks) b rest := by
  intro c hc
  obtain ⟨t, c₁, h₁, ht, hk, -⟩ := next_free expected hc
  obtain ⟨c₂, h₂, k₂⟩ := h t ht c₁ hk
  exact ⟨c₂, bind_ok.2 ⟨t, c₁, h₁, h₂⟩, k₂⟩

/-- A token that is put back is ahead again. -/
theorem putBack_free (t : Token) (hc : c.slot = none) :
    ∃ c', putBack t c = .ok () c' ∧ c'.kinds = t.kind :: c.kinds := by
  obtain ⟨n, slot, tokens⟩ := c
  cases hc
  exact ⟨_, rfl, rfl⟩

/-- A token that is looked at and put back is not taken. -/
theorem yields_peek {f : Token → Reader β}
    (h : ∀ t c c', t.kind = k → putBack t c = .ok () c' → c'.kinds = k :: ks → f t c = .ok b c') :
    Yields (next expected >>= f) (k :: ks) b (k :: ks) := by
  intro c hc
  obtain ⟨t, c₁, h₁, ht, hk, hs⟩ := next_free expected hc
  obtain ⟨c₂, h₂, k₂⟩ := putBack_free t hs
  rw [ht, hk] at k₂
  exact ⟨c₂, bind_ok.2 ⟨t, c₁, h₁, h t c₁ c₂ ht h₂ k₂⟩, k₂⟩

theorem take_of_next {read? : Token → Option α} {t : Token} {c' : Cursor} (h : next expected c = .ok t c')
    (ha : read? t = some a) : take read? expected c = .ok a c' := by
  refine bind_ok.2 ⟨t, c', h, ?_⟩
  simp only [ha]
  rfl

theorem yields_take {read? : Token → Option α} (h : ∀ t, t.kind = k → read? t = some a) :
    Yields (take read? expected) (k :: ks) a ks := by
  intro c hc
  obtain ⟨t, c₁, h₁, ht, k₁, -⟩ := next_free expected hc
  exact ⟨c₁, take_of_next h₁ (h t ht), k₁⟩

theorem yields_name (x : Text) : Yields expectName (.identifier x :: ks) x ks :=
  yields_take fun t ht => by simp [Token.name?, ht]

theorem yields_type (ty : Ty) : Yields (take Token.type? expected) (.keyword (.type ty) :: ks) ty ks :=
  yields_take fun t ht => by simp [Token.type?, ht]

theorem yields_keyword (k : Keyword) : Yields (expectKeyword k) (.keyword k :: ks) () ks :=
  yields_take fun t ht => by simp [ht]

theorem yields_expect {category : Token.Category} (hk : bareKind? category = some k) {r : Reader β}
    (h : Yields r ks b rest) : Yields (expect category expected >>= fun _ => r) (k :: ks) b rest := by
  intro c hc
  obtain ⟨t, c₁, h₁, ht, k₁, -⟩ := next_free expected hc
  obtain ⟨c₂, h₂, k₂⟩ := h c₁ k₁
  have he : expect category expected c = .ok t c₁ :=
    take_of_next h₁ (if_pos ((category_eq_iff hk _).2 ht))
  exact ⟨c₂, bind_ok.2 ⟨t, c₁, he, h₂⟩, k₂⟩

theorem yields_end : Yields expectEnd (.statementEnd :: ks) () ks := yields_expect rfl (yields_pure () ks)

theorem yields_operator (op : Operator) : Yields (operator op.symbol) ks op ks := by
  intro c hc
  refine ⟨c, ?_, hc⟩
  simp [operator, Operator.named, Operator.ofSymbol?_eq_some_iff.2 rfl]

/-- A choice on whether tokens are left is decided by the kinds ahead. -/
theorem yields_atEnd {x y : Reader β} (h : ks = [] → Yields x ks b rest) (h' : ks ≠ [] → Yields y ks b rest) :
    Yields (atEnd >>= fun e => if e = true then x else y) ks b rest := by
  intro c hc
  have hd := Cursor.atEnd_iff c
  rw [hc] at hd
  by_cases he : ks = []
  · obtain ⟨c₁, h₁, k₁⟩ := h he c hc
    exact ⟨c₁, bind_ok.2 ⟨_, c, rfl, by rw [if_pos (hd.2 he)]; exact h₁⟩, k₁⟩
  · obtain ⟨c₁, h₁, k₁⟩ := h' he c hc
    exact ⟨c₁, bind_ok.2 ⟨_, c, rfl, by rw [if_neg (mt hd.1 he)]; exact h₁⟩, k₁⟩

/-- The bound that a reader computes exceeds the number of tokens that spell anything ahead. -/
theorem length_lt_bound (hc : c.kinds = ks ++ rest) : ks.length < c.unread + 1 := by
  rw [← Cursor.length_kinds, hc, List.length_append]
  omega

/-! ## Expressions -/

/-- The kinds ahead do not begin with an operator, so an expression before them is over. -/
def Ends (ks : List Kind) : Prop := ∀ symbol, ks.head? ≠ some (.operator symbol)

theorem ends_cons (h : ∀ symbol, k ≠ .operator symbol) (ks : List Kind) : Ends (k :: ks) := by
  simpa [Ends] using h

theorem symbol?_eq_none {t : Token} (h : ∀ symbol, t.kind ≠ .operator symbol) : t.symbol? = none := by
  unfold Token.symbol?
  split
  · next hk => exact absurd hk (h _)
  · rfl

theorem category_ne_operator (h : ∀ symbol, k ≠ .operator symbol) : k.category ≠ .operator := by
  cases k <;> simp_all [Kind.category]

/-- An operand begins with a token that is no operator. -/
theorem operand_begins {a : Operand} (h : a.Spelled ks) :
    ∃ k ls, ks = k :: ls ∧ ∀ symbol, k ≠ .operator symbol := by
  cases h <;> exact ⟨_, _, rfl, fun _ hk => by cases hk⟩

/-- Before `rest`, the reader returns every expression that fewer than `n` tokens spell. -/
def ReadsWithin (inner : Reader Expr) (n : Nat) : Prop :=
  ∀ e ks rest, e.Spelled ks → ks.length < n → Ends rest → Yields inner (ks ++ rest) e rest

section
variable {inner : Reader Expr} {n : Nat} (hi : ReadsWithin inner n)
include hi

theorem yields_operandWith {a : Operand} (ha : a.Spelled (k :: ks)) (hn : ks.length ≤ n) {t : Token}
    (ht : t.kind = k) : Yields (operandWith inner t) (ks ++ rest) a rest := by
  unfold operandWith
  cases ha with
  | group he =>
    rename_i ls
    simp only [ht]
    have hn : ls.length + 1 ≤ n := by simpa using hn
    have hr := hi _ ls (.bracketClose :: rest) he (by omega) (ends_cons (fun _ hk => by cases hk) rest)
    rw [List.append_assoc]
    exact hr.bind (yields_expect rfl (yields_pure _ _))
  | _ =>
    simp only [ht]
    exact yields_pure _ _

theorem yields_operand {a : Operand} (ha : a.Spelled ks) (hn : ks.length ≤ n + 1) {f : Operand → Reader β}
    (h : Yields (f a) ls b rest) :
    Yields (next expected >>= fun t => operandWith inner t >>= f) (ks ++ ls) b rest := by
  obtain ⟨k, ms, rfl, -⟩ := operand_begins ha
  refine yields_next fun t ht => ?_
  exact (yields_operandWith hi ha (Nat.le_of_succ_le_succ hn) ht).bind h

omit hi in
theorem yields_refuseChain (hr : Ends rest) : Yields refuseChain rest () rest := by
  refine yields_atEnd (fun _ => yields_pure _ _) fun hne => ?_
  obtain ⟨k, ls, rfl⟩ := List.exists_cons_of_ne_nil hne
  have hk : ∀ symbol, k ≠ .operator symbol := by simpa [Ends] using hr
  refine yields_peek fun t c c' ht hp _ => ?_
  rw [if_neg (by rw [Token.category, ht]; exact category_ne_operator hk)]
  exact hp

omit hi in
/-- An operand that no operator follows is an expression. -/
theorem yields_simple {left : Operand} (hr : Ends rest) :
    Yields (expressionFrom inner left) rest (.simple left) rest := by
  refine yields_atEnd (fun _ => yields_pure _ _) fun hne => ?_
  obtain ⟨k, ls, rfl⟩ := List.exists_cons_of_ne_nil hne
  have hk : ∀ symbol, k ≠ .operator symbol := by simpa [Ends] using hr
  refine yields_peek fun t c c' ht hp _ => ?_
  simp only [symbol?_eq_none (ht ▸ hk)]
  exact bind_ok.2 ⟨_, c', hp, rfl⟩

theorem yields_binary {left right : Operand} {op : Operator} (hb : right.Spelled ks) (hn : ks.length ≤ n + 1)
    (hr : Ends rest) :
    Yields (expressionFrom inner left) (.operator op.symbol :: (ks ++ rest)) (.binary left op right) rest := by
  refine yields_atEnd (fun h => by cases h) fun _ => ?_
  refine yields_next fun t ht => ?_
  simp only [Token.symbol?, ht]
  refine yields_operand hi hb hn ?_
  exact (yields_refuseChain hr).bind ((yields_operator op).bind (yields_pure _ _))

/-- One more pair of parentheses takes more than one more token. -/
theorem expressionWith_reads : ReadsWithin (expressionWith inner) (n + 1) := by
  intro e ks rest he hn hr
  cases he with
  | unary ha =>
    rename_i op a ks
    refine yields_next fun t ht => ?_
    simp only [Token.symbol?, ht]
    simp only [List.length_cons] at hn
    exact yields_operand hi ha (by omega) ((yields_operator op).bind (yields_pure _ _))
  | simple ha =>
    -- The first token is no operator, so it begins an operand.
    obtain ⟨k, ls, rfl, hk⟩ := operand_begins ha
    refine yields_next fun t ht => ?_
    simp only [symbol?_eq_none (ht ▸ hk)]
    simp only [List.length_cons] at hn
    exact (yields_operandWith hi ha (by omega) ht).bind (yields_simple hr)
  | binary ha hb =>
    rename_i op a b ks ls
    obtain ⟨k, ms, rfl, hk⟩ := operand_begins ha
    simp only [List.length_append, List.length_cons] at hn
    simp only [List.append_assoc, List.cons_append]
    refine yields_next fun t ht => ?_
    simp only [symbol?_eq_none (ht ▸ hk)]
    exact (yields_operandWith hi ha (by omega) ht).bind (yields_binary hi hb (by omega) hr)
end

theorem expressionWithin_reads (bound : Nat) : ReadsWithin (expressionWithin bound) bound := by
  induction bound with
  | zero => exact fun e ks rest _ hn => absurd hn (Nat.not_lt_zero _)
  | succ bound ih => exact expressionWith_reads ih

theorem inner_reads (n : Nat) : ReadsWithin inner n := by
  intro e ks rest he _ hr c hc
  exact expressionWithin_reads (c.unread + 1) e ks rest he (length_lt_bound hc) hr c hc

theorem yields_expression {e : Expr} (he : e.Spelled ks) (hr : Ends rest) :
    Yields expression (ks ++ rest) e rest :=
  expressionWith_reads (inner_reads ks.length) e ks rest he (Nat.lt_succ_self _) hr

/-! ## Statements -/

theorem yields_closed {e : Expr} (he : e.Spelled ks) (hk : ∀ symbol, k ≠ .operator symbol) {f : Expr → Reader β}
    (h : Yields (f e) (k :: ls) b rest) : Yields (expression >>= f) (ks ++ k :: ls) b rest :=
  (yields_expression he (ends_cons hk ls)).bind h

/-- A statement begins with a token that ends no block. -/
theorem statement_begins {s : Stmt} (h : s.Spelled ks) : ∃ k ls, ks = k :: ls ∧ k ≠ .keyword .endWord := by
  cases h <;> exact ⟨_, _, rfl, by simp⟩

/-- Before the `end` of a block, the reader returns every list of statements that fewer than `n` tokens spell. -/
def ReadsBlockWithin (body : Reader (List Stmt)) (n : Nat) : Prop :=
  ∀ b ks rest, Stmt.BlockSpelled b ks → ks.length < n → Yields body (ks ++ .keyword .endWord :: rest) b rest

theorem yields_statementWith {body : Reader (List Stmt)} {n : Nat} (hb : ReadsBlockWithin body n) {s : Stmt}
    (hs : s.Spelled (k :: ks)) (hn : ks.length ≤ n) {t : Token} (ht : t.kind = k) :
    Yields (statementWith body t) (ks ++ rest) s rest := by
  unfold statementWith
  cases hs with
  | empty => simp only [ht]; exact yields_pure _ _
  | assign he =>
    simp only [ht, List.append_assoc, List.cons_append]
    exact yields_expect rfl (yields_closed he (by simp) (yields_end.bind (yields_pure _ _)))
  | declare x ty =>
    simp only [ht]
    refine (yields_name x).bind (yields_expect rfl ((yields_type ty).bind (yields_next fun t ht => ?_)))
    simp only [ht]
    exact yields_pure _ _
  | declareTo he =>
    simp only [ht, List.append_assoc, List.cons_append]
    refine (yields_name _).bind (yields_expect rfl ((yields_type _).bind (yields_next fun t ht => ?_)))
    simp only [ht]
    exact yields_closed he (by simp) (yields_end.bind (yields_pure _ _))
  | loop hf hl hm =>
    rename_i x a b body ks ls ms
    have hm := hb _ ms (.keyword .forWord :: .statementEnd :: rest) hm
      (by simp only [List.length_append, List.length_cons] at hn; omega)
    simp only [ht, List.append_assoc, List.cons_append]
    refine (yields_name _).bind ((yields_keyword _).bind (yields_closed hf (by simp) ?_))
    refine yields_expect rfl (yields_closed hl (by simp) ((yields_keyword _).bind ?_))
    exact hm.bind ((yields_keyword _).bind (yields_end.bind (yields_pure _ _)))
  | read x =>
    simp only [ht]
    exact (yields_name x).bind (yields_end.bind (yields_pure _ _))
  | print he =>
    simp only [ht, List.append_assoc, List.cons_append]
    exact yields_closed he (by simp) (yields_end.bind (yields_pure _ _))
  | assert he =>
    simp only [ht, List.append_assoc, List.cons_append]
    refine yields_expect rfl (yields_closed he (by simp) (yields_expect rfl ?_))
    exact yields_end.bind (yields_pure _ _)

theorem blockWithin_reads (bound : Nat) : ReadsBlockWithin (blockWithin bound) bound := by
  induction bound with
  | zero => exact fun b ks rest _ hn => absurd hn (Nat.not_lt_zero _)
  | succ bound ih =>
    intro b ks rest hb hn
    cases hb with
    | nil =>
      refine yields_next fun t ht => ?_
      rw [if_pos ht]
      exact yields_pure _ _
    | cons hs hb =>
      rename_i s b ks ls
      -- The first token of a statement is not `end`, so the block goes on.
      obtain ⟨k, ms, rfl, hk⟩ := statement_begins hs
      simp only [List.length_append, List.length_cons] at hn
      rw [List.append_assoc]
      refine yields_next fun t ht => ?_
      rw [if_neg (ht ▸ hk)]
      refine (yields_statementWith ih hs (by omega) ht).bind ?_
      exact (ih b ls rest hb (by omega)).bind (yields_pure _ _)

theorem block_reads (n : Nat) : ReadsBlockWithin block n := by
  intro b ks rest hb _ c hc
  exact blockWithin_reads (c.unread + 1) b ks rest hb (length_lt_bound hc) c hc

theorem programWithin_reads (bound : Nat) {p : Program} (hp : Stmt.BlockSpelled p ks) (hn : ks.length < bound) :
    Yields (programWithin bound) ks p [] := by
  induction bound generalizing p ks with
  | zero => exact absurd hn (Nat.not_lt_zero _)
  | succ bound ih =>
    cases hp with
    | nil => exact yields_atEnd (fun _ => yields_pure _ _) (fun h => absurd rfl h)
    | cons hs hp =>
      rename_i s p ks ls
      obtain ⟨k, ms, rfl, -⟩ := statement_begins hs
      simp only [List.length_append, List.length_cons] at hn
      refine yields_atEnd (fun h => by cases h) fun _ => ?_
      refine yields_next fun t ht => ?_
      refine (yields_statementWith (block_reads ms.length) hs (Nat.le_refl _) ht).bind ?_
      exact (ih hp (by omega)).bind (yields_pure _ _)

end Reader

/-! ## Programs -/

namespace Program

theorem ofTokens_ok {ts : List Token} {p : Program} :
    ofTokens ts = .ok p ↔ ∃ c, Reader.program (Cursor.start ts) = .ok p c := by
  unfold ofTokens Reader.runOn EStateM.run
  cases Reader.program (Cursor.start ts) <;> simp

theorem kinds_start (ts : List Token) : (Cursor.start ts).kinds = ts.map Token.kind := rfl

theorem spelled_of_ofTokens {ts : List Token} {p : Program} (h : ofTokens ts = .ok p) : p.Spelled ts := by
  obtain ⟨c, hc⟩ := ofTokens_ok.1 h
  have hs := Reader.programWithin_ok _ hc
  rwa [kinds_start] at hs

theorem ofTokens_of_spelled {ts : List Token} {p : Program} (h : p.Spelled ts) : ofTokens ts = .ok p := by
  have hn := Reader.length_lt_bound ((kinds_start ts).trans (List.append_nil _).symm)
  obtain ⟨c, hc, -⟩ := Reader.programWithin_reads _ h hn (Cursor.start ts) (kinds_start ts)
  exact ofTokens_ok.2 ⟨c, hc⟩

/-- Tokens are read as a program exactly if the grammar derives it from their kinds, and the grammar derives at
most one. -/
theorem ofTokens_eq_ok_iff (ts : List Token) (p : Program) :
    (ofTokens ts = .ok p ↔ p.Spelled ts) ∧ ∀ q : Program, p.Spelled ts → q.Spelled ts → p = q := by
  refine ⟨⟨spelled_of_ofTokens, ofTokens_of_spelled⟩, fun q hp hq => ?_⟩
  have h := (ofTokens_of_spelled hp).symm.trans (ofTokens_of_spelled hq)
  exact Except.ok.inj h

theorem ofTokens_group :
    let ts : List Token := [⟨.keyword .print, "print"⟩, ⟨.operator "!", "!"⟩, ⟨.bracketOpen, "("⟩,
      ⟨.identifier "n", "n"⟩, ⟨.operator "<", "<"⟩, ⟨.integer 1, "1"⟩, ⟨.bracketClose, ")"⟩, ⟨.statementEnd, ";"⟩]
    let p : Program := [.print (.unary .not (.group (.binary (.variable "n") .less (.literal (.int 1)))))]
    ofTokens ts = .ok p ∧ ∀ q : Program, q.Spelled ts → p = q := by
  intro ts p
  have h : ofTokens ts = .ok p := by decide +kernel
  have hp := (ofTokens_eq_ok_iff ts p).1.1 h
  exact ⟨h, fun q hq => (ofTokens_eq_ok_iff ts p).2 q hp hq⟩

end Program

end MiniPL
