import MiniPL.Proofs.Refusing
/-!
# The way of a reader over the tokens

Every reader of the grammar is made of a few moves, and a `Walk` lists the moves that a reader is made of. So whatever
each move keeps holds wherever a reader has been and whichever way it ends (`Walk.kept`), and a refused token is the
one that was taken last, or all tokens were missed (`Walk.refused_index`).
-/

namespace MiniPL

namespace Reader

/-- How a reader is made of moves, where `held` is a token that was handed out and can be put back or refused. A
token is held for one stretch of the way: whoever reads after that holds none. -/
inductive Walk : Option Token → {α : Type} → Reader α → Type 1
  | pure {held : Option Token} {α : Type} (a : α) : Walk held (Pure.pure a : Reader α)
  | next {held : Option Token} {α : Type} {expected : Text} {f : Token → Reader α} (w : ∀ t, Walk (some t) (f t)) :
      Walk held (Reader.next expected >>= f)
  | look {held : Option Token} {α : Type} {f : Bool → Reader α} (w : ∀ b, Walk held (f b)) :
      Walk held (Reader.atEnd >>= f)
  /-- The tokens ahead are counted. -/
  | count {held : Option Token} {α : Type} {f : Nat → Reader α} (w : ∀ n, Walk held (f n)) :
      Walk held (fun c => f c.unread c)
  | bind {held : Option Token} {α β : Type} {r : Reader α} {f : α → Reader β} (w : Walk held r)
      (v : ∀ a, Walk none (f a)) : Walk held (r >>= f)
  | putBack (t : Token) : Walk (some t) (Reader.putBack t)
  | refuse {t : Token} {α : Type} (cause : Cursor.Cause) : Walk (some t) (Reader.refuse cause : Reader α)
  | refuseEnd {held : Option Token} {α : Type} (expected : Text) : Walk held (Reader.refuseEnd expected : Reader α)
  | operator {held : Option Token} (symbol : Text) : Walk held (Reader.operator symbol)

variable {α β : Type} {r : Reader α} {f : α → Reader β} {held : Option Token} {c c' : Cursor} {t : Token}

/-- Where the cursor is when a reader ends. -/
def cursorOf : EStateM.Result Fault Cursor α → Cursor
  | .ok _ c => c
  | .error _ c => c

theorem next_error {expected : Text} {e : Fault} (h : next expected c = .error e c') : c' = c := by
  obtain ⟨n, slot, rest⟩ := c
  cases slot with
  | some u => cases h
  | none =>
    cases rest with
    | nil => cases h; rfl
    | cons u rest => cases h

theorem next_refused {expected : Text} {e : Cursor.Fault} (h : next expected c = .error (.refused e) c') :
    e.index = c'.taken + c'.rest.length := by
  obtain ⟨n, slot, rest⟩ := c
  cases slot with
  | some u => cases h
  | none =>
    cases rest with
    | nil => cases h; rfl
    | cons u rest => cases h

/-- A cursor with a token in its slot does not take another one. -/
theorem putBack_error {e : Fault} (h : putBack t c = .error e c') : c' = c := by
  obtain ⟨n, slot, rest⟩ := c
  cases slot with
  | some u => cases h; rfl
  | none => cases h

theorem cursorOf_operator (symbol : Text) (c : Cursor) : cursorOf (operator symbol c) = c := by
  unfold operator
  cases Operator.named symbol <;> rfl

namespace Walk

/-- Every cursor on the way, from the first one on. -/
def passes : {held : Option Token} → {α : Type} → {r : Reader α} → Walk held r → Cursor → List Cursor
  | _, _, _, @next _ _ expected _ w, c => c :: match Reader.next expected c with
    | .ok t c' => (w t).passes c'
    | .error _ _ => []
  | _, _, _, .look w, c => (w c.atEnd).passes c
  | _, _, _, .count w, c => (w c.unread).passes c
  | _, _, _, @bind _ _ _ r _ w v, c => w.passes c ++ match r c with
    | .ok a c' => (v a).passes c'
    | .error _ _ => []
  | _, _, _, .putBack t, c => [c, cursorOf (Reader.putBack t c)]
  | _, _, _, .pure _, c | _, _, _, .refuse _, c | _, _, _, .refuseEnd _, c | _, _, _, .operator _, c => [c]

/-! ## The readers of the grammar -/

def choose {p : Prop} [d : Decidable p] {r s : Reader α} (w : Walk held r) (v : Walk held s) :
    Walk held (if p then r else s) :=
  match d with
  | .isTrue _ => w
  | .isFalse _ => v

def take {read? : Token → Option α} {expected : Text} : Walk held (Reader.take read? expected) :=
  .next fun t => match read? t with
    | some a => .pure a
    | none => .refuse _

def expect {category : Token.Category} {expected : Text} : Walk held (Reader.expect category expected) := take

def expectKeyword {k : Keyword} : Walk held (Reader.expectKeyword k) := take

def expectName : Walk held Reader.expectName := take

def expectEnd : Walk held Reader.expectEnd := .bind expect fun _ => .pure ()

section
variable {inner : Reader Expr} (w : ∀ {held}, Walk held inner)

def operandWith : (t : Token) → Walk (some t) (Reader.operandWith inner t)
  | ⟨.integer _, _⟩ | ⟨.string _, _⟩ | ⟨.boolean _, _⟩ | ⟨.identifier _, _⟩ => .pure _
  | ⟨.bracketOpen, _⟩ => .bind w fun _ => .bind expect fun _ => .pure _
  | ⟨.keyword _, _⟩ | ⟨.operator _, _⟩ | ⟨.bracketClose, _⟩ | ⟨.assignment, _⟩ | ⟨.typeMark, _⟩ | ⟨.range, _⟩
  | ⟨.dot, _⟩ | ⟨.statementEnd, _⟩ => .refuse _

def refuseChain : Walk held Reader.refuseChain :=
  .look fun
    | true => .pure ()
    -- Nothing is read after a refusal, so what would come after it has no part in the way.
    | false => .next fun t =>
      choose (show Walk _ (Reader.refuse .chainedOperator : Reader Unit) from .refuse _) (.putBack t)

def expressionFrom (left : Operand) : Walk held (Reader.expressionFrom inner left) :=
  .look fun
    | true => .pure _
    | false => .next fun t => match t.symbol? with
      | none => .bind (.putBack t) fun _ => .pure _
      | some symbol => .next fun u => .bind (operandWith w u) fun _ => .bind refuseChain fun _ =>
          .bind (.operator symbol) fun _ => .pure _

def expressionWith : Walk held (Reader.expressionWith inner) :=
  .next fun t => match t.symbol? with
    | some symbol => .next fun u => .bind (operandWith w u) fun _ => .bind (.operator symbol) fun _ => .pure _
    | none => .bind (operandWith w t) fun left => expressionFrom w left

end

def expressionWithin {held : Option Token} : (bound : Nat) → Walk held (Reader.expressionWithin bound)
  | 0 => .refuseEnd _
  | bound + 1 => expressionWith (expressionWithin bound)

def inner : Walk held Reader.inner := .count fun n => expressionWithin (n + 1)

def expression : Walk held Reader.expression := expressionWith inner

def operand (t : Token) : Walk (some t) (Reader.operand t) := operandWith inner t

def declaration : Walk held Reader.declaration :=
  .bind expectName fun _ => .bind expect fun _ => .bind take fun _ => .next fun
    | ⟨.statementEnd, _⟩ => .pure _
    | ⟨.assignment, _⟩ => .bind expression fun _ => .bind expectEnd fun _ => .pure _
    | ⟨.integer _, _⟩ | ⟨.string _, _⟩ | ⟨.boolean _, _⟩ | ⟨.identifier _, _⟩ | ⟨.keyword _, _⟩ | ⟨.operator _, _⟩
    | ⟨.bracketOpen, _⟩ | ⟨.bracketClose, _⟩ | ⟨.typeMark, _⟩ | ⟨.range, _⟩ | ⟨.dot, _⟩ => .refuse _

def assignment (name : Text) : Walk held (Reader.assignment name) :=
  .bind expect fun _ => .bind expression fun _ => .bind expectEnd fun _ => .pure _

def input : Walk held Reader.input := .bind expectName fun _ => .bind expectEnd fun _ => .pure _

def output : Walk held Reader.output := .bind expression fun _ => .bind expectEnd fun _ => .pure _

def assertion : Walk held Reader.assertion :=
  .bind expect fun _ => .bind expression fun _ => .bind expect fun _ => .bind expectEnd fun _ => .pure _

section
variable {body : Reader (List Stmt)} (w : ∀ {held}, Walk held body)

def loopWith : Walk held (Reader.loopWith body) :=
  .bind expectName fun _ => .bind expectKeyword fun _ => .bind expression fun _ => .bind expect fun _ =>
    .bind expression fun _ => .bind expectKeyword fun _ => .bind w fun _ => .bind expectKeyword fun _ =>
      .bind expectEnd fun _ => .pure _

def statementWith : (t : Token) → Walk (some t) (Reader.statementWith body t)
  | ⟨.identifier name, _⟩ => assignment name
  | ⟨.statementEnd, _⟩ => .pure _
  | ⟨.keyword .var, _⟩ => declaration
  | ⟨.keyword .forWord, _⟩ => loopWith w
  | ⟨.keyword .read, _⟩ => input
  | ⟨.keyword .print, _⟩ => output
  | ⟨.keyword .assert, _⟩ => assertion
  | ⟨.keyword .inWord, _⟩ | ⟨.keyword .doWord, _⟩ | ⟨.keyword .endWord, _⟩ | ⟨.keyword (.type _), _⟩
  | ⟨.integer _, _⟩ | ⟨.string _, _⟩ | ⟨.boolean _, _⟩ | ⟨.operator _, _⟩ | ⟨.bracketOpen, _⟩ | ⟨.bracketClose, _⟩
  | ⟨.assignment, _⟩ | ⟨.typeMark, _⟩ | ⟨.range, _⟩ | ⟨.dot, _⟩ => .refuse _

end

def blockWithin {held : Option Token} : (bound : Nat) → Walk held (Reader.blockWithin bound)
  | 0 => .refuseEnd _
  | bound + 1 => .next fun t => choose (.pure _)
      (.bind (statementWith (blockWithin bound) t) fun _ => .bind (blockWithin bound) fun _ => .pure _)

def block : Walk held Reader.block := .count fun n => blockWithin (n + 1)

def statement (t : Token) : Walk (some t) (Reader.statement t) := statementWith block t

def programWithin {held : Option Token} : (bound : Nat) → Walk held (Reader.programWithin bound)
  | 0 => .refuseEnd _
  | bound + 1 => .look fun
      | true => .pure _
      | false => .next fun t => .bind (statement t) fun _ => .bind (programWithin bound) fun _ => .pure _

def program : Walk held Reader.program := .count fun n => programWithin (n + 1)

end Walk

/-! ## What every move keeps -/

/-- What holds of a cursor, and of a token that is held, whatever moves are made. -/
structure Kept (holds : Option Token → Cursor → Prop) : Prop where
  forget {held : Option Token} {c : Cursor} : holds held c → holds none c
  next {held : Option Token} {expected : Text} {t : Token} {c c' : Cursor} :
    holds held c → Reader.next expected c = .ok t c' → holds (some t) c'
  putBack {t : Token} {c c' : Cursor} : holds (some t) c → Reader.putBack t c = .ok () c' → holds none c'
  taken {t : Token} {c : Cursor} : holds (some t) c → 0 < c.taken

namespace Walk

variable {holds : Option Token → Cursor → Prop} (hk : Kept holds)
include hk

/-- Also a reader that fails leaves a cursor of which it holds. -/
theorem kept_end (w : Walk held r) (h : holds held c) : holds none (cursorOf (r c)) := by
  induction w generalizing c with
  | pure _ | refuse _ | refuseEnd _ => exact hk.forget h
  | @next held _ expected f _ ih =>
    cases hn : Reader.next expected c with
    | ok t c' =>
      rw [bind_of_ok hn]
      exact ih t (hk.next h hn)
    | error e c' =>
      rw [bind_of_error hn]
      exact next_error hn ▸ hk.forget h
  | look _ ih => exact ih c.atEnd h
  | count _ ih => exact ih c.unread h
  | @bind _ _ _ r f _ _ ih ih' =>
    have hr := ih h
    cases hc : r c with
    | ok a c' =>
      rw [bind_of_ok hc]
      rw [hc] at hr
      exact ih' a hr
    | error e c' =>
      rw [bind_of_error hc]
      rwa [hc] at hr
  | putBack t =>
    cases hp : Reader.putBack t c with
    | ok u c' => exact hk.putBack h hp
    | error e c' => exact putBack_error hp ▸ hk.forget h
  | operator symbol => exact (cursorOf_operator symbol c).symm ▸ hk.forget h

theorem kept (w : Walk held r) (h : holds held c) : ∀ d ∈ w.passes c, holds none d := by
  induction w generalizing c with
  | pure _ | refuse _ | refuseEnd _ | operator _ => exact List.forall_mem_singleton.2 (hk.forget h)
  | @next held _ expected f _ ih =>
    rw [passes]
    refine List.forall_mem_cons.2 ⟨hk.forget h, ?_⟩
    cases hn : Reader.next expected c with
    | ok t c' => exact ih t (hk.next h hn)
    | error e c' => exact List.forall_mem_nil _
  | look _ ih => exact ih c.atEnd h
  | count _ ih => exact ih c.unread h
  | @bind _ _ _ r f w _ ih ih' =>
    rw [passes]
    refine List.forall_mem_append.2 ⟨ih h, ?_⟩
    have hr := w.kept_end hk h
    cases hc : r c with
    | ok a c' =>
      rw [hc] at hr
      exact ih' a hr
    | error e c' => exact List.forall_mem_nil _
  | putBack t =>
    have hp := (Walk.putBack t).kept_end hk h
    exact List.forall_mem_cons.2 ⟨hk.forget h, List.forall_mem_singleton.2 hp⟩

/-- The fault of a token is at the one that was taken last, so there is one, and other faults are at the end. -/
theorem refused_index (w : Walk held r) (h : holds held c) {e : Cursor.Fault} (he : r c = .error (.refused e) c') :
    e.index = c'.taken + c'.rest.length ∨ e.index + 1 = c'.taken := by
  induction w generalizing c with
  | pure _ => cases he
  | @next held _ expected f _ ih =>
    obtain hn | ⟨t, d, hn, he⟩ := bind_error.1 he
    · exact .inl (next_refused hn)
    · exact ih t (hk.next h hn) he
  | look _ ih => exact ih c.atEnd h he
  | count _ ih => exact ih c.unread h he
  | @bind _ _ _ r f w _ ih ih' =>
    obtain hr | ⟨a, d, hr, he⟩ := bind_error.1 he
    · exact ih h hr
    · have hd := w.kept_end hk h
      rw [hr] at hd
      exact ih' a hd he
  | putBack t =>
    have ht := hk.taken h
    obtain ⟨n, slot, rest⟩ := c
    cases slot with
    | none => cases he
    | some u =>
      cases he
      exact .inr (Nat.sub_add_cancel ht)
  | refuse cause =>
    cases he
    exact .inr (Nat.sub_add_cancel (hk.taken h))
  | refuseEnd _ =>
    cases he
    exact .inl rfl
  | operator symbol =>
    unfold Reader.operator at he
    cases ho : Operator.named symbol with
    | ok op => rw [ho] at he; cases he
    | error f => rw [ho] at he; cases he

end Walk

end Reader

/-! ## Tokens that are read in their order -/

namespace Cursor

variable {ts : List Token} {t : Token} {c c' : Cursor} {held : Option Token}

/-- All that was taken was read, and the token that is held, if one is, is the last of it. -/
def InOrder (ts : List Token) : Option Token → Cursor → Prop
  | none, c => c.On ts
  | some t, c => c.After ts t

theorem start_inOrder (ts : List Token) : (start ts).InOrder ts none := start_on ts

theorem On.slot (h : c.On ts) : c.slot = none ∨ 0 < c.taken ∧ c.slot = ts[c.taken - 1]? := by
  obtain ⟨n, slot, rest⟩ := c
  obtain ⟨read, hts, hn⟩ := h
  cases slot with
  | none => exact .inl rfl
  | some t =>
    simp only [Option.toList, List.length_singleton, List.singleton_append] at hts hn
    subst hts hn
    exact .inr ⟨Nat.succ_pos _, by simp⟩

theorem After.on (h : c.After ts t) : c.On ts := by
  obtain ⟨read, hts, hn, hs⟩ := h
  exact ⟨read ++ [t], by simp [hs, hts], by simp [hs, hn]⟩

theorem On.next {expected : Text} (h : c.On ts) (hn : Reader.next expected c = .ok t c') : c'.After ts t := by
  obtain ⟨n, slot, rest⟩ := c
  obtain ⟨read, hts, hn'⟩ := h
  cases slot with
  | some u => cases hn; exact ⟨read, hts, hn', rfl⟩
  | none =>
    cases rest with
    | nil => cases hn
    | cons u rest => cases hn; exact ⟨read, hts, congrArg (· + 1) hn', rfl⟩

theorem After.putBack (h : c.After ts t) (hp : Reader.putBack t c = .ok () c') : c'.On ts := by
  obtain ⟨n, slot, rest⟩ := c
  obtain ⟨read, hts, hn, rfl⟩ := h
  cases hp
  exact ⟨read, hts, hn⟩

theorem InOrder.on (h : c.InOrder ts held) : c.On ts := by
  cases held with
  | none => exact h
  | some t => exact After.on h

theorem inOrder_kept (ts : List Token) : Reader.Kept (InOrder ts) where
  forget h := h.on
  next h hn := h.on.next hn
  putBack h hp := h.putBack hp
  taken h := by
    obtain ⟨read, -, hn, -⟩ := h
    omega

end Cursor

end MiniPL
