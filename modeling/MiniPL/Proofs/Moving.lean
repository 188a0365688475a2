import MiniPL.Proofs.Looping
import MiniPL.Proofs.Walking
/-!
# Moves of the reader in any order

Somebody who reads tokens by hand makes the moves of the reader in any order, puts back the token that was handed out
last, and goes on after faults. `Cursor.Among` is what every move keeps: the cursor stays among the tokens, and what is
put back is one of those that were taken.
-/

namespace MiniPL

open Reader

/-! ## Cursors among the tokens -/

/-- The cursor has taken tokens from the front of the list, at least `low` of them. The token in the slot, and one that
was handed out, are among those. -/
structure Cursor.Among (ts : List Token) (low : Nat) (held : Option Token) (c : Cursor) : Prop where
  low : low ≤ c.taken
  rest : c.rest = ts.drop c.taken
  taken : c.taken ≤ ts.length
  slot : ∀ t ∈ c.slot, t ∈ ts.take c.taken
  held : ∀ t ∈ held, t ∈ ts.take c.taken

namespace Cursor

variable {ts : List Token} {low : Nat} {held : Option Token} {c c' : Cursor} {t : Token}

theorem start_among (ts : List Token) : (start ts).Among ts 0 none where
  low := Nat.le_refl 0
  rest := rfl
  taken := Nat.zero_le _
  slot := by simp [start]
  held := by simp

theorem Among.raise (h : c.Among ts low held) : c.Among ts c.taken held :=
  { h with low := Nat.le_refl _ }

/-- What was taken before is still taken. -/
theorem Among.hold (h : c.Among ts low none) (ht : ∀ t ∈ held, t ∈ ts.take low) : c.Among ts low held :=
  { h with held := fun t hm => List.take_subset_take_left _ h.low (ht t hm) }

theorem Among.next {expected : Text} (h : c.Among ts low held) (hn : Reader.next expected c = .ok t c') :
    c'.Among ts low (some t) := by
  obtain ⟨n, slot, rest⟩ := c
  obtain ⟨hl, hr, ht, hs, -⟩ := h
  simp only at hl hr ht hs
  cases slot with
  | some u =>
    cases hn
    exact ⟨hl, hr, ht, by simp, hs⟩
  | none =>
    cases rest with
    | nil => cases hn
    | cons u rest =>
      cases hn
      -- What is left begins inside the list, and its first token is the one that is taken now.
      have hlt : n < ts.length := Nat.lt_of_not_le fun hle => by simp [List.drop_eq_nil_of_le hle] at hr
      rw [List.drop_eq_getElem_cons hlt, List.cons.injEq] at hr
      obtain ⟨rfl, rfl⟩ := hr
      refine ⟨Nat.le_succ_of_le hl, rfl, hlt, by simp, fun v hv => ?_⟩
      cases hv
      exact List.mem_take_iff_getElem.2 ⟨n, Nat.lt_min.2 ⟨Nat.lt_succ_self n, hlt⟩, rfl⟩

theorem among_kept (ts : List Token) (low : Nat) : Kept (Among ts low) where
  forget h := { h with held := by simp }
  next h hn := h.next hn
  putBack {t c _} h hp := by
    obtain ⟨n, slot, rest⟩ := c
    cases slot with
    | some u => cases hp
    | none =>
      cases hp
      exact { h with slot := h.held, held := by simp }
  taken {t c} h := by
    have ht := h.held t rfl
    refine Nat.pos_of_ne_zero fun h0 => ?_
    rw [h0] at ht
    cases ht

theorem Among.unread (h : c.Among ts low held) :
    c.unread = ts.length - c.taken + if c.slot.isSome then 1 else 0 := by
  rw [Cursor.unread, h.rest, List.length_drop]
  cases c.slot <;> simp [Nat.add_comm]

end Cursor

/-! ## Moves -/

/-- What can be done with a cursor. -/
inductive Move where
  | atEnd
  | next (expected : Text)
  /-- Puts back the token that was handed out last, if one was. -/
  | putBack
  | expect (category : Token.Category) (expected : Text)
  | expectKeyword (k : Keyword)
  | expression
  | operand
  | statement
  | program

/-- A cursor, and the token that was handed out last, if one was. -/
structure Hand where
  cursor : Cursor
  last : Option Token

namespace Move

/-- The move as a reader of what is the last token then. -/
def reader (last : Option Token) : Move → Reader (Option Token)
  | .atEnd => do
    let _ ← Reader.atEnd
    return last
  | .next expected => do return some (← Reader.next expected)
  | .putBack => match last with
    | some t => do
      Reader.putBack t
      return last
    | none => return last
  | .expect category expected => do return some (← Reader.expect category expected)
  | .expectKeyword k => do
    Reader.expectKeyword k
    return last
  | .expression => do
    let _ ← Reader.expression
    return last
  | .operand => do
    let _ ← Reader.operand (← Reader.next "operand")
    return last
  | .statement => do
    let _ ← Reader.statement (← Reader.next "statement")
    return last
  | .program => do
    let _ ← Reader.program
    return last

/-- The fault of the move, if it fails. -/
def fault? (m : Move) (h : Hand) : Option Reader.Fault :=
  match m.reader h.last h.cursor with
  | .ok _ _ => none
  | .error f _ => some f

def walk (last : Option Token) : (m : Move) → Walk last (m.reader last)
  | .atEnd => .look fun _ => .pure _
  | .next _ => .next fun _ => .pure _
  | .putBack => match last with
    | some t => .bind (.putBack t) fun _ => .pure _
    | none => .pure _
  | .expect _ _ => .bind .expect fun _ => .pure _
  | .expectKeyword _ => .bind .expectKeyword fun _ => .pure _
  | .expression => .bind .expression fun _ => .pure _
  | .operand => .next fun t => .bind (.operand t) fun _ => .pure _
  | .statement => .next fun t => .bind (.statement t) fun _ => .pure _
  | .program => .bind .program fun _ => .pure _

end Move

namespace Hand

def start (ts : List Token) : Hand := { cursor := .start ts, last := none }

/-- The hand after a move. A move that fails hands out no token, and the cursor stays where the fault was reached. -/
def after (h : Hand) (m : Move) : Hand :=
  match m.reader h.last h.cursor with
  | .ok last c => { cursor := c, last }
  | .error _ c => { h with cursor := c }

/-- The hand after moves of which each may fail. -/
def afterAll (h : Hand) (ms : List Move) : Hand := ms.foldl after h

end Hand

section
variable {ts : List Token} {low : Nat} {last last' : Option Token} {c c' : Cursor} {h : Hand}

theorem Reader.next_of_expect {category : Token.Category} {expected : Text} {t : Token}
    (he : Reader.expect category expected c = .ok t c') : Reader.next expected c = .ok t c' := by
  obtain ⟨u, hu, hn⟩ := next_of_take he
  split at hu
  · cases hu
    exact hn
  · cases hu

/-- The last token is still the same, or the next one has been handed out. -/
theorem Move.last_of_reader (m : Move) (hm : m.reader last c = .ok last' c') :
    last' = last ∨ ∃ t expected, last' = some t ∧ Reader.next expected c = .ok t c' := by
  cases m with
  | next expected =>
    obtain ⟨t, c₁, hn, hp⟩ := bind_ok.1 hm
    obtain ⟨rfl, rfl⟩ := pure_ok.1 hp
    exact .inr ⟨t, expected, rfl, hn⟩
  | expect category expected =>
    obtain ⟨t, c₁, he, hp⟩ := bind_ok.1 hm
    obtain ⟨rfl, rfl⟩ := pure_ok.1 hp
    exact .inr ⟨t, expected, rfl, next_of_expect he⟩
  | putBack =>
    left
    cases last with
    | none => exact (pure_ok.1 hm).1.symm
    | some t =>
      obtain ⟨_, c₁, -, hp⟩ := bind_ok.1 hm
      exact (pure_ok.1 hp).1.symm
  | operand | statement =>
    obtain ⟨t, c₁, -, hm⟩ := bind_ok.1 hm
    obtain ⟨_, c₂, -, hp⟩ := bind_ok.1 hm
    exact .inl (pure_ok.1 hp).1.symm
  | _ =>
    obtain ⟨_, c₁, -, hp⟩ := bind_ok.1 hm
    exact .inl (pure_ok.1 hp).1.symm

/-- The hand is among the tokens. -/
def Hand.Among (ts : List Token) (low : Nat) (h : Hand) : Prop := h.cursor.Among ts low h.last

/-- A move ends or fails, and that is all it does. -/
theorem Hand.after_cases (h : Hand) (m : Move) :
    (∃ last c, m.reader h.last h.cursor = .ok last c ∧ h.after m = { cursor := c, last } ∧ m.fault? h = none) ∨
    ∃ f c, m.reader h.last h.cursor = .error f c ∧ h.after m = { h with cursor := c } ∧ m.fault? h = some f := by
  unfold after Move.fault?
  cases m.reader h.last h.cursor with
  | ok last c => exact .inl ⟨last, c, rfl, rfl, rfl⟩
  | error f c => exact .inr ⟨f, c, rfl, rfl, rfl⟩

/-- After a move the hand is as far as before it, or further. -/
theorem Hand.Among.after (ha : h.Among ts low) (m : Move) : (h.after m).Among ts h.cursor.taken := by
  have hend := (m.walk h.last).kept_end (Cursor.among_kept ts h.cursor.taken) ha.raise
  obtain ⟨last, c, hm, he, -⟩ | ⟨f, c, hm, he, -⟩ := h.after_cases m
  · rw [hm] at hend
    rw [he]
    obtain rfl | ⟨t, expected, rfl, hn⟩ := m.last_of_reader hm
    · exact hend.hold ha.held
    · exact ha.raise.next hn
  · rw [hm] at hend
    rw [he]
    exact hend.hold ha.held

theorem Hand.start_among (ts : List Token) : (start ts).Among ts 0 := Cursor.start_among ts

theorem Hand.Among.afterAll (ha : h.Among ts low) (ms : List Move) : (h.afterAll ms).Among ts low := by
  induction ms generalizing h low with
  | nil => exact ha
  | cons m ms ih =>
    have hm := ha.after m
    exact ih { hm with low := Nat.le_trans ha.low hm.low }

/-! ## What every move does -/

/-- What the move does to a hand that reads these tokens. -/
structure Move.Safe (ts : List Token) (h : Hand) (m : Move) : Prop where
  forward : h.cursor.taken ≤ (h.after m).cursor.taken ∧ (h.after m).cursor.taken ≤ ts.length
  slot : ∀ t ∈ (h.after m).cursor.slot, t ∈ ts.take (h.after m).cursor.taken
  /-- A token is refused if it is the last that was taken, or else the end of the tokens is. -/
  index : ∀ f, m.fault? h = some (.refused f) →
    f.index ≤ ts.length ∧ (f.index = ts.length ∨ f.index + 1 = (h.after m).cursor.taken)
  rejected : m = .putBack → m.fault? h ≠ none → h.after m = h
  unread : h.cursor.unread = ts.length - h.cursor.taken + if h.cursor.slot.isSome then 1 else 0
  progress : m = .expression ∨ m = .statement → m.fault? h = none → (h.after m).cursor.unread < h.cursor.unread

theorem Move.index_of_refused (ha : h.Among ts low) (m : Move) {f : Cursor.Fault}
    (hf : m.fault? h = some (.refused f)) :
    f.index ≤ ts.length ∧ (f.index = ts.length ∨ f.index + 1 = (h.after m).cursor.taken) := by
  have ht := (ha.after m).taken
  have hr := (ha.after m).rest
  obtain ⟨last, c, -, -, hn⟩ | ⟨e, c, hm, he, hs⟩ := h.after_cases m
  · cases hn.symm.trans hf
  · cases hs.symm.trans hf
    have hi := (m.walk h.last).refused_index (Cursor.among_kept ts low) ha hm
    rw [he] at ht hr ⊢
    simp only at ht hr ⊢
    rw [hr, List.length_drop] at hi
    omega

theorem Move.after_putBack (hf : Move.putBack.fault? h ≠ none) : h.after .putBack = h := by
  obtain ⟨last, c, -, -, hn⟩ | ⟨e, c, hm, he, -⟩ := h.after_cases .putBack
  · exact absurd hn hf
  · rw [he]
    obtain ⟨cursor, last⟩ := h
    cases last with
    | none => cases hm
    | some t =>
      obtain hp | ⟨u, c₁, -, hp⟩ := bind_error.1 hm
      · rw [putBack_error hp]
      · cases hp

theorem Expr.Spelled.ne_nil {e : Expr} {ks : List Token.Kind} (he : e.Spelled ks) : ks ≠ [] := by
  cases he with
  | unary ha => exact List.cons_ne_nil _ _
  | simple ha =>
    obtain ⟨k, ls, rfl, -⟩ := operand_begins ha
    exact List.cons_ne_nil _ _
  | binary ha hb => exact List.append_ne_nil_of_right_ne_nil _ (List.cons_ne_nil _ _)

theorem Reader.expression_unread {e : Expr} (h : Reader.expression c = .ok e c') : c'.unread < c.unread := by
  obtain ⟨ks, hk, hs⟩ := expression_ok _ _ _ h
  rw [← Cursor.length_kinds, ← Cursor.length_kinds, hk, List.length_append]
  exact Nat.lt_add_of_pos_left (List.length_pos_iff.2 hs.ne_nil)

/-- A move that succeeds has been made by its reader. -/
theorem Hand.exists_ok {m : Move} (hf : m.fault? h = none) :
    ∃ last c, m.reader h.last h.cursor = .ok last c ∧ (h.after m).cursor = c := by
  obtain ⟨last, c, hm, he, -⟩ | ⟨e, c, -, -, hs⟩ := h.after_cases m
  · exact ⟨last, c, hm, by rw [he]⟩
  · cases hs.symm.trans hf

theorem Move.unread_expression (hf : Move.expression.fault? h = none) :
    (h.after .expression).cursor.unread < h.cursor.unread := by
  obtain ⟨last, c, hm, rfl⟩ := Hand.exists_ok hf
  obtain ⟨e, c₁, he, hp⟩ := bind_ok.1 hm
  rw [← (pure_ok.1 hp).2]
  exact expression_unread he

theorem Move.unread_statement (hf : Move.statement.fault? h = none) :
    (h.after .statement).cursor.unread < h.cursor.unread := by
  obtain ⟨last, c, hm, rfl⟩ := Hand.exists_ok hf
  obtain ⟨t, c₁, hn, hm⟩ := bind_ok.1 hm
  obtain ⟨s, c₂, hs, hp⟩ := bind_ok.1 hm
  rw [← (pure_ok.1 hp).2]
  exact Nat.lt_of_le_of_lt (statement_ok.shrinks _ _ _ hs) (next_unread hn)

theorem Move.safe_of_among (ha : h.Among ts low) (m : Move) : m.Safe ts h where
  forward := ⟨(ha.after m).low, (ha.after m).taken⟩
  slot := (ha.after m).slot
  index _ := index_of_refused ha m
  rejected := by
    rintro rfl
    exact after_putBack
  unread := Cursor.Among.unread ha
  progress := by
    rintro (rfl | rfl)
    · exact unread_expression
    · exact unread_statement

end

/-- Whatever moves were made before, the next one keeps the cursor among the tokens, and what it refuses is one of the
tokens or their end; an expression or a statement leaves fewer tokens. So the equations of the loops have one solution,
and while tokens are read as a program, a token is put back only right after it was handed out. -/
theorem Hand.safe_after_moves (ts : List Token) (ms : List Move) (m : Move) :
    m.Safe ts ((Hand.start ts).afterAll ms) ∧
    (∀ r, r = expressionWith r ↔ r = expression) ∧ (∀ r, r = blockWith r ↔ r = block) ∧
    (∀ r, r = programWith r ↔ r = program) ∧
    ∀ c ∈ (Walk.program : Walk none program).passes (Cursor.start ts),
      c.slot = none ∨ 0 < c.taken ∧ c.slot = ts[c.taken - 1]? := by
  have ha := (Hand.start_among ts).afterAll ms
  refine ⟨m.safe_of_among ha, eq_expression_iff, eq_block_iff, eq_program_iff, fun c hc => ?_⟩
  exact (Walk.program.kept (Cursor.inOrder_kept ts) (Cursor.start_inOrder ts) c hc).on.slot

theorem Hand.safe_after_moves_refused :
    let ts : List Token := [⟨.keyword .print, "print"⟩, ⟨.integer 1, "1"⟩, ⟨.statementEnd, ";"⟩, ⟨.bracketOpen, "("⟩,
      ⟨.integer 2, "2"⟩, ⟨.operator "+", "+"⟩, ⟨.statementEnd, ";"⟩, ⟨.keyword .print, "print"⟩, ⟨.integer 3, "3"⟩,
      ⟨.statementEnd, ";"⟩]
    let h := (Hand.start ts).afterAll [.statement, .expression, .next "statement", .putBack]
    let c : Cursor := { taken := 3, slot := ts[2]?, rest := ts.drop 3 }
    Move.putBack.fault? h = some (.refused { cause := .slotTaken, index := 7 }) ∧ h.after .putBack = h ∧
      Move.statement.fault? h = none ∧ (h.after .statement).cursor.unread < h.cursor.unread ∧
      c ∈ (Walk.program : Walk none program).passes (Cursor.start ts) ∧
      (c.slot = none ∨ 0 < c.taken ∧ c.slot = ts[c.taken - 1]?) := by
  intro ts h c
  have hp : Move.putBack.fault? h = some (.refused { cause := .slotTaken, index := 7 }) := by decide +kernel
  have hs : Move.statement.fault? h = none := by decide +kernel
  have hc : c ∈ (Walk.program : Walk none program).passes (Cursor.start ts) := by decide +kernel
  have hsafe := Hand.safe_after_moves ts [.statement, .expression, .next "statement", .putBack]
  refine ⟨hp, (hsafe .putBack).1.rejected rfl ?_, hs, (hsafe .statement).1.progress (.inr rfl) hs, hc, ?_⟩
  · rw [hp]
    exact Option.some_ne_none _
  · exact (hsafe .putBack).2.2.2.2 c hc

end MiniPL
