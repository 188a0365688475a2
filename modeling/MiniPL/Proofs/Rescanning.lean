import MiniPL.Proofs.Accepting
import MiniPL.Proofs.Scanning
/-!
# Tokens scan back from their source

The line that `Token.source` writes for the tokens of a text is cut into the same tokens again: whatever the line
puts after a lexeme ends it (`piece_before_gap`). Nothing is put after the last one, so the line reads back exactly
if that lexeme is over by itself (`Token.Kind.Closed`).
-/

namespace MiniPL

open Scanner (Cause)

namespace Token

/-- A lexeme of the kind is over with its last character, whatever follows. -/
def Kind.Closed : Kind → Prop
  | .string _ => True
  | .bracketOpen => True
  | .bracketClose => True
  | .assignment => True
  | .range => True
  | .statementEnd => True
  | .operator symbol => symbol ≠ Operator.div.symbol
  | _ => False

/-- What the end of a text cuts off if it comes right after a lexeme of the kind. -/
def Kind.cutOff? : Kind → Option Cause
  | .keyword _ => some (.unterminated .word)
  | .identifier _ => some (.unterminated .word)
  | .boolean _ => some (.unterminated .word)
  | .integer _ => some (.unterminated .integer)
  | .typeMark => some (.endAfter .colon)
  | .dot => some (.endAfter .dot)
  | .operator symbol => if symbol = Operator.div.symbol then some (.endAfter .slash) else none
  | _ => none

/-- The lexeme stands for the kind somewhere in a text. -/
def IsLexeme (t : Token) : Prop := ∃ rest, Piece t.lexeme rest (some t.kind)

theorem cutOff?_eq_none_iff {kind : Kind} : kind.cutOff? = none ↔ kind.Closed := by
  cases kind <;> simp [Kind.cutOff?, Kind.Closed]

end Token

open Token (Kind IsLexeme gap sourceAfter)

/-! ## What ends a lexeme -/

/-- The characters that a line of source puts after lexemes. -/
def Separates (c : Char) : Prop := c = ' ' ∨ c = ';' ∨ c = ')'

section
variable {p rest u : Text} {kind : Kind} {c : Char} {s t : Token} {ts : List Token}

theorem piece_before_separator (h : Piece p rest (some kind)) (hc : Separates c) : Piece p (c :: u) (some kind) := by
  have hw : ¬ Text.isWordChar c := by rcases hc with rfl | rfl | rfl <;> decide
  have hm : c ≠ '=' ∧ c ≠ '.' ∧ c ≠ '/' ∧ c ≠ '*' := by rcases hc with rfl | rfl | rfl <;> decide
  obtain ⟨he, hd, hl, hb⟩ := hm
  cases h with
  | integer hn hv _ => exact .integer hn hv fun h => hw (isWordChar_of_isDigit h)
  | word hp _ hk => exact .word hp hw hk
  | string hb => exact .string hb
  | assignment => exact .assignment
  | range => exact .range
  | typeMark _ => exact .typeMark he
  | dot _ => exact .dot hd
  | slash _ _ => exact .slash hl hb
  | bracketOpen => exact .bracketOpen
  | bracketClose => exact .bracketClose
  | statementEnd => exact .statementEnd
  | operator ho => exact .operator ho

/-- A closed lexeme is a piece before anything, and an open one is stuck at the end of a text. -/
theorem piece_closed_or_stuck (h : Piece p rest (some kind)) :
    (kind.Closed ∧ ∀ u, Piece p u (some kind)) ∨ ∃ cause, kind.cutOff? = some cause ∧ Stuck p cause := by
  cases h with
  | integer hn _ _ => exact .inr ⟨_, rfl, .integer hn⟩
  | word hw _ hk => exact .inr ⟨.unterminated .word, by cases hk <;> rfl, .word hw⟩
  | string hb => exact .inl ⟨trivial, fun _ => .string hb⟩
  | assignment => exact .inl ⟨trivial, fun _ => .assignment⟩
  | range => exact .inl ⟨trivial, fun _ => .range⟩
  | typeMark _ => exact .inr ⟨_, rfl, .lead .colon⟩
  | dot _ => exact .inr ⟨_, rfl, .lead .dot⟩
  | slash _ _ => exact .inr ⟨_, rfl, .lead .slash⟩
  | bracketOpen => exact .inl ⟨trivial, fun _ => .bracketOpen⟩
  | bracketClose => exact .inl ⟨trivial, fun _ => .bracketClose⟩
  | statementEnd => exact .inl ⟨trivial, fun _ => .statementEnd⟩
  | operator ho => exact .inl ⟨fun he => ho (Operator.symbol_inj he), fun _ => .operator ho⟩

theorem piece_of_closed (h : Piece p rest (some kind)) (hk : kind.Closed) (u : Text) : Piece p u (some kind) := by
  rcases piece_closed_or_stuck h with ⟨-, hp⟩ | ⟨cause, hc, -⟩
  · exact hp u
  · rw [Token.cutOff?_eq_none_iff.2 hk] at hc
    cases hc

theorem stuck_of_open (h : Piece p rest (some kind)) (hk : ¬ kind.Closed) :
    ∃ cause, kind.cutOff? = some cause ∧ Stuck p cause := by
  rcases piece_closed_or_stuck h with ⟨hc, -⟩ | hs
  · exact absurd hc hk
  · exact hs

theorem eq_of_statementEnd (h : Piece p rest (some .statementEnd)) : p = [';'] := by
  cases h with
  | word _ _ hk => cases hk
  | statementEnd => rfl

theorem eq_of_bracketClose (h : Piece p rest (some .bracketClose)) : p = [')'] := by
  cases h with
  | word _ _ hk => cases hk
  | bracketClose => rfl

/-! ## A line of source -/

/-- What the line puts between two lexemes, with the second one, ends the first. -/
theorem piece_before_gap (hs : IsLexeme s) (ht : IsLexeme t) (u : Text) :
    Piece s.lexeme (gap s t ++ (t.lexeme ++ u)) (some s.kind) := by
  obtain ⟨_, hs⟩ := hs
  obtain ⟨_, ht⟩ := ht
  unfold gap
  split
  · next hg =>
    rw [List.nil_append]
    rcases hg with hk | hk | hk
    · rw [hk] at ht
      rw [eq_of_statementEnd ht]
      exact piece_before_separator hs (.inr (.inl rfl))
    · rw [hk] at ht
      rw [eq_of_bracketClose ht]
      exact piece_before_separator hs (.inr (.inr rfl))
    · exact piece_of_closed hs (by rw [hk]; trivial) _
  · exact piece_before_separator hs (.inl rfl)

theorem splits_gap (s t : Token) (u : Text) : Splits (gap s t ++ u) [] u := by
  unfold gap
  split
  · exact .done
  · exact .piece (.blank (by decide)) .done

theorem splits_lexeme (hs : IsLexeme s) (ht : IsLexeme t) (h : Splits (t.lexeme ++ u) ts rest) :
    Splits (s.lexeme ++ (gap s t ++ (t.lexeme ++ u))) (s :: ts) rest :=
  .piece (piece_before_gap hs ht u) ((splits_gap s t _).append h)

theorem splits_sourceAfter (hs : ∀ t ∈ s :: ts, IsLexeme t) (ht : IsLexeme t) (u : Text) :
    Splits (s.lexeme ++ (sourceAfter s (ts ++ [t]) ++ u)) (s :: ts) (t.lexeme ++ u) := by
  induction ts generalizing s with
  | nil =>
    obtain ⟨hs, -⟩ := List.forall_mem_cons.1 hs
    simp only [List.nil_append, sourceAfter, List.append_nil, List.append_assoc]
    exact splits_lexeme hs ht .done
  | cons r ts ih =>
    obtain ⟨hs, hr⟩ := List.forall_mem_cons.1 hs
    simp only [List.cons_append, sourceAfter, List.append_assoc]
    exact splits_lexeme hs (hr r List.mem_cons_self) (ih hr)

/-- The line is cut into its tokens up to the last one, whatever follows the line. -/
theorem splits_source (hs : ∀ s ∈ ts, IsLexeme s) (ht : IsLexeme t) (u : Text) :
    Splits (Token.source (ts ++ [t]) ++ u) ts (t.lexeme ++ u) := by
  cases ts with
  | nil =>
    simp only [List.nil_append, Token.source, sourceAfter, List.append_nil]
    exact .done
  | cons s ts =>
    simp only [List.cons_append, Token.source, List.append_assoc]
    exact splits_sourceAfter hs ht u

theorem isLexeme_of_splits {code : Text} (h : Splits code ts rest) : ∀ t ∈ ts, IsLexeme t := by
  induction h with
  | done => simp
  | @piece p t kind ts rest hp _ ih =>
    cases kind with
    | none => simpa using ih
    | some kind => simpa using ⟨⟨_, hp⟩, by simpa using ih⟩
end

/-- What spells a statement ends with its semicolon. -/
theorem Stmt.Spelled.getLast? {s : Stmt} {ks : List Kind} (h : s.Spelled ks) : ks.getLast? = some .statementEnd := by
  cases h <;> simp [List.getLast?_cons, List.getLast?_append]

/-- What spells statements is nothing, or it ends with a semicolon. -/
theorem Stmt.BlockSpelled.eq_of_getLast? {body : List Stmt} {ks : List Kind} {k : Kind}
    (h : Stmt.BlockSpelled body ks) (hk : ks.getLast? = some k) : k = .statementEnd := by
  cases body with
  | nil => cases h; cases hk
  | cons s body =>
    cases h with
    | @cons _ _ ks ls hs hb =>
      rw [List.getLast?_append, hs.getLast?] at hk
      cases hl : ls.getLast? with
      | none => rw [hl] at hk; exact (Option.some.inj hk).symm
      | some l => rw [hl] at hk; cases hk; exact hb.eq_of_getLast? hl

namespace Token

section
variable {ts : List Token} {t : Token} (hs : ∀ s ∈ ts, IsLexeme s) (ht : IsLexeme t)
include hs ht

theorem scan_source_space : scan (source (ts ++ [t]) ++ " ") = .ok (ts ++ [t]) := by
  have ⟨_, hp⟩ := ht
  have hb : Splits (t.lexeme ++ " ") [t] [] :=
    .piece (piece_before_separator hp (.inl rfl)) (.piece (.blank (by decide)) .done)
  exact Scanner.scan_of_splits ((splits_source hs ht " ").append hb) 0

theorem scan_source_closed (hc : t.kind.Closed) : scan (source (ts ++ [t])) = .ok (ts ++ [t]) := by
  have hsp := splits_source hs ht []
  rw [List.append_nil] at hsp
  obtain ⟨_, hp⟩ := ht
  exact Scanner.scan_of_splits (hsp.append (.piece (piece_of_closed hp hc []) .done)) 0

theorem scan_source_open (hc : ¬ t.kind.Closed) : ∃ cause, t.kind.cutOff? = some cause ∧
    scan (source (ts ++ [t])) = .error { cause, index := (source (ts ++ [t])).length - t.lexeme.length } := by
  have hsp := splits_source hs ht []
  rw [List.append_nil, List.append_nil] at hsp
  obtain ⟨_, hp⟩ := ht
  obtain ⟨cause, hk, hst⟩ := stuck_of_open hp hc
  exact ⟨cause, hk, Scanner.scan_of_stuck hsp hst⟩
end

/-- The tokens of a text are scanned from their line of source again if a space is put after it. Without the space
they are exactly if there are none or the lexeme of the last is closed, as it is wherever the tokens are a program;
otherwise the line is refused for its end, at the place where that lexeme begins. -/
theorem scan_source {code : Text} {ts : List Token} (h : scan code = .ok ts) :
    scan (source ts ++ " ") = .ok ts ∧
    (scan (source ts) = .ok ts ↔ ∀ t ∈ ts.getLast?, t.kind.Closed) ∧
    (∀ t ∈ ts.getLast?, ¬ t.kind.Closed → ∃ cause, t.kind.cutOff? = some cause ∧
      scan (source ts) = .error { cause, index := (source ts).length - t.lexeme.length }) ∧
    ∀ p, Program.ofTokens ts = .ok p → scan (source ts) = .ok ts := by
  have hl := isLexeme_of_splits (splits_of_scan h)
  rcases List.eq_nil_or_concat ts with rfl | ⟨ts, t, rfl⟩
  · exact ⟨rfl, ⟨by simp, fun _ => rfl⟩, by simp, fun _ _ => rfl⟩
  · rw [List.concat_eq_append] at hl ⊢
    obtain ⟨hs, ht⟩ := List.forall_mem_append.1 hl
    have ht : IsLexeme t := ht t List.mem_cons_self
    rw [List.getLast?_concat]
    simp only [Option.mem_def, Option.some.injEq, forall_eq']
    have hiff : scan (source (ts ++ [t])) = .ok (ts ++ [t]) ↔ t.kind.Closed := by
      refine ⟨fun hk => Classical.byContradiction fun hc => ?_, scan_source_closed hs ht⟩
      obtain ⟨cause, -, he⟩ := scan_source_open hs ht hc
      rw [hk] at he
      cases he
    refine ⟨scan_source_space hs ht, hiff, scan_source_open hs ht, fun p hp => hiff.2 ?_⟩
    -- A program ends with a semicolon, which is closed.
    have hsp := Program.spelled_of_ofTokens hp
    have hk : t.kind = .statementEnd := hsp.eq_of_getLast? (by simp)
    rw [hk]
    trivial

/-- A colon, a bracket and a slash at the end, with a comment after it. -/
theorem scan_source_slash :
    let code : Text := "x :( \"\\n;\" ..7)/ // y"
    let ts : List Token := [⟨.identifier "x", "x"⟩, ⟨.typeMark, ":"⟩, ⟨.bracketOpen, "("⟩, ⟨.string "\n;", "\"\\n;\""⟩,
      ⟨.range, ".."⟩, ⟨.integer 7, "7"⟩, ⟨.bracketClose, ")"⟩, ⟨.operator "/", "/"⟩]
    scan code = .ok ts ∧ source ts = "x : (\"\\n;\" .. 7) /" ∧ scan (source ts ++ " ") = .ok ts ∧
      scan (source ts) = .error { cause := .endAfter .slash, index := 17 } := by
  intro code ts
  have h : scan code = .ok ts := by decide +kernel
  obtain ⟨hb, -, he, -⟩ := scan_source h
  obtain ⟨cause, hc, he⟩ := he ⟨.operator "/", "/"⟩ rfl (by simp [Kind.Closed, Operator.symbol, Operator.char])
  cases hc
  have hi : (source ts).length - ("/" : Text).length = 17 := by decide
  exact ⟨h, by decide, hb, hi ▸ he⟩

end Token

end MiniPL
