import MiniPL.Program.Printer
import MiniPL.Session
import MiniPL.Proofs.Accepting
import MiniPL.Proofs.Numerals
import MiniPL.Proofs.Scanning
import MiniPL.Proofs.WellFormed
/-!
# A program reads back from its source

The source of a well-formed program is cut into tokens that spell the program: the character after an operand
always ends a word or a number, and no operator has a character after it with which it opens a comment.
-/

namespace MiniPL

open Token (Kind)

/-- The first text is cut into tokens of these kinds, up to where the second begins. -/
def Lexes (t : Text) (ks : List Kind) (rest : Text) : Prop := ∃ ts, Splits t ts rest ∧ ts.map Token.kind = ks

/-- The text begins with a character at which a word or a number is over. -/
def Closes (t : Text) : Prop := ∃ c u, t = c :: u ∧ ¬ Text.isWordChar c

section
variable {a b t rest : Text} {ks ls : List Kind} {k : Kind} {c : Char}

theorem closes_cons (h : ¬ Text.isWordChar c) : Closes (c :: t) := ⟨c, t, rfl, h⟩

theorem closes_space : Closes (' ' :: t) := closes_cons (by decide)

theorem closes_end : Closes (';' :: t) := closes_cons (by decide)

theorem closes_close : Closes (')' :: t) := closes_cons (by decide)

theorem lexes_piece {p : Text} (hp : Piece p t (some k)) (h : Lexes t ks rest) :
    Lexes (p ++ t) (k :: ks) rest := by
  obtain ⟨ts, hs, rfl⟩ := h
  exact ⟨_, .piece hp hs, rfl⟩

theorem lexes_blank (hc : Text.isBlank c) (h : Lexes t ks rest) : Lexes (c :: t) ks rest := by
  obtain ⟨ts, hs, rfl⟩ := h
  exact ⟨_, .piece (.blank hc) hs, rfl⟩

theorem lexes_space (h : Lexes t ks rest) : Lexes (' ' :: t) ks rest := lexes_blank (by decide) h

theorem lexes_indent {indent : Text} (hi : ∀ c ∈ indent, Text.isBlank c) (h : Lexes t ks rest) :
    Lexes (indent ++ t) ks rest := by
  induction indent with
  | nil => exact h
  | cons c indent ih =>
    rw [List.forall_mem_cons] at hi
    exact lexes_blank hi.1 (ih hi.2)

/-! ## Words and operators -/

theorem isWord_word (k : Keyword) : IsWord k.word := by
  cases k with
  | type ty => cases ty <;> decide
  | _ => decide

theorem isWord_boolWord (b : Bool) : IsWord (Value.boolWord b) := by
  cases b <;> decide

theorem lexes_word {w : Text} (hw : IsWord w) (hk : WordIs w k) (hc : Closes t) (h : Lexes t ks rest) :
    Lexes (w ++ t) (k :: ks) rest := by
  obtain ⟨c, u, rfl, hc⟩ := hc
  exact lexes_piece (.word hw hc hk) h

theorem lexes_keyword (k : Keyword) (hc : Closes t) (h : Lexes t ks rest) :
    Lexes (k.word ++ t) (.keyword k :: ks) rest :=
  lexes_word (isWord_word k) (.keyword k) hc h

theorem lexes_keyword_space (k : Keyword) (h : Lexes t ks rest) :
    Lexes (k.word ++ ' ' :: t) (.keyword k :: ks) rest :=
  lexes_keyword k closes_space (lexes_space h)

theorem lexes_name {x : Text} (hx : IsName x) (hc : Closes t) (h : Lexes t ks rest) :
    Lexes (x ++ t) (.identifier x :: ks) rest :=
  lexes_word hx.1 (.name hx.2.1 hx.2.2) hc h

theorem lexes_name_space {x : Text} (hx : IsName x) (h : Lexes t ks rest) :
    Lexes (x ++ ' ' :: t) (.identifier x :: ks) rest :=
  lexes_name hx closes_space (lexes_space h)

/-- An operator opens no comment with the character after it. -/
theorem lexes_operator (op : Operator) (hl : c ≠ '/') (hb : c ≠ '*') (h : Lexes (c :: t) ks rest) :
    Lexes (op.symbol ++ c :: t) (.operator op.symbol :: ks) rest := by
  by_cases ho : op = .div
  · subst ho
    exact lexes_piece (.slash hl hb) h
  · exact lexes_piece (.operator ho) h

/-! ## Marks -/

theorem lexes_end (h : Lexes t ks rest) : Lexes (';' :: t) (.statementEnd :: ks) rest :=
  lexes_piece .statementEnd h

theorem lexes_open (h : Lexes t ks rest) : Lexes ('(' :: t) (.bracketOpen :: ks) rest := lexes_piece .bracketOpen h

theorem lexes_close (h : Lexes t ks rest) : Lexes (')' :: t) (.bracketClose :: ks) rest :=
  lexes_piece .bracketClose h

theorem lexes_assignment (h : Lexes t ks rest) : Lexes (':' :: '=' :: t) (.assignment :: ks) rest :=
  lexes_piece .assignment h

theorem lexes_range (h : Lexes t ks rest) : Lexes ('.' :: '.' :: t) (.range :: ks) rest := lexes_piece .range h

theorem lexes_typeMark (h : Lexes t ks rest) : Lexes (':' :: ' ' :: t) (.typeMark :: ks) rest :=
  lexes_piece (.typeMark (by decide)) (lexes_space h)

/-! ## Literals -/

theorem lexes_decimal {ds : Text} {n : Nat} (hd : Decimal ds n) (hn : (n : Int) ≤ Value.maxInt) (hc : Closes t)
    (h : Lexes t ks rest) : Lexes (ds ++ t) (.integer n :: ks) rest := by
  obtain ⟨c, u, rfl, hc⟩ := hc
  have hv : Text.toNat ds = n := hd.toNat
  subst hv
  exact lexes_piece (.integer hd.isNumber hn fun h => hc (isWordChar_of_isDigit h)) h

/-- An escaped text denotes itself. -/
theorem denotes_escape (s : Text) : Denotes (s.flatMap Value.escape) s := by
  induction s with
  | nil => exact .nil
  | cons c s ih =>
    rw [List.flatMap_cons]
    unfold Value.escape
    split
    · exact .backslash ih
    · exact .quote ih
    · exact .feed ih
    · next hb hq _ => exact .plain hq hb ih

theorem lexes_string (s : Text) (h : Lexes t ks rest) :
    Lexes ((Value.string s).literal ++ t) (.string s :: ks) rest :=
  lexes_piece (.string (denotes_escape s)) h
end

/-! ## Expressions -/

/-- No well-formed operand makes a comment of a division sign before it. -/
theorem Operand.source_begins {a : Operand} (h : Writable a.names a.integers) :
    ∃ c t, a.source = c :: t ∧ c ≠ '/' ∧ c ≠ '*' := by
  have hw : ∀ {w : Text}, w ≠ [] → (∀ c ∈ w, Text.isWordChar c) → ∃ c t, w = c :: t ∧ c ≠ '/' ∧ c ≠ '*' := by
    intro w hn hw
    obtain ⟨c, t, rfl⟩ := List.exists_cons_of_ne_nil hn
    have hc := hw c List.mem_cons_self
    refine ⟨c, t, rfl, ?_, ?_⟩ <;> rintro rfl <;> revert hc <;> decide
  cases a with
  | literal v =>
    cases v with
    | int n =>
      obtain ⟨m, rfl⟩ := Int.eq_ofNat_of_zero_le (writable_integer.1 h).1
      exact hw Nat.toDigits_ne_nil fun c hc => isWordChar_of_isDigit (isDigit_of_mem_toDigits hc)
    | string s => exact ⟨'"', _, rfl, by decide, by decide⟩
    | bool b => exact hw (isWord_boolWord b).1 (isWord_boolWord b).2.1
  | «variable» x =>
    have hx := (writable_name.1 h).1.1
    exact hw hx.1 hx.2.1
  | group e => exact ⟨'(', _, rfl, by decide, by decide⟩

mutual

theorem Expr.source_lexes {e : Expr} (h : Writable e.names e.integers) {t rest : Text} {ls : List Kind}
    (ht : Closes t) (hl : Lexes t ls rest) : Lexes (e.source ++ t) (e.kinds ++ ls) rest := by
  cases e with
  | simple a => exact Operand.source_lexes (a := a) h ht hl
  | unary op a =>
    have ha := Operand.source_lexes (a := a) h ht hl
    obtain ⟨c, u, hu, hc, hb⟩ := Operand.source_begins (a := a) h
    rw [hu] at ha
    rw [Expr.source, List.append_assoc, hu]
    exact lexes_operator op hc hb ha
  | binary a op b =>
    obtain ⟨ha, hb⟩ := writable_append.1 h
    simp only [Expr.source, Expr.kinds, List.append_assoc]
    refine Operand.source_lexes ha closes_space (lexes_space ?_)
    exact lexes_operator op (by decide) (by decide) (lexes_space (Operand.source_lexes hb ht hl))

theorem Operand.source_lexes {a : Operand} (h : Writable a.names a.integers) {t rest : Text} {ls : List Kind}
    (ht : Closes t) (hl : Lexes t ls rest) : Lexes (a.source ++ t) (a.kinds ++ ls) rest := by
  cases a with
  | literal v =>
    cases v with
    | int n =>
      obtain ⟨m, rfl⟩ := Int.eq_ofNat_of_zero_le (writable_integer.1 h).1
      exact lexes_decimal (decimal_toDigits m) (writable_integer.1 h).2 ht hl
    | string s => exact lexes_string s hl
    | bool b => exact lexes_word (isWord_boolWord b) (.boolean b) ht hl
  | «variable» x => exact lexes_name (writable_name.1 h).1 ht hl
  | group e =>
    simp only [Operand.source, Operand.kinds, List.append_assoc, List.cons_append]
    refine lexes_open ?_
    exact Expr.source_lexes h closes_close (lexes_close hl)

end

/-! ## Statements -/

mutual

theorem Stmt.source_lexes {s : Stmt} (h : Writable s.names s.integers) {indent t rest : Text} {ls : List Kind}
    (hi : ∀ c ∈ indent, Text.isBlank c) (hl : Lexes t ls rest) :
    Lexes (s.source indent ++ t) (s.kinds ++ ls) rest := by
  -- In every case the tokens are taken off the source one by one, from the indentation to the semicolon.
  cases s with
  | declare x ty e =>
    cases e with
    | none =>
      simp only [Stmt.source, List.append_assoc]
      refine lexes_indent hi (lexes_keyword_space .var ?_)
      refine lexes_name_space (writable_name.1 h).1 (lexes_typeMark ?_)
      exact lexes_keyword (.type ty) closes_end (lexes_end hl)
    | some e =>
      obtain ⟨hx, he⟩ := writable_name.1 h
      simp only [Stmt.source, Stmt.kinds, List.append_assoc, List.cons_append]
      refine lexes_indent hi (lexes_keyword_space .var ?_)
      refine lexes_name_space hx (lexes_typeMark ?_)
      refine lexes_keyword_space (.type ty) (lexes_assignment (lexes_space ?_))
      exact Expr.source_lexes he closes_end (lexes_end hl)
  | assign x e =>
    obtain ⟨hx, he⟩ := writable_name.1 h
    simp only [Stmt.source, Stmt.kinds, List.append_assoc, List.cons_append]
    refine lexes_indent hi (lexes_name_space hx (lexes_assignment (lexes_space ?_)))
    exact Expr.source_lexes he closes_end (lexes_end hl)
  | loop x a b body =>
    obtain ⟨hx, h⟩ := writable_name.1 h
    obtain ⟨ha, h⟩ := writable_append.1 h
    obtain ⟨hb, h⟩ := writable_append.1 h
    have hn : ∀ c ∈ indent ++ ("    " : Text), Text.isBlank c :=
      List.forall_mem_append.2 ⟨hi, List.all_eq_true.1 (by decide)⟩
    simp only [Stmt.source, Stmt.kinds, List.append_assoc, List.cons_append]
    refine lexes_indent hi (lexes_keyword_space .forWord ?_)
    refine lexes_name_space hx (lexes_keyword_space .inWord ?_)
    -- The range sign is glued to both bounds; a dot ends a number and a word.
    refine Expr.source_lexes ha (closes_cons (by decide)) (lexes_range ?_)
    refine Expr.source_lexes hb closes_space (lexes_space ?_)
    refine lexes_keyword .doWord (closes_cons (by decide)) (lexes_blank (by decide) ?_)
    refine Stmt.blockSource_lexes h hn (lexes_indent hi ?_)
    refine lexes_keyword_space .endWord ?_
    exact lexes_keyword .forWord closes_end (lexes_end hl)
  | read x =>
    simp only [Stmt.source, List.append_assoc]
    refine lexes_indent hi (lexes_keyword_space .read ?_)
    exact lexes_name (writable_name.1 h).1 closes_end (lexes_end hl)
  | print e =>
    simp only [Stmt.source, Stmt.kinds, List.append_assoc, List.cons_append]
    refine lexes_indent hi (lexes_keyword_space .print ?_)
    exact Expr.source_lexes h closes_end (lexes_end hl)
  | assert e =>
    simp only [Stmt.source, Stmt.kinds, List.append_assoc, List.cons_append]
    refine lexes_indent hi (lexes_keyword_space .assert (lexes_open ?_))
    exact Expr.source_lexes h closes_close (lexes_close (lexes_end hl))
  | empty =>
    simp only [Stmt.source, List.append_assoc]
    exact lexes_indent hi (lexes_end hl)

theorem Stmt.blockSource_lexes {body : List Stmt} (h : Writable (Stmt.blockNames body) (Stmt.blockIntegers body))
    {indent t rest : Text} {ls : List Kind} (hi : ∀ c ∈ indent, Text.isBlank c) (hl : Lexes t ls rest) :
    Lexes (Stmt.blockSource indent body ++ t) (Stmt.blockKinds body ++ ls) rest := by
  cases body with
  | nil => exact hl
  | cons s body =>
    obtain ⟨hs, hb⟩ := writable_append.1 h
    simp only [Stmt.blockSource, Stmt.blockKinds, List.append_assoc]
    exact Stmt.source_lexes hs hi (lexes_blank (by decide) (Stmt.blockSource_lexes hb hi hl))

end

/-! ## Programs -/

namespace Program

/-- The source of a well-formed program is cut into tokens that spell it. -/
theorem source_splits {p : Program} (h : p.WellFormed) : ∃ ts, Splits p.source ts [] ∧ p.Spelled ts := by
  have hi : ∀ c ∈ ([] : Text), Text.isBlank c := by simp
  have hl : Lexes [] [] [] := ⟨[], .done, rfl⟩
  obtain ⟨ts, hs, hk⟩ := Stmt.blockSource_lexes h hi hl
  rw [List.append_nil] at hs hk
  exact ⟨ts, hs, show Stmt.BlockSpelled p _ from hk ▸ Stmt.blockSpelled p⟩

theorem ofText_eq {code : Text} {ts : List Token} (h : Token.ofText code = .ok ts) : ofText code = ofScanned ts := by
  unfold ofText
  rw [h]
  rfl

/-- A text is a program if it is cut into tokens that spell the program. -/
theorem ofText_ok {code : Text} {p : Program} : ofText code = .ok p ↔ ∃ ts, Splits code ts [] ∧ p.Spelled ts := by
  constructor
  · intro h
    cases ht : Token.ofText code with
    | error f =>
      unfold ofText at h
      rw [ht] at h
      cases h
    | ok ts =>
      rw [ofText_eq ht] at h
      exact ⟨ts, Scanner.splits_of_scan (mapError_ok.1 ht), spelled_of_ofTokens (mapError_ok.1 h)⟩
  · rintro ⟨ts, hs, hp⟩
    rw [ofText_eq (mapError_ok.2 (Scanner.scan_of_splits hs 0))]
    exact mapError_ok.2 (ofTokens_of_spelled hp)

/-- A program reads back from its source exactly if it is well-formed, and every program that is read from any
text is. -/
theorem ofText_source_iff (p : Program) : (ofText p.source = .ok p ↔ p.WellFormed) ∧
    ∀ code, ofText code = .ok p → p.WellFormed ∧ ofText p.source = .ok p := by
  have hw : ∀ code, ofText code = .ok p → p.WellFormed := by
    intro code h
    obtain ⟨ts, hs, hp⟩ := ofText_ok.1 h
    exact wellFormed_of_spelled hp hs
  have hr : p.WellFormed → ofText p.source = .ok p := fun h => ofText_ok.2 (source_splits h)
  exact ⟨⟨hw p.source, hr⟩, fun code h => ⟨hw code h, hr (hw code h)⟩⟩

/-- A division sign right before its operand, an escaped string and a bound in parentheses. -/
theorem ofText_loop :
    let p : Program := [.loop "i" (.simple (.literal (.int 1))) (.simple (.group (.simple (.variable "n"))))
      [.print (.unary .div (.literal (.string "\"\\\n")))]]
    ofText "for i in 1..(n) do print /\"\\\"\\\\\\n\"; end for; // done" = .ok p ∧ p.WellFormed ∧
      ofText p.source = .ok p := by
  intro p
  have h : ofText "for i in 1..(n) do print /\"\\\"\\\\\\n\"; end for; // done" = .ok p := by decide +kernel
  exact ⟨h, (ofText_source_iff p).2 _ h⟩

end Program

end MiniPL
