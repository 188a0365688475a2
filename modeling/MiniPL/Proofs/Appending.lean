import MiniPL.Proofs.Expecting
import MiniPL.Proofs.Joining
import MiniPL.Proofs.Looping
import MiniPL.Proofs.Walking
/-!
# One text after another, and one program after another

Where a text may end the scanner holds nothing, and where a program may end the reader has put nothing back. So what
follows is scanned and read as if it stood alone, and a fault in it is as much later as there is before it.
-/

namespace MiniPL

open Token (Kind)

/-! ## Texts -/

namespace Scanner

/-- A scanner that has read more refuses the same, that much later. -/
theorem scan_error_later {t : Text} {f : Fault} (h : (between 0).scan t = .error f) (n : Nat) :
    (between n).scan t = .error { f with index := f.index + n } := by
  rcases splits_or_stuck t with ⟨ts, hs⟩ | ⟨ts, rest, cause, hs, hst⟩
  · rw [scan_of_splits hs] at h
    cases h
  · rw [scan_of_stuck hs hst] at h
    cases h
    obtain ⟨m, hl, hm⟩ := scan_splits hs n
    rw [hm, scan_stuck hst]
    have hi : m = t.length - rest.length + n := by
      obtain ⟨k, hk, -⟩ := scan_splits hs 0
      omega
    rw [hi]
    rfl

end Scanner

theorem Token.scan_append {a : Text} {ts : List Token} (h : scan a = .ok ts) (b : Text) :
    (∀ us, scan b = .ok us → scan (a ++ '\n' :: b) = .ok (ts ++ us)) ∧
    ∀ f, scan b = .error f → scan (a ++ '\n' :: b) = .error { f with index := f.index + (a.length + 1) } := by
  have hf : scan (a ++ '\n' :: b) = (ts ++ ·) <$> (Scanner.between (a.length + 1)).scan b := by
    have hs : (Scanner.between 0).scan a = .ok ts := h
    have hab := Scanner.scan_feed hs b
    rwa [Scanner.between, Nat.zero_add] at hab
  refine ⟨fun us hb => ?_, fun f hb => ?_⟩
  · rw [hf, Scanner.scan_of_splits (splits_of_scan hb)]
    rfl
  · rw [hf, Scanner.scan_error_later hb]
    rfl

/-! ## Cursors with more before them -/

/-- The cursor with more tokens taken before. -/
def Cursor.later (n : Nat) (c : Cursor) : Cursor := { c with taken := c.taken + n }

namespace Reader

variable {α β : Type} {r : Reader α} {f : α → Reader β} {held : Option Token} {c c' c₁ c₂ : Cursor} {t : Token}
  {ts : List Token}

/-- The fault where more tokens stand before. -/
def Fault.later (n : Nat) : Fault → Fault
  | .refused f => .refused { f with index := f.index + n }
  | .unknownOperator e => .unknownOperator e

/-- The same result where more tokens stand before. -/
def laterBy (n : Nat) : EStateM.Result Fault Cursor α → EStateM.Result Fault Cursor α
  | .ok a c => .ok a (c.later n)
  | .error e c => .error (e.later n) (c.later n)

theorem refuseEnd_later (expected : Text) (n : Nat) (c : Cursor) :
    (refuseEnd expected : Reader α) (c.later n) = laterBy n (refuseEnd expected c) := by
  simp only [refuseEnd, Cursor.later, laterBy, Fault.later, Nat.add_right_comm]

theorem next_later (expected : Text) (n : Nat) (c : Cursor) :
    next expected (c.later n) = laterBy n (next expected c) := by
  obtain ⟨k, slot, rest⟩ := c
  cases slot with
  | some u => rfl
  | none =>
    cases rest with
    | nil => exact refuseEnd_later expected n _
    | cons u rest => simp only [next, Cursor.later, laterBy, Nat.add_right_comm]

theorem refuse_later {cause : Cursor.Cause} (n : Nat) (h : 0 < c.taken) :
    (refuse cause : Reader α) (c.later n) = laterBy n (refuse cause c) := by
  simp only [refuse, Cursor.later, laterBy, Fault.later]
  congr 3
  omega

theorem bind_later {n : Nat} (hr : r (c.later n) = laterBy n (r c))
    (hf : ∀ a c', r c = .ok a c' → f a (c'.later n) = laterBy n (f a c')) :
    (r >>= f) (c.later n) = laterBy n ((r >>= f) c) := by
  cases h : r c with
  | ok a c' =>
    rw [h] at hr
    rw [bind_of_ok hr, bind_of_ok h, hf a c' h]
  | error e c' =>
    rw [h] at hr
    rw [bind_of_error hr, bind_of_error h]
    rfl

theorem Walk.later {holds : Option Token → Cursor → Prop} (hk : Kept holds) (w : Walk held r) (h : holds held c)
    (n : Nat) : r (c.later n) = laterBy n (r c) := by
  induction w generalizing c with
  | pure a => rfl
  | @next held _ expected f _ ih =>
    exact bind_later (next_later expected n c) fun t c' hn => ih t (hk.next h hn)
  | look _ ih => exact ih c.atEnd h
  | count _ ih => exact ih c.unread h
  | @bind _ _ _ r f w _ ih ih' =>
    refine bind_later (ih h) fun a c' hc => ?_
    have hr := w.kept_end hk h
    rw [hc] at hr
    exact ih' a hr
  | putBack t =>
    have ht := hk.taken h
    obtain ⟨k, slot, rest⟩ := c
    cases slot with
    | some u => exact refuse_later n ht
    | none => rfl
  | refuse cause => exact refuse_later n (hk.taken h)
  | refuseEnd expected => exact refuseEnd_later expected n c
  | operator symbol =>
    unfold Reader.operator
    cases Operator.named symbol <;> rfl

/-! ## Readers that put nothing back -/

/-- Where the reader ends, the slot is free. -/
def Clears (r : Reader α) : Prop := ∀ c a c', r c = .ok a c' → c'.slot = none

/-- If the slot is free where the reader begins, it is free where it ends. -/
def ClearsIfFree (r : Reader α) : Prop := ∀ c a c', c.slot = none → r c = .ok a c' → c'.slot = none

theorem Clears.ifFree (h : Clears r) : ClearsIfFree r := fun c a c' _ hr => h c a c' hr

theorem clears_pure (a : α) : ClearsIfFree (pure a) := by
  intro c b c' hc h
  obtain ⟨-, rfl⟩ := pure_ok.1 h
  exact hc

/-- Only the last part of a reader has to clear the slot. -/
theorem clears_after (hf : ∀ a, Clears (f a)) : Clears (r >>= f) := by
  intro c b c' h
  obtain ⟨a, c₁, -, h⟩ := bind_ok.1 h
  exact hf a c₁ b c' h

theorem clears_next {expected : Text} {f : Token → Reader β} (hf : ∀ t, ClearsIfFree (f t)) :
    Clears (next expected >>= f) := by
  intro c b c' h
  obtain ⟨t, c₁, hn, h⟩ := bind_ok.1 h
  exact hf t c₁ b c' (slot_of_next hn) h

theorem slot_of_end (h : expectEnd c = .ok () c') : c'.slot = none := by
  obtain ⟨t, c₁, he, h⟩ := bind_ok.1 h
  obtain ⟨-, rfl⟩ := pure_ok.1 h
  obtain ⟨t, -, hn⟩ := next_of_take he
  exact slot_of_next hn

theorem clears_end (a : α) : Clears (expectEnd >>= fun _ => pure a) := by
  intro c b c' h
  obtain ⟨_, c₁, he, h⟩ := bind_ok.1 h
  obtain ⟨-, rfl⟩ := pure_ok.1 h
  exact slot_of_end he

theorem refuse_clears {cause : Cursor.Cause} : Clears (refuse cause : Reader α) :=
  fun _ _ _ h => absurd h refuse_ok

theorem declaration_clears : Clears declaration := by
  refine clears_after fun x => clears_after fun _ => clears_after fun ty => clears_next fun t => ?_
  cases t.kind with
  | statementEnd => exact clears_pure _
  | assignment => exact (clears_after fun e => clears_end _).ifFree
  | _ => exact refuse_clears.ifFree

/-- A statement ends with a token of its own, so nothing is put back behind it. -/
theorem statement_clears (t : Token) : ClearsIfFree (statement t) := by
  unfold statement statementWith
  cases t.kind with
  | identifier x => exact (clears_after fun _ => clears_after fun e => clears_end _).ifFree
  | statementEnd => exact clears_pure _
  | keyword k =>
    cases k with
    | var => exact declaration_clears.ifFree
    | forWord =>
      refine Clears.ifFree (clears_after fun x => clears_after fun _ => clears_after fun first => ?_)
      refine clears_after fun _ => clears_after fun last => clears_after fun _ => ?_
      exact clears_after fun body => clears_after fun _ => clears_end _
    | read => exact (clears_after fun x => clears_end _).ifFree
    | print => exact (clears_after fun e => clears_end _).ifFree
    | assert =>
      exact (clears_after fun _ => clears_after fun e => clears_after fun _ => clears_end _).ifFree
    | _ => exact refuse_clears.ifFree
  | _ => exact refuse_clears.ifFree

/-! ## Programs -/

/-- A statement that is ahead is read, and nothing is put back behind it. -/
theorem statement_read {s : Stmt} {ks ls : List Kind} (h : s.Spelled ks) (hk : c.kinds = ks ++ ls) (ho : c.On ts) :
    ∃ t c₁ c₂, next "statement" c = .ok t c₁ ∧ statement t c₁ = .ok s c₂ ∧ c₂.kinds = ls ∧ c₂.slot = none ∧
      c₂.On ts := by
  obtain ⟨k, ks, rfl, -⟩ := statement_begins h
  obtain ⟨t, c₁, hn, ht, hk₁, hs₁⟩ := next_free "statement" hk
  obtain ⟨c₂, hr, hk₂⟩ := yields_statementWith (block_reads ks.length) h (Nat.le_refl _) ht c₁ hk₁
  have hr : statement t c₁ = .ok s c₂ := hr
  have ho₂ := (Walk.statement t).kept_end (Cursor.inOrder_kept ts) (ho.next hn)
  rw [hr] at ho₂
  exact ⟨t, c₁, c₂, hn, hr, hk₂, statement_clears t _ _ _ hs₁ hr, ho₂⟩

theorem program_of_statement {s : Stmt} (he : c.atEnd = false) (hn : next "statement" c = .ok t c₁)
    (hs : statement t c₁ = .ok s c₂) : program c = (program >>= fun p => pure (s :: p)) c₂ := by
  have ha : atEnd c = .ok false c := by rw [atEnd, he]
  have hp : program c = programWith program c := congrFun ((eq_program_iff program).2 rfl) c
  exact hp.trans ((bind_of_ok ha).trans ((bind_of_ok hn).trans (bind_of_ok hs)))

/-- Statements that are ahead are read, and then what comes after them. -/
theorem program_append {p : Program} {ks ls : List Kind} (hp : Stmt.BlockSpelled p ks) (hk : c.kinds = ks ++ ls)
    (hs : c.slot = none) (ho : c.On ts) : ∃ c', c'.kinds = ls ∧ c'.slot = none ∧ c'.On ts ∧
      program c = (program >>= fun q => pure (p ++ q)) c' := by
  induction p generalizing c ks with
  | nil =>
    cases hp
    refine ⟨c, hk, hs, ho, ?_⟩
    simp only [List.nil_append, bind_pure]
  | cons s p ih =>
    cases hp with
    | @cons _ _ ms ns hsp hp =>
      rw [List.append_assoc] at hk
      obtain ⟨t, c₁, c₂, hn, hr, hk₂, hs₂, ho₂⟩ := statement_read hsp hk ho
      obtain ⟨c', hk', hs', ho', hc'⟩ := ih hp hk₂ hs₂ ho₂
      refine ⟨c', hk', hs', ho', ?_⟩
      have he : c.atEnd = false := by
        obtain ⟨k, ls, rfl, -⟩ := statement_begins hsp
        rw [Bool.eq_false_iff, Ne, Cursor.atEnd_iff, hk]
        exact List.cons_ne_nil _ _
      rw [program_of_statement he hn hr, bind_of_eq hc']
      simp only [bind_assoc, pure_bind, List.cons_append]

/-- Behind all tokens of the first list, the cursor is where the second list begins. -/
theorem eq_start_later {us : List Token} (ho : c.On (ts ++ us)) (hs : c.slot = none)
    (hk : c.kinds = us.map Token.kind) : c = (Cursor.start us).later ts.length := by
  obtain ⟨k, slot, rest⟩ := c
  obtain ⟨read, hts, hn⟩ := ho
  cases hs
  have hl : rest.length = us.length := by simpa [Cursor.kinds] using congrArg List.length hk
  obtain ⟨rfl, rfl⟩ := List.append_inj' hts hl.symm
  cases hn
  simp [Cursor.start, Cursor.later]

end Reader

namespace Program

theorem ofTokens_error {ts : List Token} {e : Reader.Fault} :
    ofTokens ts = .error e ↔ ∃ c, Reader.program (Cursor.start ts) = .error e c := by
  unfold ofTokens Reader.runOn EStateM.run
  cases Reader.program (Cursor.start ts) <;> simp

theorem ofTokens_append {ts : List Token} {p : Program} (h : ofTokens ts = .ok p) (us : List Token) :
    (∀ q, ofTokens us = .ok q → ofTokens (ts ++ us) = .ok (p ++ q)) ∧
    ∀ e, ofTokens us = .error e → ofTokens (ts ++ us) = .error (e.later ts.length) := by
  have hk : (Cursor.start (ts ++ us)).kinds = ts.map Token.kind ++ us.map Token.kind := by
    rw [kinds_start, List.map_append]
  obtain ⟨c, hk', hs, ho, hc⟩ := Reader.program_append (spelled_of_ofTokens h) hk rfl (Cursor.start_on _)
  obtain rfl := Reader.eq_start_later ho hs hk'
  have hl := Reader.Walk.program.later (Cursor.inOrder_kept us) (Cursor.start_inOrder us) ts.length
  refine ⟨fun q hq => ?_, fun e he => ?_⟩
  · obtain ⟨d, hd⟩ := ofTokens_ok.1 hq
    rw [hd] at hl
    exact ofTokens_ok.2 ⟨_, hc.trans (bind_of_ok hl)⟩
  · obtain ⟨d, hd⟩ := ofTokens_error.1 he
    rw [hd] at hl
    exact ofTokens_error.2 ⟨_, hc.trans (bind_of_error hl)⟩

/-- After a text that has tokens and a line feed, and after tokens that are a program, the same is scanned and read as
without them, and the same is refused with its index moved on by what stands before. -/
theorem read_after :
    (∀ a b ts, Token.scan a = .ok ts →
      (∀ us, Token.scan b = .ok us → Token.scan (a ++ '\n' :: b) = .ok (ts ++ us)) ∧
      ∀ f, Token.scan b = .error f →
        Token.scan (a ++ '\n' :: b) = .error { f with index := f.index + (a.length + 1) }) ∧
    ∀ ts us p, ofTokens ts = .ok p →
      (∀ q, ofTokens us = .ok q → ofTokens (ts ++ us) = .ok (p ++ q)) ∧
      ∀ e, ofTokens us = .error e → ofTokens (ts ++ us) = .error (e.later ts.length) :=
  ⟨fun _ b _ ha => Token.scan_append ha b, fun _ us _ hp => ofTokens_append hp us⟩

theorem read_after_refused :
    let a : Text := "print 1; // one"
    let b : Text := "x := \"1"
    let ts : List Token := [⟨.keyword .print, "print"⟩, ⟨.integer 1, "1"⟩, ⟨.statementEnd, ";"⟩]
    let us : List Token := [⟨.keyword .print, "print"⟩, ⟨.bracketOpen, "("⟩, ⟨.integer 2, "2"⟩, ⟨.statementEnd, ";"⟩]
    let f : Scanner.Fault := { cause := .unterminated .string, index := 5 }
    let e : Cursor.Fault := { cause := .unexpected "')'" ⟨.statementEnd, ";"⟩, index := 3 }
    (Token.scan a = .ok ts ∧ Token.scan b = .error f ∧ Token.scan (a ++ '\n' :: b) = .error { f with index := 21 }) ∧
    ofTokens us = .error (.refused e) ∧ ofTokens (ts ++ us) = .error (.refused { e with index := 6 }) := by
  intro a b ts us f e
  have ha : Token.scan a = .ok ts := by decide +kernel
  have hb : Token.scan b = .error f := by decide +kernel
  have hp : ofTokens ts = .ok [.print (.simple (.literal (.int 1)))] := by decide +kernel
  have he : ofTokens us = .error (.refused e) := by decide +kernel
  exact ⟨⟨ha, hb, (read_after.1 a b ts ha).2 f hb⟩, he, (read_after.2 ts us _ hp).2 _ he⟩

end Program

end MiniPL
