import MiniPL.Proofs.Pieces
/-!
# The scanner cuts a text into its pieces

`scan_piece` follows the scanner through one piece and `scan_stuck` through a text that begins with none;
everything about whole texts comes from the two.
-/

namespace MiniPL

namespace Scanner

/-- A scanner between two tokens. -/
def between (position : Nat) : Scanner := { mode := .idle, start := position, position }

/-! ## One step -/

section
variable {s s' : Scanner} {c : Char} {ts : List Token} (t : Text)

theorem scan_emitted (h : s.step c = { next := s', emitted := ts, fault := none }) :
    s.scan (c :: t) = (ts ++ ·) <$> s'.scan t := by
  simp only [scan, h]

theorem scan_silent (h : s.step c = { next := s', emitted := [], fault := none }) :
    s.scan (c :: t) = s'.scan t := by
  rw [scan_emitted t h]
  cases s'.scan t <;> rfl

theorem scan_failed {f : Fault} (h : (s.step c).fault = some f) : s.scan (c :: t) = .error f := by
  simp only [scan, h]

/-- A token that ends before a character leaves the scanner between two tokens. -/
theorem scan_completeBefore {kind : Token.Kind} {lexeme : Text} (h : s.step c = s.completeBefore c kind lexeme) :
    s.scan (c :: t) = ({ kind, lexeme } :: ·) <$> (between s.position).scan (c :: t) := by
  -- The character is read again, now as the first one of something new.
  have hb : (between s.position).step c = s.begin c := rfl
  simp only [scan, h, hb, completeBefore]
  cases (s.begin c).fault with
  | some f => rfl
  | none => cases (s.begin c).next.scan t <;> rfl
end

/-- Between two tokens it does not matter where the last one began. -/
theorem scan_idle (start position : Nat) (t : Text) :
    scan ⟨.idle, start, position⟩ t = (between position).scan t := by
  cases t <;> rfl

theorem scan_skipped {s : Scanner} {c : Char} {n : Nat} (t : Text) (h : s.step c = s.enter .idle)
    (hn : n = s.position + 1) : s.scan (c :: t) = ([] ++ ·) <$> (between n).scan t := by
  subst hn
  rw [scan_emitted t h]
  exact congrArg _ (scan_idle _ _ t)

theorem scan_completed {s : Scanner} {c : Char} {kind : Token.Kind} {lexeme : Text} {n : Nat} (t : Text)
    (h : s.step c = s.complete kind lexeme) (hn : n = s.position + 1) :
    s.scan (c :: t) = ([{ kind, lexeme }] ++ ·) <$> (between n).scan t := by
  subst hn
  rw [scan_emitted t h]
  exact congrArg _ (scan_idle _ _ t)

/-! ## Runs -/

theorem scan_run {mode : Text → Mode} {p : Char → Bool} (hm : ∀ acc start position c, p c →
    step ⟨mode acc, start, position⟩ c = enter ⟨mode acc, start, position⟩ (mode (c :: acc)))
    {w : Text} (h : ∀ c ∈ w, p c) (acc : Text) (start position : Nat) (t : Text) :
    scan ⟨mode acc, start, position⟩ (w ++ t) = scan ⟨mode (w.reverse ++ acc), start, position + w.length⟩ t := by
  induction w generalizing acc position with
  | nil => rfl
  | cons c w ih =>
    simp only [List.mem_cons, forall_eq_or_imp] at h
    rw [List.cons_append, scan_silent _ (hm acc start position c h.1), ih h.2]
    simp [Nat.add_assoc, Nat.add_comm 1]

theorem scan_digits {ds : Text} (h : ∀ d ∈ ds, Text.isDigit d) (acc : Text) (start position : Nat) (t : Text) :
    scan ⟨.integer acc, start, position⟩ (ds ++ t) =
      scan ⟨.integer (ds.reverse ++ acc), start, position + ds.length⟩ t :=
  scan_run (fun _ _ _ _ hc => by simp [step, hc]) h acc start position t

theorem scan_letters {w : Text} (h : ∀ c ∈ w, Text.isWordChar c) (acc : Text) (start position : Nat) (t : Text) :
    scan ⟨.word acc, start, position⟩ (w ++ t) = scan ⟨.word (w.reverse ++ acc), start, position + w.length⟩ t :=
  scan_run (fun _ _ _ _ hc => by simp [step, hc]) h acc start position t

theorem scan_remark {body : Text} (h : '\n' ∉ body) (start position : Nat) (t : Text) :
    scan ⟨.lineComment, start, position⟩ (body ++ t) = scan ⟨.lineComment, start, position + body.length⟩ t := by
  refine @scan_run (fun _ => .lineComment) (· ≠ '\n') ?_ _ ?_ [] start position t
  · intro _ _ _ c hc
    simp [step, show c ≠ '\n' by simpa using hc]
  · intro c hc
    simpa using fun e : c = '\n' => h (e ▸ hc)

theorem scan_body {body value : Text} (h : Denotes body value) (b v : Text) (start position : Nat) (t : Text) :
    scan ⟨.string b v, start, position⟩ (body ++ t) =
      scan ⟨.string (body.reverse ++ b) (value.reverse ++ v), start, position + body.length⟩ t := by
  -- A backslash and the character after it take two steps, whatever the pair stands for.
  have pair : ∀ (c : Char) (body b v : Text) (position : Nat),
      scan ⟨.string b v, start, position⟩ ('\\' :: c :: body) =
        scan ⟨.string (c :: '\\' :: b) ((unescape c).reverse ++ v), start, position + 2⟩ body :=
    fun c body b v position => (scan_silent _ rfl).trans (scan_silent _ rfl)
  induction h generalizing b v position with
  | nil => rfl
  | @plain c body value h1 h2 _ ih =>
    have hs : step ⟨.string b v, start, position⟩ c =
        enter ⟨.string b v, start, position⟩ (.string (c :: b) (c :: v)) := by
      simp [step, h1, h2]
    rw [List.cons_append, scan_silent _ hs, ih]
    simp [Nat.add_assoc, Nat.add_comm 1]
  | quote _ ih | backslash _ ih | feed _ ih | pair _ _ _ _ ih =>
    rw [List.cons_append, List.cons_append, pair, ih]
    simp_all [unescape, Nat.add_assoc, Nat.add_comm 2]

/-- In a block comment, whether the last character was a star or not. -/
def comment (star : Bool) : Mode := if star then .blockCommentStar else .blockComment

/-- A comment goes on as long as no `*/` ends it, where a star may have been read already. -/
theorem scan_comment {body : Text} (star : Bool) (h : ¬ ['*', '/'] <:+: if star then '*' :: body else body)
    (start position : Nat) (t : Text) :
    ∃ star', scan ⟨comment star, start, position⟩ (body ++ t) =
      scan ⟨comment star', start, position + body.length⟩ t := by
  induction body generalizing star position with
  | nil => exact ⟨star, rfl⟩
  | cons c body ih =>
    -- After a star, a slash would have closed the comment.
    have hc : star = true → c ≠ '/' := by
      rintro rfl rfl
      exact h ⟨[], body, rfl⟩
    have hs : step ⟨comment star, start, position⟩ c =
        enter ⟨comment star, start, position⟩ (comment (c == '*')) := by
      cases star <;> by_cases hx : c = '*' <;> simp_all [comment, step]
    have hb : ¬ ['*', '/'] <:+: if c == '*' then '*' :: body else body := by
      intro hi
      apply h
      have hcons : ['*', '/'] <:+: c :: body := by
        by_cases hx : c = '*'
        · simpa [hx] using hi
        · exact (show ['*', '/'] <:+: body by simpa [hx] using hi).trans (List.suffix_cons c body).isInfix
      cases star with
      | false => exact hcons
      | true => exact hcons.trans (List.suffix_cons '*' (c :: body)).isInfix
    obtain ⟨star', he⟩ := ih (c == '*') hb (position + 1)
    refine ⟨star', ?_⟩
    rw [List.cons_append, scan_silent _ hs]
    simpa [Nat.add_assoc, Nat.add_comm 1] using he

/-! ## Words -/

theorem ofWord?_word (k : Keyword) : Keyword.ofWord? k.word = some k := by
  have all : ∀ k ∈ Keyword.all, Keyword.ofWord? k.word = some k := by decide
  exact all k k.mem_all

theorem ofWord?_boolWord (b : Bool) : Keyword.ofWord? (Value.boolWord b) = none := by
  cases b <;> decide

theorem ofWord?_eq_none {w : Text} (h : ∀ k : Keyword, w ≠ k.word) : Keyword.ofWord? w = none := by
  simp only [Keyword.ofWord?, List.find?_eq_none, decide_eq_true_eq]
  exact fun k _ e => h k e.symm

theorem wordKind_eq {w : Text} {kind : Token.Kind} (h : WordIs w kind) : wordKind w = kind := by
  unfold wordKind
  cases h with
  | keyword k => rw [ofWord?_word]
  | boolean b =>
    rw [ofWord?_boolWord]
    cases b <;> simp [Value.boolWord]
  | name hk hb =>
    rw [ofWord?_eq_none hk]
    simp [hb true, hb false]

/-! ## Pieces -/

theorem begin_digit {c : Char} (h : Text.isDigit c) (position : Nat) :
    step (between position) c = enter (between position) (.integer [c]) := by
  have hw := isWordChar_of_isDigit h
  have hq : c ≠ '"' := fun e => not_wordChar_of_isMark (by simp [IsMark]) (e ▸ hw)
  simp [step, begin, between, not_blank_of_isWordChar hw, hq, h]

theorem begin_letter {c : Char} (h : Text.isWordChar c) (hd : ¬ Text.isDigit c) (position : Nat) :
    step (between position) c = enter (between position) (.word [c]) := by
  have hq : c ≠ '"' := fun e => not_wordChar_of_isMark (by simp [IsMark]) (e ▸ h)
  simp [step, begin, between, not_blank_of_isWordChar h, hq, h, hd]

theorem scan_number {ds : Text} (h : IsNumber ds) (position : Nat) (t : Text) :
    (between position).scan (ds ++ t) = scan ⟨.integer ds.reverse, position, position + ds.length⟩ t := by
  obtain ⟨hne, hds⟩ := h
  cases ds with
  | nil => exact absurd rfl hne
  | cons d ds =>
    simp only [List.mem_cons, forall_eq_or_imp] at hds
    rw [List.cons_append, scan_silent _ (begin_digit hds.1 position)]
    show scan ⟨.integer [d], position, position + 1⟩ (ds ++ t) = _
    rw [scan_digits hds.2]
    simp [Nat.add_assoc, Nat.add_comm 1]

theorem scan_word {w : Text} (h : IsWord w) (position : Nat) (t : Text) :
    (between position).scan (w ++ t) = scan ⟨.word w.reverse, position, position + w.length⟩ t := by
  obtain ⟨hne, hw, hd⟩ := h
  cases w with
  | nil => exact absurd rfl hne
  | cons c w =>
    simp only [List.mem_cons, forall_eq_or_imp] at hw
    rw [List.cons_append, scan_silent _ (begin_letter hw.1 (hd c rfl) position)]
    show scan ⟨.word [c], position, position + 1⟩ (w ++ t) = _
    rw [scan_letters hw.2]
    simp [Nat.add_assoc, Nat.add_comm 1]

theorem scan_string {body value : Text} (h : Denotes body value) (position : Nat) (t : Text) :
    (between position).scan ('"' :: (body ++ t)) =
      scan ⟨.string body.reverse value.reverse, position, position + 1 + body.length⟩ t :=
  (scan_silent _ rfl).trans ((scan_body h [] [] position (position + 1) t).trans (by simp))

theorem scan_lineComment {body : Text} (h : '\n' ∉ body) (position : Nat) (t : Text) :
    (between position).scan ('/' :: '/' :: (body ++ t)) =
      scan ⟨.lineComment, position, position + 2 + body.length⟩ t :=
  (scan_silent _ rfl).trans ((scan_silent _ rfl).trans (scan_remark h position (position + 2) t))

theorem scan_blockComment {body : Text} (h : ¬ ['*', '/'] <:+: body) (position : Nat) (t : Text) :
    ∃ star, (between position).scan ('/' :: '*' :: (body ++ t)) =
      scan ⟨comment star, position, position + 2 + body.length⟩ t := by
  obtain ⟨star, he⟩ := scan_comment false h position (position + 2) t
  exact ⟨star, (scan_silent _ rfl).trans ((scan_silent _ rfl).trans he)⟩

/-- A lead that stands alone. -/
theorem scan_alone {position : Nat} {l : Lead} {c : Char} (h : step ⟨.lead l, position, position + 1⟩ c =
    completeBefore ⟨.lead l, position, position + 1⟩ c l.kind [l.char]) (t : Text) :
    (between position).scan (l.char :: c :: t) =
      ([{ kind := l.kind, lexeme := [l.char] }] ++ ·) <$> (between (position + 1)).scan (c :: t) := by
  have hs : step (between position) l.char = enter (between position) (.lead l) := by cases l <;> rfl
  exact (scan_silent _ hs).trans (scan_completeBefore t h)

/-- A piece is taken as a whole: its token comes first, and the rest is scanned from between two tokens. -/
theorem scan_piece {p t : Text} {kind : Option Token.Kind} (h : Piece p t kind) (position : Nat) :
    (between position).scan (p ++ t) = (emitted p kind ++ ·) <$> (between (position + p.length)).scan t := by
  cases h with
  | blank hc =>
    refine scan_skipped t ?_ rfl
    simp [step, begin, between, hc]
  | lineComment hb =>
    rw [List.append_assoc, List.cons_append, List.cons_append, scan_lineComment hb]
    exact scan_skipped t rfl (by simp; omega)
  | lastComment hb =>
    -- Nothing is pending in a line comment, so the text may end in one.
    have he := scan_lineComment hb position []
    rw [List.append_nil] at he ⊢
    exact he
  | blockComment hb =>
    obtain ⟨star, he⟩ := scan_blockComment hb position ('*' :: '/' :: t)
    have hs : ∀ s : Scanner, s.mode = comment star → s.step '*' = enter s .blockCommentStar := by
      intro s hm
      cases star <;> simp [step, hm, comment]
    rw [List.append_assoc, List.cons_append, List.cons_append]
    exact he.trans ((scan_silent _ (hs _ rfl)).trans (scan_skipped t rfl (by simp; omega)))
  | integer hn hm hd =>
    rw [scan_number hn]
    refine scan_completeBefore _ ?_
    simp [step, hd, completeInteger, hm]
  | word hw hc hk =>
    rw [scan_word hw]
    refine scan_completeBefore _ ?_
    simp [step, hc, wordKind_eq hk]
  | string hb =>
    rw [List.append_assoc, List.cons_append, scan_string hb]
    refine scan_completed t ?_ (by simp; omega)
    simp [step]
  | assignment => exact (scan_silent _ rfl).trans (scan_completed t rfl rfl)
  | range => exact (scan_silent _ rfl).trans (scan_completed t rfl rfl)
  | typeMark hc => exact scan_alone (l := .colon) (by simp [step, resolve, hc]) _
  | dot hc => exact scan_alone (l := .dot) (by simp [step, resolve, hc]) _
  | slash hl hb => exact scan_alone (l := .slash) (by simp [step, resolve, hl, hb]) _
  | bracketOpen => exact scan_completed t rfl rfl
  | bracketClose => exact scan_completed t rfl rfl
  | statementEnd => exact scan_completed t rfl rfl
  | @operator op _ ho => cases op <;> first | exact absurd rfl ho | exact scan_completed t rfl rfl

/-! ## Texts that begin with no piece -/

theorem begin_illegal {c : Char} (hb : ¬ Text.isBlank c) (hw : ¬ Text.isWordChar c) (hm : ¬ IsMark c)
    (position : Nat) : step (between position) c = fail (between position) (.illegal c) := by
  have hd : ¬ Text.isDigit c := fun h => hw (isWordChar_of_isDigit h)
  simp only [IsMark, List.mem_cons, List.not_mem_nil, or_false, not_or] at hm
  obtain ⟨hq, hm⟩ := hm
  have hl : Lead.ofChar? c = none := by unfold Lead.ofChar?; split <;> simp_all
  have hs : single? c = none := by unfold single?; split <;> simp_all
  simp [step, begin, between, hb, hq, hd, hw, hl, hs]

/-- Where no piece begins, the scanner stops with the cause. -/
theorem scan_stuck {t : Text} {cause : Cause} (h : Stuck t cause) (position : Nat) :
    (between position).scan t = .error { cause, index := position } := by
  cases h with
  | illegal hb hw hm =>
    refine scan_failed _ ?_
    rw [begin_illegal hb hw hm]
    rfl
  | outOfRange hn hm hd =>
    rw [scan_number hn]
    refine scan_failed _ ?_
    simp [step, hd, completeInteger, Int.not_le.2 hm, fail]
  | integer hn =>
    have he := scan_number hn position []
    rw [List.append_nil] at he
    exact he
  | word hw =>
    have he := scan_word hw position []
    rw [List.append_nil] at he
    exact he
  | string hb =>
    have he := scan_string hb position []
    rw [List.append_nil] at he
    exact he
  | escape hb =>
    exact (scan_string hb position ['\\']).trans rfl
  | comment hb =>
    obtain ⟨star, he⟩ := scan_blockComment hb position []
    rw [List.append_nil] at he
    rw [he]
    cases star <;> rfl
  | lead l => cases l <;> rfl

/-! ## Texts -/

/-- The scanner goes from piece to piece, and is then between two tokens where the rest of the text begins. -/
theorem scan_splits {t rest : Text} {ts : List Token} (h : Splits t ts rest) (position : Nat) :
    ∃ n, n + rest.length = position + t.length ∧
      (between position).scan t = (ts ++ ·) <$> (between n).scan rest := by
  induction h generalizing position with
  | done => exact ⟨position, rfl, by cases (between position).scan _ <;> rfl⟩
  | @piece p u kind ts rest hp _ ih =>
    obtain ⟨n, hl, hn⟩ := ih (position + p.length)
    refine ⟨n, by rw [hl, List.length_append, Nat.add_assoc], ?_⟩
    rw [scan_piece hp, hn]
    cases (between n).scan rest <;> simp [Functor.map, Except.map]

theorem scan_of_splits {t : Text} {ts : List Token} (h : Splits t ts []) (position : Nat) :
    (between position).scan t = .ok ts := by
  obtain ⟨n, -, hn⟩ := scan_splits h position
  rw [hn]
  exact congrArg Except.ok (List.append_nil ts)

/-- A text that is stuck after some tokens is refused where the stuck part begins. -/
theorem scan_of_stuck {t rest : Text} {ts : List Token} {cause : Cause} (h : Splits t ts rest)
    (hs : Stuck rest cause) : (between 0).scan t = .error { cause, index := t.length - rest.length } := by
  obtain ⟨n, hl, hn⟩ := scan_splits h 0
  rw [hn, scan_stuck hs]
  have hi : n = t.length - rest.length := by omega
  rw [← hi]
  rfl

theorem splits_of_scan {t : Text} {ts : List Token} {position : Nat} (h : (between position).scan t = .ok ts) :
    Splits t ts [] := by
  rcases splits_or_stuck t with ⟨us, hu⟩ | ⟨us, rest, cause, hu, hs⟩
  · rw [scan_of_splits hu] at h
    exact Except.ok.inj h ▸ hu
  · -- Where the text is stuck, the scanner would have stopped.
    obtain ⟨n, -, hn⟩ := scan_splits hu position
    rw [hn, scan_stuck hs] at h
    cases h

end Scanner

theorem Token.splits_of_scan {code : Text} {ts : List Token} (h : Token.scan code = .ok ts) : Splits code ts [] :=
  Scanner.splits_of_scan (show (Scanner.between 0).scan code = .ok ts from h)

/-- The scanner returns tokens exactly if the text is cut into pieces, each as long as it can be, and these
are the tokens among them. -/
theorem Token.scan_eq_ok_iff (code : Text) (ts : List Token) : Token.scan code = .ok ts ↔ Splits code ts [] :=
  ⟨fun h => Scanner.splits_of_scan (show (Scanner.between 0).scan code = .ok ts from h),
    fun h => Scanner.scan_of_splits h 0⟩

end MiniPL
