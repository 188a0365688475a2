import MiniPL.Operator
import MiniPL.Scanner
/-!
# The pieces of a text

The lexical grammar, said without the scanner: what a piece of a text is (`Piece`), how a text is cut into
pieces from left to right (`Splits`), and which texts begin with no piece (`Stuck`). A piece is judged
together with what follows it, because a word or a number is as long as it can be.

`splits_or_stuck` says that every text is cut into pieces up to its end or up to a place where it is stuck.
-/

namespace MiniPL

/-! ## What lexemes stand for -/

/-- What a word is: a reserved word, a truth value, or else a name. -/
inductive WordIs : Text → Token.Kind → Prop
  | keyword (k : Keyword) : WordIs k.word (.keyword k)
  | boolean (b : Bool) : WordIs (Value.boolWord b) (.boolean b)
  | name {w : Text} : (∀ k : Keyword, w ≠ k.word) → (∀ b, w ≠ Value.boolWord b) → WordIs w (.identifier w)

/-- The body of a string literal, which holds no quote without a backslash, and the text it denotes. -/
inductive Denotes : Text → Text → Prop
  | nil : Denotes [] []
  | plain {c body value} : c ≠ '"' → c ≠ '\\' → Denotes body value → Denotes (c :: body) (c :: value)
  | quote {body value} : Denotes body value → Denotes ('\\' :: '"' :: body) ('"' :: value)
  | backslash {body value} : Denotes body value → Denotes ('\\' :: '\\' :: body) ('\\' :: value)
  | feed {body value} : Denotes body value → Denotes ('\\' :: 'n' :: body) ('\n' :: value)
  /-- Any other pair stands as it is written. -/
  | pair {c body value} : c ≠ '"' → c ≠ '\\' → c ≠ 'n' → Denotes body value →
      Denotes ('\\' :: c :: body) ('\\' :: c :: value)

/-- One or more digits. -/
def IsNumber (ds : Text) : Prop := ds ≠ [] ∧ ∀ d ∈ ds, Text.isDigit d

/-- One or more word characters, the first of which is no digit. -/
def IsWord (w : Text) : Prop := w ≠ [] ∧ (∀ c ∈ w, Text.isWordChar c) ∧ ∀ c ∈ w.head?, ¬ Text.isDigit c

theorem isWord_iff {w : Text} :
    (!w.isEmpty && w.all Text.isWordChar && !w.head?.any Text.isDigit) = true ↔ IsWord w := by
  cases w <;> simp [IsWord, and_assoc]

instance (w : Text) : Decidable (IsWord w) := decidable_of_iff _ isWord_iff

/-! ## Pieces -/

/-- The first text, standing before the second, is one piece; it is a token of the kind, if there is one. -/
inductive Piece : Text → Text → Option Token.Kind → Prop
  | blank {c rest} : Text.isBlank c → Piece [c] rest none
  | lineComment {body rest} : '\n' ∉ body → Piece ('/' :: '/' :: body ++ ['\n']) rest none
  | lastComment {body} : '\n' ∉ body → Piece ('/' :: '/' :: body) [] none
  | blockComment {body rest} : ¬ ['*', '/'] <:+: body → Piece ('/' :: '*' :: body ++ ['*', '/']) rest none
  | integer {ds c rest} : IsNumber ds → (Text.toNat ds : Int) ≤ Value.maxInt → ¬ Text.isDigit c →
      Piece ds (c :: rest) (some (.integer (Text.toNat ds)))
  | word {w c rest kind} : IsWord w → ¬ Text.isWordChar c → WordIs w kind → Piece w (c :: rest) (some kind)
  | string {body value rest} : Denotes body value → Piece ('"' :: body ++ ['"']) rest (some (.string value))
  | assignment {rest} : Piece [':', '='] rest (some .assignment)
  | range {rest} : Piece ['.', '.'] rest (some .range)
  | typeMark {c rest} : c ≠ '=' → Piece [':'] (c :: rest) (some .typeMark)
  | dot {c rest} : c ≠ '.' → Piece ['.'] (c :: rest) (some .dot)
  | slash {c rest} : c ≠ '/' → c ≠ '*' → Piece ['/'] (c :: rest) (some (.operator ['/']))
  | bracketOpen {rest} : Piece ['('] rest (some .bracketOpen)
  | bracketClose {rest} : Piece [')'] rest (some .bracketClose)
  | statementEnd {rest} : Piece [';'] rest (some .statementEnd)
  | operator {op : Operator} {rest} : op ≠ .div → Piece op.symbol rest (some (.operator op.symbol))

/-- The token that a piece is, if it is one. -/
def emitted (p : Text) (kind : Option Token.Kind) : List Token := kind.toList.map fun kind => { kind, lexeme := p }

@[simp] theorem emitted_none (p : Text) : emitted p none = [] := rfl

@[simp] theorem emitted_some (p : Text) (kind : Token.Kind) : emitted p (some kind) = [{ kind, lexeme := p }] := rfl

/-- The first text is cut into pieces up to where the second begins, and these are the tokens among them. -/
inductive Splits : Text → List Token → Text → Prop
  | done {rest} : Splits rest [] rest
  | piece {p t kind ts rest} : Piece p t kind → Splits t ts rest → Splits (p ++ t) (emitted p kind ++ ts) rest

/-- A character that begins a piece, blanks and word characters apart. -/
def IsMark (c : Char) : Prop := c ∈ ['"', ':', '.', '/', '(', ')', ';', '+', '-', '*', '&', '!', '=', '<']

/-- The text begins with no piece, and this is why. -/
inductive Stuck : Text → Scanner.Cause → Prop
  | illegal {c t} : ¬ Text.isBlank c → ¬ Text.isWordChar c → ¬ IsMark c → Stuck (c :: t) (.illegal c)
  | outOfRange {ds c t} : IsNumber ds → Value.maxInt < Text.toNat ds → ¬ Text.isDigit c →
      Stuck (ds ++ c :: t) (.outOfRange ds)
  | integer {ds} : IsNumber ds → Stuck ds (.unterminated .integer)
  | word {w} : IsWord w → Stuck w (.unterminated .word)
  | string {body value} : Denotes body value → Stuck ('"' :: body) (.unterminated .string)
  | escape {body value} : Denotes body value → Stuck ('"' :: body ++ ['\\']) (.unterminated .string)
  | comment {body} : ¬ ['*', '/'] <:+: body → Stuck ('/' :: '*' :: body) (.unterminated .comment)
  | lead (l : Scanner.Lead) : Stuck [l.char] (.endAfter l)

/-! ## Characters -/

theorem le_iff_toNat_le {c d : Char} : c ≤ d ↔ c.toNat ≤ d.toNat := by
  rw [Char.le_def, UInt32.le_iff_toNat_le]
  rfl

theorem isDigit_iff {c : Char} : Text.isDigit c ↔ 48 ≤ c.toNat ∧ c.toNat ≤ 57 := by
  simp [Text.isDigit, le_iff_toNat_le]

theorem not_blank_of_isWordChar {c : Char} (h : Text.isWordChar c) : ¬ Text.isBlank c := by
  simp only [Text.isWordChar, Bool.or_eq_true, Bool.and_eq_true, decide_eq_true_eq, beq_iff_eq, isDigit_iff,
    le_iff_toNat_le] at h
  simp only [Text.isBlank, Text.blankRanges, List.any_cons, List.any_nil, Bool.or_eq_true, Bool.and_eq_true,
    decide_eq_true_eq, Bool.or_false]
  rcases h with ((h | h) | h) | rfl
  · omega
  · simp at h; omega
  · simp at h; omega
  · decide

theorem isWordChar_of_isDigit {c : Char} (h : Text.isDigit c) : Text.isWordChar c := by
  simp [Text.isWordChar, h]

theorem not_wordChar_of_isMark {c : Char} (h : IsMark c) : ¬ Text.isWordChar c := by
  simp only [IsMark, List.mem_cons, List.not_mem_nil, or_false] at h
  rcases h with rfl | rfl | rfl | rfl | rfl | rfl | rfl | rfl | rfl | rfl | rfl | rfl | rfl | rfl <;> decide

/-! ## Cutting a text -/

theorem Denotes.append {a v b w : Text} (ha : Denotes a v) (hb : Denotes b w) : Denotes (a ++ b) (v ++ w) := by
  induction ha with
  | nil => exact hb
  | plain h1 h2 _ ih => exact .plain h1 h2 ih
  | quote _ ih => exact .quote ih
  | backslash _ ih => exact .backslash ih
  | feed _ ih => exact .feed ih
  | pair h1 h2 h3 _ ih => exact .pair h1 h2 h3 ih

/-- A backslash and any character after it, in front of a body. -/
theorem Denotes.escaped (c : Char) {body value : Text} (h : Denotes body value) :
    Denotes ('\\' :: c :: body) (Scanner.unescape c ++ value) := by
  unfold Scanner.unescape
  split
  · exact .quote h
  · exact .backslash h
  · exact .feed h
  · exact .pair ‹_› ‹_› ‹_› h

/-- What follows an opening quote has a closing quote, or goes on to the end of the text. -/
theorem string_cut (t : Text) :
    (∃ body value u, Denotes body value ∧ t = body ++ '"' :: u) ∨
      ∃ body value, Denotes body value ∧ (t = body ∨ t = body ++ ['\\']) := by
  match t with
  | [] => exact .inr ⟨[], [], .nil, .inl rfl⟩
  | c :: t =>
    by_cases hq : c = '"'
    · subst hq; exact .inl ⟨[], [], t, .nil, rfl⟩
    by_cases hb : c = '\\'
    · subst hb
      -- The backslash takes the next character with it, even a quote.
      match t with
      | [] => exact .inr ⟨[], [], .nil, .inr rfl⟩
      | d :: t =>
        rcases string_cut t with ⟨body, value, u, h, rfl⟩ | ⟨body, value, h, rfl | rfl⟩
        · exact .inl ⟨_, _, u, h.escaped d, rfl⟩
        · exact .inr ⟨_, _, h.escaped d, .inl rfl⟩
        · exact .inr ⟨_, _, h.escaped d, .inr rfl⟩
    · rcases string_cut t with ⟨body, value, u, h, rfl⟩ | ⟨body, value, h, rfl | rfl⟩
      · exact .inl ⟨_, _, u, h.plain hq hb, rfl⟩
      · exact .inr ⟨_, _, h.plain hq hb, .inl rfl⟩
      · exact .inr ⟨_, _, h.plain hq hb, .inr rfl⟩

/-- What follows `/*` has a `*/` in it, and so a first one, or has none. -/
theorem comment_cut (t : Text) :
    (∃ body u, ¬ ['*', '/'] <:+: body ∧ t = body ++ '*' :: '/' :: u) ∨ ¬ ['*', '/'] <:+: t := by
  induction t with
  | nil => exact .inr (by simp)
  | cons c t ih =>
    by_cases hp : ['*', '/'] <+: c :: t
    · obtain ⟨u, hu⟩ := hp
      exact .inl ⟨[], u, by simp, hu.symm⟩
    rcases ih with ⟨body, u, hb, rfl⟩ | h
    · -- A `*/` in `c :: body` that is not in `body` begins at `c`, and so does one in the text.
      refine .inl ⟨c :: body, u, ?_, rfl⟩
      rw [List.infix_cons_iff, not_or]
      refine ⟨fun hc => hp (hc.trans ?_), hb⟩
      exact ⟨'*' :: '/' :: u, rfl⟩
    · exact .inr (by rw [List.infix_cons_iff, not_or]; exact ⟨hp, h⟩)

/-- The longest beginning of a text in which every character has a property. -/
theorem run_cut (p : Char → Bool) (t : Text) :
    ∃ run u, t = run ++ u ∧ (∀ c ∈ run, p c) ∧ ∀ c ∈ u.head?, ¬ p c := by
  induction t with
  | nil => exact ⟨[], [], rfl, by simp, by simp⟩
  | cons c t ih =>
    by_cases hc : p c
    · obtain ⟨run, u, rfl, hr, hu⟩ := ih
      exact ⟨c :: run, u, rfl, by simpa [hc] using hr, hu⟩
    · exact ⟨[], c :: t, rfl, by simp, by simpa using hc⟩

/-- Every word is of some kind. -/
theorem WordIs.exists (w : Text) : ∃ kind, WordIs w kind := by
  by_cases hk : ∃ k : Keyword, w = k.word
  · obtain ⟨k, rfl⟩ := hk
    exact ⟨_, .keyword k⟩
  by_cases hb : ∃ b, w = Value.boolWord b
  · obtain ⟨b, rfl⟩ := hb
    exact ⟨_, .boolean b⟩
  exact ⟨_, .name (fun k e => hk ⟨k, e⟩) (fun b e => hb ⟨b, e⟩)⟩

/-! ## A text begins with a piece or is stuck -/

/-- What a text can begin with. -/
def Begins (t : Text) : Prop := (∃ p u kind, t = p ++ u ∧ Piece p u kind) ∨ ∃ cause, Stuck t cause

theorem begins_number {c : Char} (t : Text) (hc : Text.isDigit c) : Begins (c :: t) := by
  obtain ⟨run, u, rfl, hr, hu⟩ := run_cut Text.isDigit t
  have hn : IsNumber (c :: run) := ⟨by simp, by simpa [hc] using hr⟩
  cases u with
  | nil => exact .inr ⟨_, by simpa using Stuck.integer hn⟩
  | cons d u =>
    have hd : ¬ Text.isDigit d := by simpa using hu
    by_cases hm : (Text.toNat (c :: run) : Int) ≤ Value.maxInt
    · exact .inl ⟨_, _, _, rfl, .integer hn hm hd⟩
    · exact .inr ⟨_, .outOfRange hn (by omega) hd⟩

theorem begins_word {c : Char} (t : Text) (hc : Text.isWordChar c) (hd : ¬ Text.isDigit c) : Begins (c :: t) := by
  obtain ⟨run, u, rfl, hr, hu⟩ := run_cut Text.isWordChar t
  have hw : IsWord (c :: run) := ⟨by simp, by simpa [hc] using hr, by simpa using hd⟩
  cases u with
  | nil => exact .inr ⟨_, by simpa using Stuck.word hw⟩
  | cons d u =>
    obtain ⟨kind, hk⟩ := WordIs.exists (c :: run)
    exact .inl ⟨_, _, _, rfl, .word hw (by simpa using hu) hk⟩

theorem begins_string (t : Text) : Begins ('"' :: t) := by
  rcases string_cut t with ⟨body, value, u, h, rfl⟩ | ⟨body, value, h, rfl | rfl⟩
  · exact .inl ⟨'"' :: body ++ ['"'], u, _, by simp, .string h⟩
  · exact .inr ⟨_, .string h⟩
  · exact .inr ⟨_, .escape h⟩

theorem begins_lineComment (t : Text) : Begins ('/' :: '/' :: t) := by
  obtain ⟨run, u, rfl, hr, hu⟩ := run_cut (· ≠ '\n') t
  have hn : '\n' ∉ run := fun h => by simpa using hr _ h
  cases u with
  | nil => exact .inl ⟨'/' :: '/' :: run, [], none, by simp, .lastComment hn⟩
  | cons c u =>
    have hc : c = '\n' := by simpa using hu
    subst hc
    exact .inl ⟨'/' :: '/' :: run ++ ['\n'], u, none, by simp, .lineComment hn⟩

theorem begins_blockComment (t : Text) : Begins ('/' :: '*' :: t) := by
  rcases comment_cut t with ⟨body, u, h, rfl⟩ | h
  · exact .inl ⟨'/' :: '*' :: body ++ ['*', '/'], u, none, by simp, .blockComment h⟩
  · exact .inr ⟨_, .comment h⟩

theorem begins_lead (l : Scanner.Lead) (t : Text) : Begins (l.char :: t) := by
  cases t with
  | nil => exact .inr ⟨_, .lead l⟩
  | cons c t =>
    cases l with
    | colon =>
      by_cases hc : c = '='
      · subst hc; exact .inl ⟨_, t, _, rfl, .assignment⟩
      · exact .inl ⟨_, _, _, rfl, .typeMark hc⟩
    | dot =>
      by_cases hc : c = '.'
      · subst hc; exact .inl ⟨_, t, _, rfl, .range⟩
      · exact .inl ⟨_, _, _, rfl, .dot hc⟩
    | slash =>
      by_cases hl : c = '/'
      · subst hl; exact begins_lineComment t
      by_cases hb : c = '*'
      · subst hb; exact begins_blockComment t
      exact .inl ⟨_, _, _, rfl, .slash hl hb⟩

theorem begins_operator (op : Operator) (h : op ≠ .div) (t : Text) : Begins (op.char :: t) :=
  .inl ⟨op.symbol, t, _, rfl, .operator h⟩

theorem begins_mark {c : Char} (t : Text) (hc : IsMark c) : Begins (c :: t) := by
  simp only [IsMark, List.mem_cons, List.not_mem_nil, or_false] at hc
  rcases hc with rfl | rfl | rfl | rfl | rfl | rfl | rfl | rfl | rfl | rfl | rfl | rfl | rfl | rfl
  · exact begins_string t
  · exact begins_lead .colon t
  · exact begins_lead .dot t
  · exact begins_lead .slash t
  · exact .inl ⟨_, t, _, rfl, .bracketOpen⟩
  · exact .inl ⟨_, t, _, rfl, .bracketClose⟩
  · exact .inl ⟨_, t, _, rfl, .statementEnd⟩
  · exact begins_operator .add (by decide) t
  · exact begins_operator .sub (by decide) t
  · exact begins_operator .mul (by decide) t
  · exact begins_operator .and (by decide) t
  · exact begins_operator .not (by decide) t
  · exact begins_operator .equal (by decide) t
  · exact begins_operator .less (by decide) t

/-- A text that is not empty begins with a piece or is stuck. -/
theorem begins_cons (c : Char) (t : Text) : Begins (c :: t) := by
  by_cases hb : Text.isBlank c
  · exact .inl ⟨[c], t, none, rfl, .blank hb⟩
  by_cases hm : IsMark c
  · exact begins_mark t hm
  by_cases hd : Text.isDigit c
  · exact begins_number t hd
  by_cases hw : Text.isWordChar c
  · exact begins_word t hw hd
  exact .inr ⟨_, .illegal hb hw hm⟩

theorem Piece.ne_nil {p t : Text} {kind : Option Token.Kind} (h : Piece p t kind) : p ≠ [] := by
  cases h with
  | integer h => exact h.1
  | word h => exact h.1
  | operator => simp [Operator.symbol]
  | _ => simp

/-- Every text is cut into pieces up to its end or up to a place where it is stuck. -/
theorem splits_or_stuck (t : Text) :
    (∃ ts, Splits t ts []) ∨ ∃ ts rest cause, Splits t ts rest ∧ Stuck rest cause := by
  induction h : t.length using Nat.strongRecOn generalizing t with
  | ind n ih =>
    cases t with
    | nil => exact .inl ⟨[], .done⟩
    | cons c t =>
      rcases begins_cons c t with ⟨p, u, kind, he, hp⟩ | ⟨cause, hs⟩
      · -- A piece is not empty, so the text after it is shorter.
        have hl : u.length < n := by
          have := List.length_pos_iff.2 hp.ne_nil
          rw [← h, he, List.length_append]; omega
        rw [he]
        rcases ih _ hl u rfl with ⟨ts, hts⟩ | ⟨ts, rest, cause, hts, hs⟩
        · exact .inl ⟨_, .piece hp hts⟩
        · exact .inr ⟨_, _, _, .piece hp hts, hs⟩
      · exact .inr ⟨[], _, _, .done, hs⟩

theorem Splits.append {a b c : Text} {ts us : List Token} (h : Splits a ts b) (h' : Splits b us c) :
    Splits a (ts ++ us) c := by
  induction h with
  | done => exact h'
  | piece hp _ ih => rw [List.append_assoc]; exact .piece hp (ih h')

end MiniPL
