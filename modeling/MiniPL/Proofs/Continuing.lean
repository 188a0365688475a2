import MiniPL.Proofs.Joining
/-!
# The scanner goes on after a fault

A scanner can be fed on after a fault. What one character does to it is summed up once, in `Scanner.Effect`. A number
that is out of range is never got rid of: more digits only make it greater, and nothing else ends it, so the scanner
goes on collecting digits for ever (`Scanner.after_outOfRange`).
-/

namespace MiniPL

namespace Scanner

/-! ## Texts that are fed to their end -/

/-- The scanner after a text, whatever faults there were. -/
def after (s : Scanner) : Text → Scanner
  | [] => s
  | c :: t => after (s.step c).next t

/-- All tokens that are emitted along a text. -/
def tokens (s : Scanner) (t : Text) : List Token := (s.feed t).flatMap Step.emitted

/-- What comes of a text after which nothing else is fed: its tokens, or the fault of its end. -/
def outcome (s : Scanner) (t : Text) : Except Fault (List Token) := do
  (s.after t).finish
  return s.tokens t

section
variable {s : Scanner} {a b t : Text} {c : Char}

theorem after_append : s.after (a ++ b) = (s.after a).after b := by
  induction a generalizing s with
  | nil => rfl
  | cons c a ih => exact ih

theorem tokens_cons : s.tokens (c :: t) = (s.step c).emitted ++ (s.step c).next.tokens t := rfl

theorem tokens_append : s.tokens (a ++ b) = s.tokens a ++ (s.after a).tokens b := by
  induction a generalizing s with
  | nil => rfl
  | cons c a ih =>
    rw [List.cons_append, tokens_cons, tokens_cons, ih, List.append_assoc]
    rfl
end

/-! ## What a character does -/

/-- What has been read of a lexeme. -/
def Mode.lexeme? : Mode → Option Text
  | .lead l => some [l.char]
  | .string body _ => some ('"' :: body.reverse)
  | .escape body _ => some ('"' :: (body.reverse ++ ['\\']))
  | .integer digits => some digits.reverse
  | .word letters => some letters.reverse
  | _ => none

/-- A number is collected, and it has no place in 32 bits. -/
def Mode.TooLarge : Mode → Prop
  | .integer digits => Value.maxInt < Text.toNat digits.reverse
  | _ => False

/-- What a character does that is taken up as a beginning. -/
inductive Beginning (s : Scanner) (c : Char) : Step → Prop
  | opens {mode} : (∀ l ∈ mode.lexeme?, l = [c]) → Beginning s c ((between s.position).enter mode)
  | single {kind} : Beginning s c ((between s.position).complete kind [c])
  | illegal : Beginning s c ((between s.position).fail (.illegal c))

/-- What a character does. Between two tokens it begins something. Otherwise the token or comment goes on with it, or
the token ends with it or before it, unless that is a number out of range. -/
inductive Effect (s : Scanner) (c : Char) : Step → Prop
  | begins : s.mode = .idle → Effect s c (s.begin c)
  | goesOn {mode} : (∀ l ∈ mode.lexeme?, ∃ k ∈ s.mode.lexeme?, l = k ++ [c]) → (s.mode.TooLarge → mode.TooLarge) →
      Effect s c (s.enter mode)
  | completes {l kind} : l ∈ s.mode.lexeme? → ¬ s.mode.TooLarge → Effect s c (s.complete kind (l ++ [c]))
  | ends {l kind} : l ∈ s.mode.lexeme? → ¬ s.mode.TooLarge → Effect s c (s.completeBefore c kind l)
  | overflows {ds} : s.mode = .integer ds.reverse → Value.maxInt < Text.toNat ds → Effect s c (s.fail (.outOfRange ds))

theorem Lead.char_of_ofChar? {c : Char} {l : Lead} (h : ofChar? c = some l) : l.char = c := by
  unfold ofChar? at h
  split at h <;> cases h <;> rfl

theorem begin_beginning (s : Scanner) (c : Char) : Beginning s c (s.begin c) := by
  unfold begin
  repeat' split
  · exact .opens (by simp [Mode.lexeme?])
  · next hc => exact .opens (by simp [Mode.lexeme?, hc])
  · exact .opens (by simp [Mode.lexeme?])
  · exact .opens (by simp [Mode.lexeme?])
  · next l _ hl =>
    rw [← Lead.char_of_ofChar? hl]
    exact .opens (by simp [Mode.lexeme?])
  · exact .single
  · exact .illegal

/-- A number does not become less by more digits. -/
theorem toNat_le_concat (ds : Text) (c : Char) : Text.toNat ds ≤ Text.toNat (ds ++ [c]) := by
  rw [Text.toNat_concat]
  omega

theorem step_effect (s : Scanner) (c : Char) : Effect s c (s.step c) := by
  obtain ⟨mode, start, position⟩ := s
  -- In a comment nothing is collected.
  have comment {m m' : Mode} (hm : ¬ m.TooLarge) (hl : m'.lexeme? = none) :
      Effect ⟨m, start, position⟩ c (enter ⟨m, start, position⟩ m') :=
    .goesOn (by simp [hl]) fun h => absurd h hm
  cases mode with
  | idle => exact .begins rfl
  | lineComment => exact comment id (by split <;> rfl)
  | blockComment => exact comment id (by split <;> rfl)
  | blockCommentStar =>
    refine comment id ?_
    repeat' split
    all_goals rfl
  | lead l =>
    simp only [step, resolve]
    split
    · exact .completes (l := [':']) rfl id
    · exact .completes (l := ['.']) rfl id
    · exact comment id rfl
    · exact comment id rfl
    · exact .ends rfl id
  | string body value =>
    have hl : '"' :: (c :: body).reverse = '"' :: body.reverse ++ [c] := by simp
    simp only [step]
    split
    · rw [hl]
      exact .completes rfl id
    · split
      · next hc => exact .goesOn (by simp [Mode.lexeme?, hc]) False.elim
      · exact .goesOn (by simp [Mode.lexeme?]) False.elim
  | escape body value => exact .goesOn (by simp [Mode.lexeme?]) False.elim
  | integer digits =>
    simp only [step, completeInteger]
    split
    · refine .goesOn (by simp [Mode.lexeme?]) fun h => ?_
      have hl := toNat_le_concat digits.reverse c
      have ht : Value.maxInt < Text.toNat digits.reverse := h
      show Value.maxInt < Text.toNat (c :: digits).reverse
      rw [List.reverse_cons]
      omega
    · split
      · next hr => exact .ends rfl (Int.not_lt.2 hr)
      · next hr => exact .overflows (by simp) (Int.not_le.1 hr)
  | word letters =>
    simp only [step]
    split
    · exact .goesOn (by simp [Mode.lexeme?]) False.elim
    · exact .ends rfl id

/-! ## A number that is out of range -/

/-- The scanner has begun a number at the index, and the digits collected are too many. -/
structure Overflowed (index : Nat) (ds : Text) (s : Scanner) : Prop where
  mode : s.mode = .integer ds.reverse
  start : s.start = index
  large : Value.maxInt < Text.toNat ds

section
variable {s : Scanner} {c : Char} {ds t : Text} {index : Nat}

theorem beginning_fault {st : Step} (h : Beginning s c st) :
    st.fault = none ∨ ∃ i, st.fault = some ⟨.illegal c, i⟩ := by
  cases h with
  | opens _ => exact .inl rfl
  | single => exact .inl rfl
  | illegal => exact .inr ⟨_, rfl⟩

/-- The fault of a number leaves the scanner as it was, but for its place. -/
theorem overflowed_of_fault (h : (s.step c).fault = some { cause := .outOfRange ds, index }) :
    (s.step c).emitted = [] ∧ (s.step c).next.Overflowed index ds := by
  have hb : (s.begin c).fault ≠ some { cause := .outOfRange ds, index } := by
    rcases beginning_fault (begin_beginning s c) with hn | ⟨i, hi⟩
    · rw [hn]
      exact nofun
    · rw [hi]
      exact fun he => nomatch he
  have he := step_effect s c
  generalize s.step c = st at h he ⊢
  cases he with
  | begins _ => exact absurd h hb
  | goesOn _ _ => cases h
  | completes _ _ => cases h
  | ends _ _ => exact absurd h hb
  | overflows hm hl =>
    cases h
    exact ⟨rfl, hm, rfl, hl⟩

theorem Overflowed.step_digit (h : s.Overflowed index ds) (hc : Text.isDigit c) :
    s.step c = s.enter (.integer (ds ++ [c]).reverse) := by
  simp [step, h.mode, hc]

theorem Overflowed.step_other (h : s.Overflowed index ds) (hc : ¬ Text.isDigit c) :
    s.step c = s.fail (.outOfRange ds) := by
  have hr : ¬ ((Text.toNat ds : Int) ≤ Value.maxInt) := Int.not_le.2 h.large
  simp [step, h.mode, hc, completeInteger, hr]

/-- A digit is collected, and anything else is refused. -/
theorem Overflowed.next (h : s.Overflowed index ds) (c : Char) :
    (s.step c).emitted = [] ∧ (s.step c).next.Overflowed index (ds ++ [c].filter Text.isDigit) := by
  by_cases hc : Text.isDigit c
  · rw [h.step_digit hc, List.filter_cons_of_pos hc]
    have hl := toNat_le_concat ds c
    have hd := h.large
    exact ⟨rfl, rfl, h.start, by show _ < (Text.toNat (ds ++ [c]) : Int); omega⟩
  · rw [h.step_other hc, List.filter_cons_of_neg hc, List.filter_nil, List.append_nil]
    exact ⟨rfl, h.mode, h.start, h.large⟩

theorem Overflowed.after (h : s.Overflowed index ds) (t : Text) :
    s.tokens t = [] ∧ (s.after t).Overflowed index (ds ++ t.filter Text.isDigit) := by
  induction t generalizing s ds with
  | nil =>
    rw [List.filter_nil, List.append_nil]
    exact ⟨rfl, h.mode, h.start, h.large⟩
  | cons c t ih =>
    obtain ⟨he, hn⟩ := h.next c
    obtain ⟨ht, ha⟩ := ih hn
    rw [tokens_cons, he, ht]
    rw [List.append_assoc, ← List.filter_append] at ha
    exact ⟨rfl, ha⟩
end

/-- Once a number has been refused as out of range, the scanner keeps to it, whatever is fed: it has the digits of all
that came since, and begins where it began. No more tokens come. Every character but a digit is refused for that number
again, and so is the end of the text, since the number is not over. -/
theorem after_outOfRange {before ds : Text} {c : Char} {index : Nat}
    (h : ((fresh.after before).step c).fault = some { cause := .outOfRange ds, index }) (more : Text) :
    let s := fresh.after (before ++ c :: more)
    let kept := ds ++ more.filter Text.isDigit
    s.mode = .integer kept.reverse ∧ s.start = index ∧ fresh.tokens (before ++ c :: more) = fresh.tokens before ∧
      (∀ d, (s.step d).emitted = [] ∧
        (s.step d).fault = if Text.isDigit d then none else some { cause := .outOfRange kept, index }) ∧
      s.finish = .error { cause := .unterminated .integer, index } := by
  obtain ⟨he, ho⟩ := overflowed_of_fault h
  obtain ⟨ht, ha⟩ := ho.after more
  have hs : fresh.after (before ++ c :: more) = ((fresh.after before).step c).next.after more := after_append
  rw [hs, tokens_append, tokens_cons, he, ht]
  refine ⟨ha.mode, ha.start, List.append_nil _, fun d => ⟨(ha.next d).1, ?_⟩, ?_⟩
  · split
    · next hd => rw [ha.step_digit hd]; rfl
    · next hd =>
      rw [ha.step_other hd, ← ha.start]
      rfl
  · unfold finish
    rw [ha.mode, ← ha.start]
    rfl

/-- The number is over before the quote, and the digits of another one are added to it. -/
theorem after_outOfRange_glued :
    let before : Text := "x := 9999999999"
    let s := fresh.after (before ++ ';' :: "\"1/*2")
    ((fresh.after before).step ';').fault = some { cause := .outOfRange "9999999999", index := 5 } ∧
      s.mode = .integer ("999999999912" : Text).reverse ∧ s.start = 5 ∧
      fresh.tokens (before ++ ';' :: "\"1/*2") = fresh.tokens before ∧
      (∀ d, (s.step d).emitted = [] ∧
        (s.step d).fault = if Text.isDigit d then none else some { cause := .outOfRange "999999999912", index := 5 }) ∧
      s.finish = .error { cause := .unterminated .integer, index := 5 } := by
  intro before s
  have h : ((fresh.after before).step ';').fault = some { cause := .outOfRange "9999999999", index := 5 } := by decide
  exact ⟨h, after_outOfRange h "\"1/*2"⟩

end Scanner

end MiniPL
