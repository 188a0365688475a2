import MiniPL.Proofs.Failing
import MiniPL.Proofs.Spacing
/-!
# What the scanner has collected

What the scanner holds is told by what it has read since it began something (`Scanner.Reflects`). It began a lead or a
word with the first character of it, and has all of it. Of a string it has what is written so far, decoded. Of a number
it has the digits: other characters stand among them only if the number was refused before, which does not end it. All
of this is kept by every step, with a fault or without one, so it holds of every text that is fed
(`Scanner.after_reflects`).
-/

namespace MiniPL

namespace Scanner

section
variable {s : Scanner} {c : Char} {read a b t : Text} {ds : Text}

/-! ## A character that is refused -/

/-- After a character that begins nothing the scanner is between two tokens. -/
theorem idle_of_illegal (h : (s.step c).isIllegal) : (s.step c).next.mode = .idle := by
  have begins (hb : (s.begin c).isIllegal) : (s.begin c).next.mode = .idle := by
    have hc := begin_beginning s c
    generalize s.begin c = st at hb hc ⊢
    cases hc with
    | opens _ => cases hb
    | single => cases hb
    | illegal => rfl
  have he := step_effect s c
  generalize s.step c = st at h he ⊢
  cases he with
  | begins _ => exact begins h
  | goesOn _ _ => cases h
  | completes _ _ => cases h
  | ends _ _ => exact begins h
  | overflows _ _ => cases h

theorem feed_idle (s : Scanner) (t : Text) : ∀ st ∈ s.feed t, st.isIllegal → st.next.mode = .idle := by
  induction t generalizing s with
  | nil => simp [feed]
  | cons c t ih => exact List.forall_mem_cons.2 ⟨idle_of_illegal, ih _⟩

/-! ## Strings -/

/-- The text that is collected in a string is what is written there stands for. -/
def Mode.Decoded : Mode → Prop
  | .string body value => Denotes body.reverse value.reverse
  | .escape body value => Denotes body.reverse value.reverse
  | _ => True

theorem begin_decoded (s : Scanner) (c : Char) : (s.begin c).next.mode.Decoded := by
  unfold begin
  repeat' split
  · trivial
  · exact .nil
  all_goals trivial

/-- A string goes on with a character that stands for itself, or with a pair that a backslash has begun. -/
theorem Mode.Onward.decoded {m m' : Mode} (ho : m.Onward c m') (h : m.Decoded) : m'.Decoded := by
  cases ho with
  | @plain body value _ hq hs =>
    have hd : Denotes body.reverse value.reverse := h
    show Denotes (c :: body).reverse (c :: value).reverse
    rw [List.reverse_cons, List.reverse_cons]
    exact hd.append (.plain hq hs .nil)
  | escape => exact h
  | @pair body value =>
    have hd : Denotes body.reverse value.reverse := h
    show Denotes (c :: '\\' :: body).reverse ((unescape c).reverse ++ value).reverse
    have hp : Denotes ['\\', c] (unescape c) := by simpa using Denotes.escaped c .nil
    simpa using hd.append hp
  | _ => trivial

theorem step_decoded (h : s.mode.Decoded) (c : Char) : (s.step c).next.mode.Decoded := by
  have ht := s.step_turn c
  generalize s.step c = st at ht ⊢
  cases ht with
  | begins hb => exact hb ▸ begin_decoded s c
  | onward ho _ => exact ho.decoded h
  | refuses _ _ hr => exact hr ▸ h

/-! ## Numbers -/

/-- The step refuses a number as out of range. -/
def Step.isOutOfRange (st : Step) : Bool :=
  match st.fault with
  | some { cause := .outOfRange _, .. } => true
  | _ => false

/-- How the scanner comes to hold digits: the number begins, goes on, or is refused and kept. -/
inductive Digits (s : Scanner) (c : Char) (st : Step) : Text → Prop
  | begins : Text.isDigit c → st.next.start = s.position → Digits s c st [c]
  | goesOn {es} : s.mode = .integer es → Text.isDigit c → st.next.start = s.start → Digits s c st (c :: es)
  | refused {es} : s.mode = .integer es → ¬ Text.isDigit c → st.next.start = s.start → st.isOutOfRange →
      Digits s c st es

theorem begin_digits (h : (s.begin c).next.mode = .integer ds) :
    ds = [c] ∧ Text.isDigit c ∧ (s.begin c).next.start = s.position := by
  unfold begin at h ⊢
  repeat' split at h
  · cases h
  · cases h
  · next hb hq hd =>
    cases h
    rw [if_neg hb, if_neg hq, if_pos hd]
    exact ⟨rfl, hd, rfl⟩
  all_goals cases h

theorem step_digits (h : (s.step c).next.mode = .integer ds) : Digits s c (s.step c) ds := by
  have ht := s.step_turn c
  generalize s.step c = st at h ht ⊢
  cases ht with
  | begins hb =>
    rw [hb] at h
    obtain ⟨rfl, hd, hs⟩ := begin_digits h
    exact .begins hd (hb ▸ hs)
  | onward ho hs =>
    rw [h] at ho
    generalize hm : s.mode = m at ho
    cases ho with
    | digit hd => exact .goesOn hm hd hs
  | refuses hm hd hr =>
    subst hr
    cases hm.symm.trans h
    exact .refused hm hd rfl rfl

/-- The digits collected are those that came since the number began. Only digits came since, unless the number was
refused on the way. -/
structure Sifted (part : Text) (steps : List Step) (ds : Text) : Prop where
  digits : ds.reverse = part.filter Text.isDigit
  whole : (∀ st ∈ steps, ¬ st.isOutOfRange) → ds.reverse = part

theorem step_sifted {steps : List Step} (hh : Holds read s) (hl : steps.length = read.length)
    (h : ∀ es, s.mode = .integer es → Sifted (read.drop s.start) (steps.drop s.start) es)
    (hm : (s.step c).next.mode = .integer ds) : Sifted ((read ++ [c]).drop (s.step c).next.start)
      ((steps ++ [s.step c]).drop (s.step c).next.start) ds := by
  have hle : s.start ≤ steps.length := by
    rw [hl]
    exact hh.start
  have hd := step_digits hm
  generalize s.step c = st at hd ⊢
  -- What came since the start is what came before, and the character with its step.
  cases hd with
  | begins hc hs =>
    rw [hs, hh.position, List.drop_left]
    exact ⟨(List.filter_cons_of_pos (l := []) hc).symm, fun _ => rfl⟩
  | goesOn hi hc hs =>
    obtain ⟨hd, hw⟩ := h _ hi
    rw [hs, hh.drop_concat, List.drop_append_of_le_length hle]
    refine ⟨?_, fun hn => ?_⟩
    · rw [List.reverse_cons, hd, List.filter_append, List.filter_cons_of_pos hc, List.filter_nil]
    · rw [List.reverse_cons, hw fun st hst => hn st (List.mem_append_left _ hst)]
  | refused hi hc hs hf =>
    obtain ⟨hd, -⟩ := h _ hi
    rw [hs, hh.drop_concat, List.drop_append_of_le_length hle]
    refine ⟨?_, fun hn => absurd hf (hn st (List.mem_append_right _ (List.mem_singleton.2 rfl)))⟩
    rw [List.filter_append, List.filter_cons_of_neg hc, List.filter_nil, List.append_nil, hd]

/-! ## Along a text -/

/-- What is true of a scanner that has read a text in these steps. -/
structure Collected (read : Text) (steps : List Step) (s : Scanner) : Prop where
  holds : Holds read s
  fed : steps.length = read.length
  proper : s.mode.Proper
  decoded : s.mode.Decoded
  sifted : ∀ ds, s.mode = .integer ds → Sifted (read.drop s.start) (steps.drop s.start) ds

theorem collected_fresh : Collected [] [] fresh := ⟨holds_fresh, rfl, trivial, trivial, nofun⟩

variable {steps : List Step}

theorem Collected.step (h : Collected read steps s) (c : Char) :
    Collected (read ++ [c]) (steps ++ [s.step c]) (s.step c).next where
  holds := h.holds.step c
  fed := by rw [List.length_append, List.length_append, h.fed]; rfl
  proper := step_proper h.proper c
  decoded := step_decoded h.decoded c
  sifted _ hm := step_sifted h.holds h.fed h.sifted hm

theorem Collected.after (h : Collected read steps s) (t : Text) :
    Collected (read ++ t) (steps ++ s.feed t) (s.after t) := by
  induction t generalizing read steps s with
  | nil =>
    rw [feed, List.append_nil, List.append_nil]
    exact h
  | cons c t ih =>
    rw [feed, List.append_cons read, List.append_cons steps]
    exact ih (h.step c)

theorem feed_append : s.feed (a ++ b) = s.feed a ++ (s.after a).feed b := by
  induction a generalizing s with
  | nil => rfl
  | cons c a ih => exact congrArg (s.step c :: ·) ih

/-- Tokens that were emitted stay. -/
theorem tokens_prefix (s : Scanner) (h : a <+: b) : s.tokens a <+: s.tokens b := by
  obtain ⟨u, rfl⟩ := h
  rw [tokens_append]
  exact List.prefix_append _ _
end

/-! ## What is held -/

/-- What a scanner holds that has read the text up to a place. -/
def Reflects (code : Text) (n : Nat) (s : Scanner) : Prop :=
  match s.mode with
  | .lead l => s.mode.buffer = [l.char] ∧ l.char ∈ [':', '.', '/'] ∧ code[s.start]? = some l.char ∧ s.start + 1 = n
  | .word _ => s.mode.buffer = code.stretch s.start n ∧ IsWord s.mode.buffer
  | .integer _ => IsNumber s.mode.buffer ∧ s.mode.buffer = (code.stretch s.start n).filter Text.isDigit ∧
      ((∀ st ∈ ((fresh.feed code).take n).drop s.start, ¬ st.isOutOfRange) →
        s.mode.buffer = code.stretch s.start n)
  | .string .. => code[s.start]? = some '"' ∧ Denotes (code.stretch (s.start + 1) n) s.mode.buffer
  | .escape .. => code[s.start]? = some '"' ∧
      ∃ body, code.stretch (s.start + 1) n = body ++ ['\\'] ∧ Denotes body s.mode.buffer
  | _ => s.mode.buffer = []

/-- A stretch that is not empty begins with the character at its place. -/
theorem getElem?_of_stretch {code u : Text} {first past : Nat} {c : Char} (h : code.stretch first past = c :: u) :
    code[first]? = some c ∧ code.stretch (first + 1) past = u := by
  have hc : (code.take past)[first]? = some c := by
    rw [← List.head?_drop]
    exact congrArg List.head? h
  have hl : first < past := by
    have hn := (List.getElem?_eq_some_iff.1 hc).1
    rw [List.length_take] at hn
    omega
  constructor
  · rwa [List.getElem?_take_of_lt hl] at hc
  · rw [Text.stretch, ← List.tail_drop]
    exact congrArg List.tail h

theorem reflects_after {code : Text} {n : Nat} (hn : n ≤ code.length) :
    (fresh.after (code.take n)).Reflects code n := by
  have hc : Collected (code.take n) (fresh.feed (code.take n)) (fresh.after (code.take n)) :=
    collected_fresh.after (code.take n)
  have hf : fresh.feed (code.take n) = (fresh.feed code).take n := by
    have hl : (fresh.feed (code.take n)).length = n := by
      rw [hc.fed, List.length_take, Nat.min_eq_left hn]
    have ha := @feed_append fresh (code.take n) (code.drop n)
    rw [List.take_append_drop] at ha
    rw [ha, List.take_left' hl]
  obtain ⟨hh, -, hp, hd, hs⟩ := hc
  rw [hf] at hs
  -- All but a number is held as it was read.
  have hl : ∀ l ∈ (fresh.after (code.take n)).mode.lexeme?, ¬ (fresh.after (code.take n)).mode.TooLarge →
      code.stretch (fresh.after (code.take n)).start n = l := hh.lexeme
  generalize fresh.after (code.take n) = s at hp hd hs hl ⊢
  obtain ⟨mode, start, position⟩ := s
  unfold Reflects
  cases mode with
  | lead l =>
    have hst : code.stretch start n = [l.char] := hl _ rfl id
    have he : (code.stretch start n).length = n - start := by
      rw [Text.stretch, List.length_drop, List.length_take, Nat.min_eq_left hn]
    rw [hst, List.length_singleton] at he
    have hc : l.char ∈ [':', '.', '/'] := by cases l <;> decide
    exact ⟨rfl, hc, (getElem?_of_stretch hst).1, show start + 1 = n by omega⟩
  | word letters => exact ⟨(hl _ rfl id).symm, hp⟩
  | integer digits =>
    obtain ⟨hds, hw⟩ := hs digits rfl
    exact ⟨hp, hds, hw⟩
  | string body value =>
    obtain ⟨hq, hb⟩ := getElem?_of_stretch (hl _ rfl id)
    refine ⟨hq, ?_⟩
    rw [hb]
    exact hd
  | escape body value =>
    obtain ⟨hq, hb⟩ := getElem?_of_stretch (hl _ rfl id)
    exact ⟨hq, body.reverse, hb, hd⟩
  | _ => rfl

/-- However much of a text was fed, and whatever faults there were, the scanner holds what it has read since it began
something: a lead, all of a word, the digits of a number, or what the beginning of a string stands for. After a
character that begins nothing it is between two tokens. The tokens it has emitted stay. -/
theorem after_reflects {code : Text} {n : Nat} (hn : n ≤ code.length) :
    (fresh.after (code.take n)).Reflects code n ∧
      (∀ st ∈ fresh.feed code, st.isIllegal → st.next.mode = .idle) ∧
      ∀ k ≤ n, fresh.tokens (code.take k) <+: fresh.tokens (code.take n) := by
  refine ⟨reflects_after hn, fresh.feed_idle code, fun k hk => ?_⟩
  exact tokens_prefix fresh (List.take_prefix_take_left hk)

/-- The number is refused at the semicolon and at the blank, and the string after it is no string then. -/
theorem after_reflects_refused :
    let code : Text := "a#2147483648; \"1\""
    let s := fresh.after (code.take 16)
    s.mode = .integer ("21474836481" : Text).reverse ∧ s.start = 2 ∧ s.Reflects code 16 ∧
      (∀ st ∈ fresh.feed code, st.isIllegal → st.next.mode = .idle) ∧
      fresh.tokens (code.take 2) <+: fresh.tokens (code.take 16) := by
  intro code s
  obtain ⟨hr, hi, hk⟩ := @after_reflects code 16 (by decide)
  exact ⟨by decide, by decide, hr, hi, hk 2 (by decide)⟩

end Scanner

end MiniPL
