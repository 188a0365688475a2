import MiniPL.Proofs.Continuing
/-!
# A refused character is as good as a space

After a character that begins nothing the scanner is between two tokens, where a space would have left it too. So a text
is scanned as if it had a space for every such character (`Scanner.feed_spaced`). A token is the stretch of the text
where its lexeme was collected (`Scanner.Holds`), and no character that was refused stands within one.
-/

namespace MiniPL

/-- The part of a text from one place to another. -/
def Text.stretch (t : Text) (first past : Nat) : Text := (t.take past).drop first

theorem Text.stretch_append_left {t u : Text} {first past : Nat} (h : past ≤ t.length) :
    (t ++ u).stretch first past = t.stretch first past := by
  rw [stretch, stretch, List.take_append_of_le_length h]

namespace Scanner

/-! ## A character that is refused -/

/-- The character is refused because it begins nothing. -/
def Step.isIllegal (st : Step) : Bool :=
  match st.fault with
  | some { cause := .illegal _, .. } => true
  | _ => false

/-- The same step, but without a fault if its character begins nothing. -/
def Step.excused (st : Step) : Step := if st.isIllegal then { st with fault := none } else st

/-- The text with a space in place of every character that is refused because it begins nothing. -/
def spaced (s : Scanner) (t : Text) : Text :=
  List.zipWith (fun c st => if st.isIllegal then ' ' else c) t (s.feed t)

section
variable {s : Scanner} {c : Char} {t : Text}

@[simp] theorem Step.next_excused (st : Step) : st.excused.next = st.next := by
  unfold excused
  split <;> rfl

@[simp] theorem Step.emitted_excused (st : Step) : st.excused.emitted = st.emitted := by
  unfold excused
  split <;> rfl

theorem Step.excused_not_illegal (st : Step) : ¬ st.excused.isIllegal := by
  unfold excused
  split
  · exact Bool.false_ne_true
  · assumption

/-- Taken up as a beginning, a space leaves the scanner as a character does that begins nothing. -/
theorem begin_space (h : (s.begin c).isIllegal) : s.begin ' ' = (s.begin c).excused := by
  have hb := begin_beginning s c
  unfold Step.excused
  rw [if_pos h]
  generalize s.begin c = st at h hb
  cases hb with
  | opens _ => cases h
  | single => cases h
  | illegal => rfl

theorem completeBefore_space {kind : Token.Kind} {lexeme : Text} (h : (s.completeBefore c kind lexeme).isIllegal) :
    s.completeBefore ' ' kind lexeme = (s.completeBefore c kind lexeme).excused := by
  have hb : (s.begin c).isIllegal := h
  have hs := begin_space hb
  unfold Step.excused at hs ⊢
  rw [if_pos hb] at hs
  rw [if_pos h, completeBefore, hs]
  rfl

/-- Wherever a character begins nothing, a space does the same, but without a fault. -/
theorem step_space (h : (s.step c).isIllegal) : s.step ' ' = (s.step c).excused := by
  obtain ⟨mode, start, position⟩ := s
  cases mode with
  | idle => exact begin_space h
  | lineComment => exact absurd h Bool.false_ne_true
  | blockComment => exact absurd h Bool.false_ne_true
  | blockCommentStar => exact absurd h Bool.false_ne_true
  | lead l =>
    have hl : step ⟨.lead l, start, position⟩ ' ' = completeBefore ⟨.lead l, start, position⟩ ' ' l.kind [l.char] := by
      cases l <;> rfl
    rw [hl]
    simp only [step, resolve] at h ⊢
    split at h
    iterate 4 exact absurd h Bool.false_ne_true
    exact completeBefore_space h
  | string body value =>
    simp only [step] at h
    repeat' split at h
    all_goals exact absurd h Bool.false_ne_true
  | escape body value => exact absurd h Bool.false_ne_true
  | integer digits =>
    simp only [step, completeInteger] at h ⊢
    split at h
    · exact absurd h Bool.false_ne_true
    · next hc =>
      split at h
      · next hr =>
        rw [if_neg (by decide), if_pos hr, if_neg hc, if_pos hr]
        exact completeBefore_space h
      · exact absurd h Bool.false_ne_true
  | word letters =>
    simp only [step] at h ⊢
    split at h
    · exact absurd h Bool.false_ne_true
    · next hc =>
      rw [if_neg (by decide), if_neg hc]
      exact completeBefore_space h

theorem step_spaced (s : Scanner) (c : Char) :
    s.step (if (s.step c).isIllegal then ' ' else c) = (s.step c).excused := by
  split
  · next h => exact step_space h
  · next h => exact (if_neg h).symm

theorem spaced_cons :
    s.spaced (c :: t) = (if (s.step c).isIllegal then ' ' else c) :: (s.step c).next.spaced t := rfl

/-- Step by step, the scanner does over the text with spaces what it does over the text, but for the faults. -/
theorem feed_spaced_from (s : Scanner) (t : Text) : s.feed (s.spaced t) = (s.feed t).map Step.excused := by
  induction t generalizing s with
  | nil => rfl
  | cons c t ih =>
    rw [spaced_cons]
    simp only [feed, step_spaced, Step.next_excused, List.map_cons, ih]

theorem after_spaced (s : Scanner) (t : Text) : s.after (s.spaced t) = s.after t := by
  induction t generalizing s with
  | nil => rfl
  | cons c t ih =>
    rw [spaced_cons]
    simp only [after, step_spaced, Step.next_excused, ih]

theorem tokens_spaced (s : Scanner) (t : Text) : s.tokens (s.spaced t) = s.tokens t := by
  unfold tokens
  rw [feed_spaced_from, List.flatMap_map]
  exact congrArg (List.flatMap · _) (funext Step.emitted_excused)

/-! ## Where tokens stand -/

/-- What has been read of a lexeme is the end of the text read, from where the scanner began. -/
structure Holds (read : Text) (s : Scanner) : Prop where
  position : s.position = read.length
  start : s.start ≤ read.length
  lexeme : ∀ l ∈ s.mode.lexeme?, ¬ s.mode.TooLarge → read.drop s.start = l

theorem holds_fresh : Holds [] fresh := ⟨rfl, Nat.le_refl _, nofun⟩

variable {read : Text}

theorem Holds.drop_concat (h : Holds read s) (c : Char) : (read ++ [c]).drop s.start = read.drop s.start ++ [c] :=
  List.drop_append_of_le_length h.start

/-- What begins with a character has that character for its text. -/
theorem Holds.beginning (h : Holds read s) {st : Step} (hb : Beginning s c st) : Holds (read ++ [c]) st.next := by
  have hd : (read ++ [c]).drop s.position = [c] := by
    rw [h.position, List.drop_left]
  have hp : s.position + 1 = (read ++ [c]).length := by
    rw [h.position, List.length_append, List.length_singleton]
  have hs : s.position ≤ (read ++ [c]).length := by omega
  cases hb with
  | opens hm => exact ⟨hp, hs, fun l hl _ => hd.trans (hm l hl).symm⟩
  | single => exact ⟨hp, hs, nofun⟩
  | illegal => exact ⟨hp, hs, nofun⟩

theorem Holds.step (h : Holds read s) (c : Char) : Holds (read ++ [c]) (s.step c).next := by
  have hb := h.beginning (begin_beginning s c)
  have hp : s.position + 1 = (read ++ [c]).length := by
    rw [h.position, List.length_append, List.length_singleton]
  have hs : s.start ≤ (read ++ [c]).length := Nat.le_trans h.start (by simp)
  have he := step_effect s c
  generalize s.step c = st at he ⊢
  cases he with
  | begins _ => exact hb
  | goesOn hm ht =>
    refine ⟨hp, hs, fun l hl hn => ?_⟩
    obtain ⟨k, hk, rfl⟩ := hm l hl
    show (read ++ [c]).drop s.start = k ++ [c]
    rw [h.drop_concat, h.lexeme k hk fun hk => hn (ht hk)]
  | completes _ _ => exact ⟨hp, hs, nofun⟩
  | ends _ _ => exact hb
  | overflows hm hl =>
    refine ⟨hp, hs, fun l _ hn => absurd ?_ hn⟩
    show s.mode.TooLarge
    rw [hm]
    simpa [Mode.TooLarge] using hl

theorem Holds.stretch_last (h : Holds read s) (d : Char) :
    (read ++ [d]).stretch s.position (s.position + 1) = [d] := by
  have ht : (read ++ [d]).take (s.position + 1) = read ++ [d] := List.take_of_length_le (by simp [h.position])
  rw [Text.stretch, ht, h.position, List.drop_left]

theorem Holds.stretch_with (h : Holds read s) (d : Char) :
    (read ++ [d]).stretch s.start (s.position + 1) = read.drop s.start ++ [d] := by
  have ht : (read ++ [d]).take (s.position + 1) = read ++ [d] := List.take_of_length_le (by simp [h.position])
  rw [Text.stretch, ht, h.drop_concat]

theorem Holds.stretch_before (h : Holds read s) (d : Char) :
    (read ++ [d]).stretch s.start s.position = read.drop s.start := by
  rw [Text.stretch, h.position, List.take_left]

theorem beginning_emitted {st : Step} {tok : Token} (hb : Beginning s c st) (ht : tok ∈ st.emitted) :
    tok.lexeme = [c] ∧ ¬ st.isIllegal := by
  cases hb with
  | opens _ => cases ht
  | single =>
    rw [List.mem_singleton.1 ht]
    exact ⟨rfl, Bool.false_ne_true⟩
  | illegal => cases ht

/-- A token stands in the text where its lexeme was collected. If the character that ends it is refused, the token
stands there as well with any other character in that place. -/
theorem exists_stretch {tok : Token} (ht : tok ∈ (s.step c).emitted) : ∃ a b, b ≤ s.position + 1 ∧
    ∀ read d, Holds read s → d = c ∨ (s.step c).isIllegal → (read ++ [d]).stretch a b = tok.lexeme := by
  have first (hb : tok ∈ (s.begin c).emitted) : ∃ a b, b ≤ s.position + 1 ∧
      ∀ read d, Holds read s → d = c ∨ (s.begin c).isIllegal → (read ++ [d]).stretch a b = tok.lexeme := by
    obtain ⟨hl, hi⟩ := beginning_emitted (begin_beginning s c) hb
    refine ⟨s.position, s.position + 1, Nat.le_refl _, fun read d h hd => ?_⟩
    rw [h.stretch_last, hl, hd.resolve_right hi]
  have he := step_effect s c
  generalize s.step c = st at ht he ⊢
  cases he with
  | begins _ => exact first ht
  | goesOn _ _ => cases ht
  | @completes l kind hl hn =>
    rw [List.mem_singleton.1 ht]
    refine ⟨s.start, s.position + 1, Nat.le_refl _, fun read d h hd => ?_⟩
    rw [h.stretch_with, h.lexeme l hl hn, hd.resolve_right Bool.false_ne_true]
  | @ends l kind hl hn =>
    rcases List.mem_cons.1 ht with rfl | ht
    · refine ⟨s.start, s.position, Nat.le_succ _, fun read d h _ => ?_⟩
      rw [h.stretch_before, h.lexeme l hl hn]
    · exact first ht
  | overflows _ _ => cases ht

/-- Where two texts were read side by side, each token stands in both at one place. -/
theorem exists_stretch_spaced {read' : Text} {tok : Token} (h : Holds read s) (h' : Holds read' s)
    (ht : tok ∈ s.tokens t) :
    ∃ a b, (read ++ t).stretch a b = tok.lexeme ∧ (read' ++ s.spaced t).stretch a b = tok.lexeme := by
  induction t generalizing s read read' with
  | nil => cases ht
  | cons c t ih =>
    have hs := step_spaced s c
    rw [spaced_cons, List.append_cons read, List.append_cons read']
    have hd : (if (s.step c).isIllegal then ' ' else c) = c ∨ (s.step c).isIllegal := by
      by_cases hi : (s.step c).isIllegal
      · exact .inr hi
      · exact .inl (if_neg hi)
    generalize (if (s.step c).isIllegal then ' ' else c) = d at hs hd ⊢
    rw [tokens_cons, List.mem_append] at ht
    rcases ht with ht | ht
    · obtain ⟨a, b, hb, hst⟩ := exists_stretch ht
      refine ⟨a, b, ?_, ?_⟩
      · rw [Text.stretch_append_left (by simpa [h.position] using hb)]
        exact hst read c h (.inl rfl)
      · rw [Text.stretch_append_left (by simpa [h'.position] using hb)]
        exact hst read' d h' hd
    · refine ih (h.step c) ?_ ht
      have hn := h'.step d
      rwa [hs, Step.next_excused] at hn
end

/-- A text with a space for each character that was refused because it begins nothing is scanned step by step as the
text is, but without those faults: what the scanner holds is the same after every character, so are the tokens and the
other faults, and so is what comes of the end. Every token stands in both texts at one place, so that nothing was
replaced within a lexeme. -/
theorem feed_spaced (code : Text) :
    let spaced := fresh.spaced code
    fresh.feed spaced = (fresh.feed code).map Step.excused ∧
      (∀ st ∈ fresh.feed spaced, ¬ st.isIllegal) ∧
      fresh.outcome spaced = fresh.outcome code ∧
      ∀ tok ∈ fresh.tokens code, ∃ a b, code.stretch a b = tok.lexeme ∧ spaced.stretch a b = tok.lexeme := by
  have hf := feed_spaced_from fresh code
  refine ⟨hf, fun st hst => ?_, ?_, fun tok ht => exists_stretch_spaced holds_fresh holds_fresh ht⟩
  · rw [hf] at hst
    obtain ⟨st, -, rfl⟩ := List.mem_map.1 hst
    exact st.excused_not_illegal
  · unfold outcome
    rw [after_spaced, tokens_spaced]

/-- Two characters end a number and a word and are refused. Those in a string and a comment are kept. -/
theorem feed_spaced_glued :
    let code : Text := "1#x$\"#\"/*#*/"
    let tok : Token := { kind := .string "#", lexeme := "\"#\"" }
    let spaced := fresh.spaced code
    spaced = ("1 x \"#\"/*#*/" : Text) ∧ tok ∈ fresh.tokens code ∧
      fresh.feed spaced = (fresh.feed code).map Step.excused ∧
      (∀ st ∈ fresh.feed spaced, ¬ st.isIllegal) ∧
      fresh.outcome spaced = fresh.outcome code ∧
      ∃ a b, code.stretch a b = tok.lexeme ∧ spaced.stretch a b = tok.lexeme := by
  intro code tok spaced
  have hs : spaced = ("1 x \"#\"/*#*/" : Text) := by decide
  have ht : tok ∈ fresh.tokens code := by decide
  obtain ⟨hf, hi, ho, hst⟩ := feed_spaced code
  exact ⟨hs, ht, hf, hi, ho, hst tok ht⟩

end Scanner

end MiniPL
