import MiniPL.Proofs.Failing
import MiniPL.Proofs.Locating
import MiniPL.Proofs.Refusing
import MiniPL.Proofs.Reporting
import MiniPL.Proofs.Rescanning
/-!
# The caret is under the place

A window shows the stretch of a text around a place, and `Text.Window.Marks` says where its caret is. The place of a
scanner's fault is where the text is stuck, and no text is stuck at a blank. The place of a refused token is counted
in the line of source of the tokens up to it, and that line is the beginning of the line of all of them
(`Token.prefix_source`).
-/

namespace MiniPL

namespace Text

/-! ## Windows -/

/-- How far from the left the caret stands. -/
def Window.column (w : Window) : Nat := w.caret.length - 1

/-- The character that the caret stands under. -/
def Window.above? (w : Window) : Option Char := w.shown[w.column]?

/-- The window shows the text around a place and points there. The empty text has nothing to cut, but it has three dots
on the left if the place is further away than the window reaches. -/
structure Window.Marks (w : Window) (t : Text) (index context : Nat) : Prop where
  caret : w.caret = List.replicate w.column ' ' ++ ['^']
  within : ∀ c, t[index]? = some c → w.above? = some (flatten c)
  past : index = t.length → w.column = w.shown.length
  cut : ∃ left middle right, t = left ++ middle ++ right ∧ left = t.take (index - context) ∧
    right = t.drop (index + context) ∧
    w.shown = ellipsis (left ≠ [] ∨ t = [] ∧ context < index) ++ middle.map flatten ++ ellipsis (right ≠ [])

section
variable (t : Text) (index context : Nat)

theorem decide_sub_pos : decide (0 < index - context) = decide (context < index) :=
  decide_eq_decide.2 Nat.sub_pos_iff_lt

/-- The stretch of the text that its window shows. -/
def around : Text := (t.take (index + context)).drop (index - context)

theorem take_around_drop : t.take (index - context) ++ t.around index context ++ t.drop (index + context) = t := by
  have h : t.take (index - context) = (t.take (index + context)).take (index - context) := by
    rw [List.take_take, Nat.min_eq_left (by omega)]
  rw [h, around, List.take_append_drop, List.take_append_drop]

theorem shown_windowAt : (t.windowAt index context).shown =
    ellipsis (context < index) ++ (t.around index context).map flatten ++ ellipsis (index + context < t.length) := by
  have hr : decide (min t.length (index + context) < t.length) = decide (index + context < t.length) := by
    rw [decide_eq_decide]
    omega
  rw [around, List.take_eq_take_min, Nat.min_comm]
  simp only [windowAt, decide_sub_pos, hr]

theorem column_windowAt : (t.windowAt index context).column =
    (ellipsis (context < index)).length + (index - (index - context)) := by
  simp only [Window.column, windowAt, decide_sub_pos, List.length_append, List.length_replicate,
    List.length_singleton]
  omega

/-- A place in the text is as far into the stretch that is shown as its beginning is before it. -/
theorem getElem?_around (hc : 1 ≤ context) : (t.around index context)[index - (index - context)]? = t[index]? := by
  rw [around, List.getElem?_drop, List.getElem?_take_of_lt (by omega)]
  congr 1
  omega

theorem length_around_end (hi : index = t.length) : (t.around index context).length = index - (index - context) := by
  rw [around, List.length_drop, List.length_take]
  omega

/-- Dots stand on the right exactly if the text goes on there. -/
theorem drop_ne_nil_iff : t.drop (index + context) ≠ [] ↔ index + context < t.length := by
  rw [Ne, List.drop_eq_nil_iff]
  omega

theorem take_ne_nil_or_iff :
    (t.take (index - context) ≠ [] ∨ t = [] ∧ context < index) ↔ context < index := by
  rw [Ne, List.take_eq_nil_iff]
  by_cases ht : t = []
  · simp [ht]
  · simp only [ht, or_false, false_and]
    omega

theorem windowAt_marks (hc : 1 ≤ context) : (t.windowAt index context).Marks t index context where
  caret := by simp [Window.column, windowAt]
  within c h := by
    -- The caret is past the dots, if there are any, by as much as the place is past the beginning of the stretch.
    rw [Window.above?, shown_windowAt, column_windowAt, List.append_assoc,
      List.getElem?_append_right (Nat.le_add_right _ _), Nat.add_sub_cancel_left]
    have ha := (getElem?_around t index context hc).trans h
    rw [List.getElem?_append_left, List.getElem?_map, ha]
    · rfl
    · rw [List.length_map]
      exact (List.getElem?_eq_some_iff.1 ha).1
  past h := by
    have hr : ¬ index + context < t.length := by omega
    rw [shown_windowAt, column_windowAt, decide_eq_false hr, List.length_append, List.length_append, List.length_map,
      length_around_end t index context h]
    rfl
  cut := by
    refine ⟨_, _, _, (take_around_drop t index context).symm, rfl, rfl, ?_⟩
    rw [shown_windowAt]
    simp only [take_ne_nil_or_iff, drop_ne_nil_iff]
end

/-- Where the first of two texts ends, the second begins. -/
theorem getElem?_append_length (t u : Text) : (t ++ u)[t.length]? = u.head? := by
  rw [List.getElem?_append_right (Nat.le_refl _), Nat.sub_self, List.head?_eq_getElem?]

/-! ## What lexemes begin with -/

/-- The text begins with a character that is no blank. -/
def Unindented (t : Text) : Prop := ∃ c, t.head? = some c ∧ ¬ isBlank c

theorem flatten_of_not_blank {c : Char} (h : ¬ isBlank c) : flatten c = c := by
  refine if_neg ?_
  rintro (rfl | rfl) <;> exact h (by decide)

end Text

open Text (Unindented)

theorem unindented_cons {c : Char} (h : ¬ Text.isBlank c) (t : Text) : Unindented (c :: t) := ⟨c, rfl, h⟩

theorem Text.Unindented.append {t : Text} (h : Unindented t) (u : Text) : Unindented (t ++ u) := by
  obtain ⟨c, hc, hb⟩ := h
  exact ⟨c, by rw [List.head?_append, hc]; rfl, hb⟩

theorem IsNumber.unindented {ds : Text} (h : IsNumber ds) : Unindented ds := by
  obtain ⟨c, u, rfl⟩ := List.exists_cons_of_ne_nil h.1
  exact unindented_cons (not_blank_of_isWordChar (isWordChar_of_isDigit (h.2 c List.mem_cons_self))) u

theorem IsWord.unindented {w : Text} (h : IsWord w) : Unindented w := by
  obtain ⟨c, u, rfl⟩ := List.exists_cons_of_ne_nil h.1
  exact unindented_cons (not_blank_of_isWordChar (h.2.1 c List.mem_cons_self)) u

theorem Token.IsLexeme.unindented {t : Token} (h : t.IsLexeme) : Unindented t.lexeme := by
  obtain ⟨_, h⟩ := h
  revert h
  generalize t.lexeme = p
  generalize hk : some t.kind = kind
  intro h
  cases h with
  | integer hn _ _ => exact hn.unindented
  | word hw _ _ => exact hw.unindented
  | @operator op _ _ => exact unindented_cons (by cases op <;> decide) []
  | blank _ | lineComment _ | lastComment _ | blockComment _ => cases hk
  | _ => exact unindented_cons (by decide) _

theorem Stuck.unindented {t : Text} {cause : Scanner.Cause} (h : Stuck t cause) : Unindented t := by
  cases h with
  | illegal hb _ _ => exact unindented_cons hb _
  | outOfRange hn _ _ => exact hn.unindented.append _
  | integer hn => exact hn.unindented
  | word hw => exact hw.unindented
  | lead l => exact unindented_cons (by cases l <;> decide) []
  | _ => exact unindented_cons (by decide) _

/-! ## Places in a line of source -/

namespace Token

theorem prefix_sourceAfter (s : Token) (ts us : List Token) : sourceAfter s ts <+: sourceAfter s (ts ++ us) := by
  induction ts generalizing s with
  | nil => exact List.nil_prefix
  | cons t ts ih =>
    rw [List.cons_append, sourceAfter, sourceAfter]
    exact (List.prefix_append_right_inj _).2 (ih t)

/-- What stands between two tokens depends on the two alone, so more tokens only make the line longer. -/
theorem prefix_source (ts us : List Token) : source ts <+: source (ts ++ us) := by
  cases ts with
  | nil => exact List.nil_prefix
  | cons t ts => exact (List.prefix_append_right_inj _).2 (prefix_sourceAfter t ts us)

theorem suffix_sourceAfter (s t : Token) (ts : List Token) : t.lexeme <:+ sourceAfter s (ts ++ [t]) := by
  induction ts generalizing s with
  | nil =>
    rw [List.nil_append, sourceAfter, sourceAfter, List.append_nil]
    exact List.suffix_append _ _
  | cons r ts ih =>
    rw [List.cons_append, sourceAfter]
    exact (ih r).trans (List.suffix_append _ _)

theorem suffix_source (t : Token) (ts : List Token) : t.lexeme <:+ source (ts ++ [t]) := by
  cases ts with
  | nil => exact ⟨[], (List.append_nil t.lexeme).symm⟩
  | cons s ts => exact (suffix_sourceAfter s t ts).trans (List.suffix_append _ _)

/-- The column of a token is where its lexeme begins. -/
theorem getElem?_source {ts : List Token} {k : Nat} {t : Token} {c : Char} (ht : ts[k]? = some t)
    (hc : t.lexeme.head? = some c) : (source ts)[Cursor.column ts k]? = some c := by
  obtain ⟨hk, he⟩ := List.getElem?_eq_some_iff.1 ht
  have htake : ts.take (k + 1) = ts.take k ++ [t] := by rw [List.take_succ_eq_append_getElem hk, he]
  obtain ⟨v, hv⟩ := suffix_source t (ts.take k)
  obtain ⟨u, hu⟩ := prefix_source (ts.take (k + 1)) (ts.drop (k + 1))
  rw [List.take_append_drop, htake, ← hv] at hu
  have hcol : Cursor.column ts k = v.length := by
    simp [Cursor.column, ht, htake, ← hv]
  rw [hcol, ← hu, List.append_assoc, Text.getElem?_append_length, List.head?_append, hc]
  rfl

theorem column_length (ts : List Token) : Cursor.column ts ts.length = (source ts).length := by
  simp [Cursor.column]

end Token

/-! ## The two lines under a message -/

namespace Text

/-- Nothing of the empty text is cut, but a window that does not reach back to its end has dots on the left. -/
theorem dots_without_cut : ¬ ∃ left middle right, ([] : Text) = left ++ middle ++ right ∧
    (windowAt [] 11 10).shown = ellipsis (left ≠ []) ++ middle.map flatten ++ ellipsis (right ≠ []) := by
  rintro ⟨left, middle, right, h, hs⟩
  obtain ⟨hm, rfl⟩ := List.append_eq_nil_iff.1 h.symm
  obtain ⟨rfl, rfl⟩ := List.append_eq_nil_iff.1 hm
  exact absurd hs (by decide)

/-- A window marks its place. Under the message about a character is a window that marks the character where the text
is stuck, as it is. Under the message about a token is a window on the line of source of the tokens, which marks the
first character of the lexeme, or which marks the end of that line if more tokens are expected. -/
theorem caret_under_place :
    (∀ (t : Text) (index context : Nat), 1 ≤ context → (t.windowAt index context).Marks t index context) ∧
    (∀ (code : Text) (f : Scanner.Fault), Token.scan code = .error f →
      let w := code.windowAt f.index 10
      f.render code = "[Lexical error] " ++ f.cause.text ++ '\n' :: (w.shown ++ '\n' :: w.caret) ∧
        ∃ c, code[f.index]? = some c ∧ w.above? = some c) ∧
    ∀ (code : Text) (ts : List Token) (e : Reader.Fault), Token.scan code = .ok ts → Program.ofTokens ts = .error e →
      ∃ f : Cursor.Fault, e = .refused f ∧
        let w := (Token.source ts).windowAt (Cursor.column ts f.index) 30
        f.render ts = "[Syntax error] " ++ f.cause.text ++ '\n' :: (w.shown ++ '\n' :: w.caret) ∧
          ((∃ t c, ts[f.index]? = some t ∧ t.lexeme.head? = some c ∧ w.above? = some c) ∨
            f.index = ts.length ∧ w.column = w.shown.length) := by
  refine ⟨windowAt_marks, fun code f h => ?_, fun code ts e hs he => ?_⟩
  · obtain ⟨a, rest, -, rfl, hi, -, hst⟩ := Token.scan_error_cut h
    obtain ⟨c, hr, hb⟩ := hst.unindented
    have hc : (a ++ rest)[f.index]? = some c := by rw [hi, getElem?_append_length, hr]
    have hw := windowAt_marks (a ++ rest) f.index 10 (by decide)
    exact ⟨Failure.join_lines _ _, c, hc, by rw [hw.within c hc, flatten_of_not_blank hb]⟩
  · obtain ⟨f, rfl⟩ := Program.refused_of_scan hs he
    have hw := windowAt_marks (Token.source ts) (Cursor.column ts f.index) 30 (by decide)
    refine ⟨f, rfl, Failure.join_lines _ _, ?_⟩
    rcases Nat.lt_or_eq_of_le (Program.refusal_of_refused he).1 with hi | hi
    · have hl := isLexeme_of_splits (Token.splits_of_scan hs) _ (List.getElem_mem hi)
      obtain ⟨c, hc, hb⟩ := hl.unindented
      have ht : ts[f.index]? = some ts[f.index] := List.getElem?_eq_getElem hi
      refine .inl ⟨_, c, ht, hc, ?_⟩
      rw [hw.within c (Token.getElem?_source ht hc), flatten_of_not_blank hb]
    · exact .inr ⟨hi, hw.past (by rw [hi, Token.column_length])⟩

/-- A number between a tab and another one, of which the window shows no more than a part, and a token after a bracket
in a line that is not the text. -/
theorem caret_under_place_bracket :
    let number : Text := "print (1\n+\t 2147483648\t)\n;"
    let f : Scanner.Fault := { cause := .outOfRange "2147483648", index := 12 }
    let code : Text := "print ( 1\n+ 2 ) 3;"
    let ts : List Token := [⟨.keyword .print, "print"⟩, ⟨.bracketOpen, "("⟩, ⟨.integer 1, "1"⟩, ⟨.operator "+", "+"⟩,
      ⟨.integer 2, "2"⟩, ⟨.bracketClose, ")"⟩, ⟨.integer 3, "3"⟩, ⟨.statementEnd, ";"⟩]
    let g : Cursor.Fault := { cause := .unexpected "';'" ⟨.integer 3, "3"⟩, index := 6 }
    Token.scan number = .error f ∧ (number.windowAt 12 10).Marks number 12 10 ∧
      (number.windowAt 12 10).above? = some '2' ∧
      Token.scan code = .ok ts ∧ Program.ofTokens ts = .error (.refused g) ∧
      ((Token.source ts).windowAt 14 30).above? = some '3' := by
  intro number f code ts g
  have hf : Token.scan number = .error f := by decide +kernel
  have hs : Token.scan code = .ok ts := by decide +kernel
  have hg : Program.ofTokens ts = .error (.refused g) := by decide +kernel
  have ⟨hmarks, hscan, hread⟩ := caret_under_place
  obtain ⟨-, c, hc, ha⟩ := hscan number f hf
  cases hc
  obtain ⟨_, hg', -, hplace⟩ := hread code ts _ hs hg
  cases hg'
  refine ⟨hf, hmarks number 12 10 (by decide), ha, hs, hg, ?_⟩
  rcases hplace with ⟨t, c, ht, hc, ha⟩ | ⟨hi, -⟩
  · cases ht
    cases hc
    exact ha
  · cases hi

end Text

end MiniPL
