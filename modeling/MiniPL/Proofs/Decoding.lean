import MiniPL.Proofs.Failing
import MiniPL.Proofs.Numerals
/-!
# A line of input is the value that it shows

What a line says is the text that it leaves between blanks (`Text.Says`), and `Value.Shows` says which texts show which
values of a type. A line is taken for the value that its text shows, and for nothing else: the input is at fault if the
text shows none. What `print` writes for a value shows it, so it is read back, whatever blanks are put around it.
-/

namespace MiniPL

/-! ## What a line says -/

namespace Text

/-- The text stands in the line between blanks, and neither begins nor ends with one. -/
structure Says (line t : Text) : Prop where
  between : ∃ u w, line = u ++ t ++ w ∧ (∀ c ∈ u, isBlank c) ∧ ∀ c ∈ w, isBlank c
  first : ∀ c ∈ t.head?, ¬ isBlank c
  last : ∀ c ∈ t.getLast?, ¬ isBlank c

section
variable {line t u w : Text} {c : Char}

theorem stripLeft_append (hu : ∀ c ∈ u, isBlank c) (ht : ∀ c ∈ t.head?, ¬ isBlank c) : stripLeft (u ++ t) = t := by
  unfold stripLeft
  rw [List.dropWhile_append_of_pos hu]
  cases t with
  | nil => rfl
  | cons c t => exact List.dropWhile_cons_of_neg (ht c rfl)

theorem stripRight_append (hw : ∀ c ∈ w, isBlank c) (ht : ∀ c ∈ t.getLast?, ¬ isBlank c) :
    stripRight (t ++ w) = t := by
  have h : stripLeft (w.reverse ++ t.reverse) = t.reverse :=
    stripLeft_append (by simpa using hw) (by simpa using ht)
  show (stripLeft (t ++ w).reverse).reverse = t
  rw [List.reverse_append, h, List.reverse_reverse]

theorem stripLeft_cut (t : Text) : ∃ u, t = u ++ t.stripLeft ∧ ∀ c ∈ u, isBlank c :=
  ⟨t.takeWhile isBlank, List.takeWhile_append_dropWhile.symm, List.all_eq_true.1 List.all_takeWhile⟩

theorem not_blank_stripLeft (h : c ∈ t.stripLeft.head?) : ¬ isBlank c := by
  have hn := List.head?_dropWhile_not isBlank t
  rw [show (t.dropWhile isBlank).head? = some c from h] at hn
  simpa using hn

theorem stripRight_cut (t : Text) : ∃ w, t = t.stripRight ++ w ∧ ∀ c ∈ w, isBlank c := by
  obtain ⟨u, hu, hb⟩ := stripLeft_cut t.reverse
  refine ⟨u.reverse, ?_, by simpa using hb⟩
  have h := congrArg List.reverse hu
  rwa [List.reverse_reverse, List.reverse_append] at h

theorem not_blank_stripRight (h : c ∈ t.stripRight.getLast?) : ¬ isBlank c := by
  refine not_blank_stripLeft (t := t.reverse) ?_
  rwa [stripRight, List.getLast?_reverse] at h

/-- Every line says what is left of it when it is stripped. -/
theorem says_strip (line : Text) : line.Says line.strip := by
  obtain ⟨u, hu, hub⟩ := stripLeft_cut line
  obtain ⟨w, hw, hwb⟩ := stripRight_cut line.stripLeft
  refine ⟨⟨u, w, ?_, hub, hwb⟩, fun c hc => ?_, fun c hc => not_blank_stripRight hc⟩
  · rw [List.append_assoc]
    exact hu.trans (congrArg (u ++ ·) hw)
  · -- The end that is cut off does not reach the beginning, unless nothing is left.
    refine not_blank_stripLeft (t := line) ?_
    rw [hw, List.head?_append]
    exact Option.mem_def.2 (by rw [show line.stripLeft.stripRight.head? = some c from hc]; rfl)

/-- A line says one thing only. -/
theorem Says.strip_eq (h : line.Says t) : line.strip = t := by
  obtain ⟨⟨u, w, rfl, hu, hw⟩, hf, hl⟩ := h
  unfold strip
  cases t with
  | nil =>
    -- A line of blanks is gone from the left already.
    have hb : ∀ c ∈ u ++ [] ++ w, isBlank c := by simpa [or_imp, forall_and] using ⟨hu, hw⟩
    have hs : stripLeft (u ++ [] ++ w) = [] := by simpa using stripLeft_append hb (t := []) (by simp)
    rw [hs]
    rfl
  | cons c t =>
    rw [List.append_assoc, stripLeft_append hu (by simpa using hf)]
    exact stripRight_append hw hl

theorem says_iff : line.Says t ↔ line.strip = t := ⟨Says.strip_eq, fun h => h ▸ says_strip line⟩

/-- What a line says is the same with more blanks around it. -/
theorem Says.padded (h : t.Says t) (hu : ∀ c ∈ u, isBlank c) (hw : ∀ c ∈ w, isBlank c) : (u ++ t ++ w).Says t :=
  ⟨⟨u, w, rfl, hu, hw⟩, h.first, h.last⟩

theorem says_of_not_blank (h : ∀ c ∈ t, ¬ isBlank c) : t.Says t :=
  ⟨⟨[], [], by simp, by simp, by simp⟩, fun c hc => h c (List.mem_of_mem_head? hc),
    fun c hc => h c (List.mem_of_mem_getLast? hc)⟩

end

end Text

/-! ## What a text shows -/

namespace Value

/-- The text shows the value, which is of the type. -/
inductive Shows : Ty → Text → Value → Prop
  | int {t n} : Signed t n → InRange n → Shows .int t (.int n)
  | bool (b : Bool) : Shows .bool (boolWord b) (.bool b)
  | string (t : Text) : Shows .string t (.string t)

/-- The value can be entered as it is displayed: an integer has a place in 32 bits, and a string neither begins nor ends
with a blank. -/
def Enterable : Value → Prop
  | .int n => InRange n
  | .bool _ => True
  | .string s => s.Says s

section
variable {wanted : Ty} {t : Text} {v : Value} {n : Int}

/-- A stripped line is taken for the value that it shows. -/
theorem ofStripped_eq_ok_iff : ofStripped wanted t = .ok v ↔ Shows wanted t v := by
  cases wanted with
  | string =>
    refine ⟨fun h => ?_, fun h => (by cases h; rfl)⟩
    cases h
    exact .string t
  | bool =>
    constructor
    · intro h
      simp only [ofStripped] at h
      split at h
      · next ht => cases h; exact ht ▸ .bool true
      · split at h
        · next ht => cases h; exact ht ▸ .bool false
        · cases h
    · intro h
      cases h with
      | bool b => cases b <;> rfl
  | int =>
    constructor
    · intro h
      simp only [ofStripped] at h
      split at h
      · cases h
      · next n hn =>
        split at h
        · next hr => cases h; exact .int (signed?_eq_some_iff.1 hn) hr
        · cases h
    · intro h
      cases h with
      | int hn hr =>
        simp only [ofStripped, signed?_eq_some_iff.2 hn]
        exact if_pos hr

/-- No blank is in a number. -/
theorem not_blank_of_signed (h : Signed t n) : ∀ c ∈ t, ¬ Text.isBlank c := by
  have hd : ∀ {ds k}, Decimal ds k → ∀ c ∈ ds, ¬ Text.isBlank c := fun h c hc =>
    not_blank_of_isWordChar (isWordChar_of_isDigit (h.isNumber.2 c hc))
  cases h with
  | plain h => exact hd h
  | plus h => exact List.forall_mem_cons.2 ⟨by decide, hd h⟩
  | minus h => exact List.forall_mem_cons.2 ⟨by decide, hd h⟩

/-- What is displayed shows the value, and there are no blanks to strip. -/
theorem Enterable.displayed (h : v.Enterable) : Shows v.ty v.display v ∧ v.display.Says v.display := by
  cases v with
  | int n =>
    have hn : Signed (Text.ofInt n) n := signed_ofInt n
    exact ⟨.int hn h, Text.says_of_not_blank (not_blank_of_signed hn)⟩
  | bool b => exact ⟨.bool b, Text.says_of_not_blank fun c hc => not_blank_of_isWordChar ((isWord_boolWord b).2.1 c hc)⟩
  | string s => exact ⟨.string s, h⟩
end

/-- A line says what is left of it when it is stripped, and nothing else. It is taken for a value of a type exactly if
it says a text that shows the value, and the input is at fault if that text shows none. In particular, what is displayed
for a value that can be entered is taken for that value, whatever blanks stand around it. -/
theorem ofLine_shown (wanted : Ty) (line : Text) :
    (∀ t, line.Says t ↔ line.strip = t) ∧
      (∀ v, ofLine wanted line = .ok v ↔ Shows wanted line.strip v) ∧
      ((∀ v, ¬ Shows wanted line.strip v) → ∃ f, ofLine wanted line = .error f ∧ f.kind = .input) ∧
      ∀ v u w, v.Enterable → v.ty = wanted → (∀ c ∈ u, Text.isBlank c) → (∀ c ∈ w, Text.isBlank c) →
        line = u ++ v.display ++ w → ofLine wanted line = .ok v := by
  refine ⟨fun t => Text.says_iff, fun v => ofStripped_eq_ok_iff, fun h => ?_, ?_⟩
  · rcases ofLine_cases wanted line with ⟨v, hv, -⟩ | hf
    · exact absurd (ofStripped_eq_ok_iff.1 hv) (h v)
    · exact hf
  · rintro v u w hv rfl hu hw rfl
    obtain ⟨hs, hd⟩ := hv.displayed
    refine ofStripped_eq_ok_iff.2 ?_
    rwa [(hd.padded hu hw).strip_eq]

/-- The least integer between an em space and a line end that is no line feed, and a sign without digits. -/
theorem ofLine_shown_minInt :
    let v : Value := .int minInt
    let line : Text := "\u2003-2147483648\u0085"
    (v.Enterable ∧ line = ['\u2003'] ++ v.display ++ ['\u0085'] ∧ ofLine .int line = .ok v) ∧
      (∀ v, ¬ Shows .int (Text.strip " + ") v) ∧ ∃ f, ofLine .int " + " = .error f ∧ f.kind = .input := by
  intro v line
  have hv : v.Enterable := show InRange minInt by decide
  have hl : line = ['\u2003'] ++ v.display ++ ['\u0085'] := by decide
  obtain ⟨-, -, -, hr⟩ := ofLine_shown .int line
  obtain ⟨-, hs, he, -⟩ := ofLine_shown .int " + "
  have hn : ∀ v, ¬ Shows .int (Text.strip " + ") v := by
    intro v h
    have hf : ofLine .int " + " = .error (.malformedInput .int "+") := by decide
    rw [(hs v).2 h] at hf
    cases hf
  have hu : ∀ c ∈ ['\u2003'], Text.isBlank c := List.forall_mem_singleton.2 (by decide)
  have hw : ∀ c ∈ ['\u0085'], Text.isBlank c := List.forall_mem_singleton.2 (by decide)
  exact ⟨⟨hv, hl, hr v _ _ hv rfl hu hw hl⟩, hn, he hn⟩

end Value

end MiniPL
