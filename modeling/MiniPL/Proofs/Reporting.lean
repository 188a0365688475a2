import MiniPL.Diagnostic
import MiniPL.Proofs.Failing
import MiniPL.Proofs.Locating
/-!
# How a refused text is reported

The report has three lines: what is wrong, a window on the text, and a caret under the place. What is wrong and the
caret have no line boundary in them. The window has none of the two characters that it shows as spaces, but it shows
the other line boundaries as they are, and the handler breaks the report there.
-/

namespace MiniPL

namespace Text

/-! ## Lines -/

/-- No character of the text ends a line. -/
def Unbroken (t : Text) : Prop := ∀ c ∈ t, ¬ isLineBoundary c

instance (t : Text) : Decidable (Unbroken t) := List.decidableBAll (fun c => ¬ isLineBoundary c) t

variable {t u line : Text} {c : Char}

theorem unbroken_append : Unbroken (t ++ u) ↔ Unbroken t ∧ Unbroken u := List.forall_mem_append

theorem unbroken_cons : Unbroken (c :: t) ↔ ¬ isLineBoundary c ∧ Unbroken t := List.forall_mem_cons

theorem unbroken_reverse : Unbroken t.reverse ↔ Unbroken t := by
  unfold Unbroken
  simp only [List.mem_reverse]

theorem unbroken_replicate (h : ¬ isLineBoundary c) (n : Nat) : Unbroken (List.replicate n c) := by
  intro d hd
  rwa [List.eq_of_mem_replicate hd]

theorem isLineBoundary_iff : isLineBoundary c ↔ (((10 ≤ c.toNat ∧ c.toNat ≤ 13 ∨ 28 ≤ c.toNat ∧ c.toNat ≤ 30) ∨
    c.toNat = 133) ∨ c.toNat = 8232) ∨ c.toNat = 8233 := by
  simp [isLineBoundary]

theorem linesFrom_cons (h : ¬ isLineBoundary c) (line t : Text) : linesFrom line (c :: t) = linesFrom (c :: line) t := by
  rw [linesFrom]
  · exact if_neg h
  · rintro u rfl
    exact absurd (by decide) h

theorem linesFrom_append (h : Unbroken t) (line u : Text) : linesFrom line (t ++ u) = linesFrom (t.reverse ++ line) u := by
  induction t generalizing line with
  | nil => rfl
  | cons c t ih =>
    obtain ⟨hc, ht⟩ := unbroken_cons.1 h
    rw [List.cons_append, linesFrom_cons hc, ih ht, List.reverse_cons, List.append_assoc]
    rfl

theorem lines_append_feed (h : Unbroken t) (u : Text) : lines (t ++ '\n' :: u) = t :: lines u := by
  rw [lines, linesFrom_append h, List.append_nil, linesFrom]
  · rw [if_pos (by decide), List.reverse_reverse]
    rfl
  · intro v hv
    exact absurd hv (by decide)

theorem lines_of_unbroken (h : Unbroken t) (hn : t ≠ []) : lines t = [t] := by
  have hl := linesFrom_append h [] []
  rw [List.append_nil, List.append_nil] at hl
  rw [lines, hl, linesFrom, List.isEmpty_reverse, List.reverse_reverse]
  exact if_neg (by simpa using hn)

/-- No line has a line boundary in it. -/
theorem unbroken_of_mem_linesFrom (h : Unbroken line) : ∀ l ∈ linesFrom line t, Unbroken l := by
  fun_induction linesFrom line t with
  | case1 line he => simp
  | case2 line he => simpa using unbroken_reverse.2 h
  | case3 line t ih => exact List.forall_mem_cons.2 ⟨unbroken_reverse.2 h, ih (by decide)⟩
  | case4 line c t _ hc ih => exact List.forall_mem_cons.2 ⟨unbroken_reverse.2 h, ih (by decide)⟩
  | case5 line c t _ hc ih => exact ih (unbroken_cons.2 ⟨hc, h⟩)

/-! ## Quoted text -/

theorem not_printable {lo hi : Nat} (h : (lo, hi) ∈ unprintableRanges) (hlo : lo ≤ c.toNat) (hhi : c.toNat ≤ hi) :
    ¬ isPrintable c := by
  simp only [isPrintable, Bool.not_eq_true', Bool.not_eq_false, List.any_eq_true]
  exact ⟨(lo, hi), h, by simp [hlo, hhi]⟩

theorem not_boundary_of_printable (h : isPrintable c) : ¬ isLineBoundary c := by
  intro hb
  rw [isLineBoundary_iff] at hb
  have hm : (0x0, 0x1F) ∈ unprintableRanges ∧ (0x7F, 0xA0) ∈ unprintableRanges ∧ (0x2028, 0x202F) ∈ unprintableRanges := by
    decide +kernel
  by_cases h1 : c.toNat ≤ 0x1F
  · exact not_printable hm.1 (Nat.zero_le _) h1 h
  by_cases h2 : c.toNat ≤ 0xA0
  · exact not_printable hm.2.1 (by omega) h2 h
  · exact not_printable hm.2.2 (by omega) (by omega) h

theorem not_boundary_digitChar : ∀ n < 16, ¬ isLineBoundary n.digitChar := by decide

theorem unbroken_toDigits (n : Nat) : Unbroken (Nat.toDigits 16 n) := by
  induction n using Nat.strongRecOn with
  | _ n ih =>
    rw [Nat.toDigits_eq_if (by decide)]
    split
    · next hn => exact unbroken_cons.2 ⟨not_boundary_digitChar n hn, by decide⟩
    · refine unbroken_append.2 ⟨ih _ (by omega), unbroken_cons.2 ⟨?_, by decide⟩⟩
      exact not_boundary_digitChar _ (Nat.mod_lt _ (by decide))

/-- An escape by code point, whatever letter it begins with. -/
theorem unbroken_hex (h : ¬ isLineBoundary c) (width n : Nat) : Unbroken ('\\' :: c :: hex width n) := by
  have hx : Unbroken (hex width n) := unbroken_append.2 ⟨unbroken_replicate (by decide) _, unbroken_toDigits n⟩
  exact unbroken_cons.2 ⟨by decide, unbroken_cons.2 ⟨h, hx⟩⟩

theorem unbroken_escapeWithin {quote : Char} (hq : ¬ isLineBoundary quote) (c : Char) :
    Unbroken (escapeWithin quote c) := by
  unfold escapeWithin
  split
  · next hc =>
    refine unbroken_cons.2 ⟨by decide, unbroken_cons.2 ⟨?_, by decide⟩⟩
    rcases hc with rfl | rfl
    · exact hq
    · decide
  split
  · decide
  split
  · decide
  split
  · decide
  split
  · next hc => exact unbroken_cons.2 ⟨not_boundary_of_printable hc, by decide⟩
  split
  · exact unbroken_hex (by decide) _ _
  split
  · exact unbroken_hex (by decide) _ _
  · exact unbroken_hex (by decide) _ _

/-- A text is quoted on one line, whatever is in it. -/
theorem unbroken_quoted (t : Text) : Unbroken t.quoted := by
  have hq : ¬ isLineBoundary (quoteFor t) := by
    unfold quoteFor
    split <;> decide
  refine unbroken_cons.2 ⟨hq, unbroken_append.2 ⟨fun c hc => ?_, unbroken_cons.2 ⟨hq, by decide⟩⟩⟩
  obtain ⟨d, -, hd⟩ := List.mem_flatMap.1 hc
  exact unbroken_escapeWithin hq d c hd

end Text

/-! ## Messages -/

open Text (Unbroken unbroken_append unbroken_cons unbroken_quoted)

theorem unbroken_of_isNumber {ds : Text} (h : IsNumber ds) : Unbroken ds := by
  intro c hc hb
  have hd := isDigit_iff.1 (h.2 c hc)
  rw [Text.isLineBoundary_iff] at hb
  omega

theorem Stuck.unbroken {t : Text} {cause : Scanner.Cause} (h : Stuck t cause) : Unbroken cause.text := by
  cases h with
  | illegal _ _ _ => exact unbroken_append.2 ⟨by decide, unbroken_quoted _⟩
  | outOfRange hn _ _ => exact unbroken_append.2 ⟨unbroken_append.2 ⟨by decide, unbroken_of_isNumber hn⟩, by decide⟩
  | lead l => exact unbroken_append.2 ⟨by decide, unbroken_quoted _⟩
  | _ => decide

theorem Reader.unbroken_expectations : ∀ expected ∈ expectations, Unbroken expected := by decide +kernel

theorem Cursor.Cause.Usual.unbroken {cause : Cursor.Cause} (h : cause.Usual) : Unbroken cause.text := by
  cases cause with
  | unexpectedEnd expected => exact unbroken_append.2 ⟨by decide, Reader.unbroken_expectations _ h⟩
  | unexpected expected found =>
    have hl : Unbroken found.category.label := by cases found.category <;> decide
    refine unbroken_append.2 ⟨unbroken_append.2 ⟨unbroken_append.2 ⟨unbroken_append.2 ⟨?_, by decide⟩, hl⟩, by decide⟩,
      unbroken_quoted _⟩
    exact unbroken_append.2 ⟨by decide, Reader.unbroken_expectations _ h⟩
  | chainedOperator => decide +kernel
  | slotTaken => cases h

/-! ## Reports -/

/-- A window shows no line feed. -/
theorem Text.feed_not_mem_shown (t : Text) (index context : Nat) : '\n' ∉ (t.windowAt index context).shown := by
  have hd : ∀ cut, '\n' ∉ ellipsis cut := by decide
  intro h
  rcases List.mem_append.1 h with h | h
  · rcases List.mem_append.1 h with h | h
    · exact hd _ h
    · obtain ⟨c, -, hc⟩ := List.mem_map.1 h
      unfold flatten at hc
      split at hc
      · cases hc
      · next hn => exact hn (.inl hc)
  · exact hd _ h

namespace Failure

/-- The first line of a report: what is wrong. -/
def headline : Failure → Text
  | .scan _ f => "[Lexical error] " ++ f.cause.text
  | .read _ (.refused f) => "[Syntax error] " ++ f.cause.text
  | .read _ (.unknownOperator e) => e.text
  | .run f => f.render

/-- The window under it, if it is about a place in a text. -/
def window? : Failure → Option Text.Window
  | .scan code f => some (code.windowAt f.index 10)
  | .read ts (.refused f) => some ((Token.source ts).windowAt (Cursor.column ts f.index) 30)
  | _ => none

/-- A headline over a window, of which only the part of the text can have line boundaries, but no line feeds. -/
structure Over (f : Failure) (w : Text.Window) : Prop where
  window : f.window? = some w
  render : f.render = f.headline ++ '\n' :: (w.shown ++ '\n' :: w.caret)
  headline : Unbroken f.headline
  caret : ∃ n, w.caret = List.replicate n ' ' ++ ['^']
  shown : '\n' ∉ w.shown

theorem join_lines (head : Text) (w : Text.Window) :
    Text.join "\n" (head :: w.lines) = head ++ '\n' :: (w.shown ++ '\n' :: w.caret) := by
  unfold Text.join Text.Window.lines
  rw [List.intercalate_cons_cons, List.intercalate_cons_cons, List.intercalate_singleton, List.append_assoc,
    List.append_assoc]
  rfl

theorem exists_over {code : Text} {f : Failure} (h : Program.ofText code = .error f) : ∃ w, f.Over w := by
  rcases Program.ofText_error h with ⟨g, hs, rfl⟩ | ⟨ts, g, -, hg, rfl⟩
  · obtain ⟨us, rest, -, hst, -⟩ := (Token.scan_eq_error_iff code g).1 hs
    have hh : Unbroken (Failure.scan code g).headline := unbroken_append.2 ⟨by decide, hst.unbroken⟩
    exact ⟨_, rfl, join_lines _ _, hh, ⟨_, rfl⟩, code.feed_not_mem_shown _ _⟩
  · have hh : Unbroken (Failure.read ts (.refused g)).headline := unbroken_append.2 ⟨by decide, hg.unbroken⟩
    exact ⟨_, rfl, join_lines _ _, hh, ⟨_, rfl⟩, (Token.source ts).feed_not_mem_shown _ _⟩

variable {f : Failure} {w : Text.Window}

theorem Over.stacked (h : f.Over w) : Diagnostic.stacked [f.headline, w.shown, w.caret] = f.render ++ "\n" := by
  rw [h.render]
  simp [Diagnostic.stacked]

theorem Over.lines (h : f.Over w) (hs : Unbroken w.shown) : f.render.lines = [f.headline, w.shown, w.caret] := by
  obtain ⟨n, hn⟩ := h.caret
  have hc : Unbroken (List.replicate n ' ' ++ ['^']) :=
    unbroken_append.2 ⟨Text.unbroken_replicate (by decide) n, by decide⟩
  rw [h.render, Text.lines_append_feed h.headline, Text.lines_append_feed hs, hn, Text.lines_of_unbroken hc (by simp)]

end Failure

namespace Diagnostic

/-- Of lines without line boundaries, those that stand below one another have line feeds and no others. -/
theorem eq_feed_of_mem_stacked {ls : List Text} (h : ∀ l ∈ ls, Unbroken l) {c : Char} (hc : c ∈ stacked ls)
    (hb : Text.isLineBoundary c) : c = '\n' := by
  induction ls with
  | nil => cases hc
  | cons l ls ih =>
    obtain ⟨hl, hls⟩ := List.forall_mem_cons.1 h
    rcases List.mem_append.1 hc with hc | hc
    · rcases List.mem_append.1 hc with hc | hc
      · exact absurd hb (hl c hc)
      · exact List.mem_singleton.1 hc
    · exact ih hls hc

theorem written_plain (ls : List Text) : written false ls = stacked ls := by
  cases ls <;> rfl

/-- What a handler without colours writes about a text that is no program is the report, with a line feed at its end,
exactly if the window shows no line boundary. These are then three lines: what is wrong, the window, and the caret. -/
theorem written_report {code : Text} {f : Failure} (h : Program.ofText code = .error f) :
    ∃ w, f.window? = some w ∧ f.render ++ "\n" = stacked [f.headline, w.shown, w.caret] ∧
      (((Handler.fresh false false).handle (some (.report f.render))).written = f.render ++ "\n" ↔ Unbroken w.shown) ∧
      (f.render.lines = [f.headline, w.shown, w.caret] ↔ Unbroken w.shown) := by
  obtain ⟨w, hw⟩ := Failure.exists_over h
  have hl : ∀ l ∈ f.render.lines, Unbroken l := Text.unbroken_of_mem_linesFrom (by decide)
  have hwritten : ((Handler.fresh false false).handle (some (.report f.render))).written = stacked f.render.lines :=
    written_plain _
  refine ⟨w, hw.window, hw.stacked.symm, ⟨fun he c hc hb => ?_, fun hs => ?_⟩, fun he => ?_, hw.lines⟩
  · -- The character would be in what is written, so it would be a line feed, which no window shows.
    have hm : c ∈ f.render ++ "\n" := by
      rw [hw.render]
      simp [hc]
    rw [← he, hwritten] at hm
    exact hw.shown (eq_feed_of_mem_stacked hl hm hb ▸ hc)
  · rw [hwritten, hw.lines hs, hw.stacked]
  · exact hl w.shown (by simp [he])

/-- Blanks that a window shows as they are, but no line boundary. -/
theorem written_report_blank :
    let code : Text := "print 1;\u00a0\n\t\u3000#"
    let f : Failure := .scan code { cause := .illegal '#', index := 12 }
    let written := ((Handler.fresh false false).handle (some (.report f.render))).written
    Program.ofText code = .error f ∧ written = f.render ++ "\n" ∧ f.render.lines.length = 3 := by
  intro code f written
  have hf : Program.ofText code = .error f := by decide +kernel
  obtain ⟨w, hw, -, hwritten, hlines⟩ := written_report hf
  have hs : Unbroken w.shown := by
    cases hw
    decide +kernel
  exact ⟨hf, hwritten.2 hs, by rw [hlines.2 hs]; rfl⟩

/-- The scanner takes U+0085 for a blank, the window shows it, and the handler breaks the line there. -/
theorem not_written_report_next_line :
    let code : Text := "ab\u0085#"
    ∃ f, Program.ofText code = .error f ∧
      ((Handler.fresh false false).handle (some (.report f.render))).written ≠ f.render ++ "\n" ∧
      f.render.lines.length = 4 := by
  intro code
  exact ⟨.scan code { cause := .illegal '#', index := 3 }, by decide +kernel, by decide +kernel, by decide +kernel⟩

end Diagnostic

end MiniPL
