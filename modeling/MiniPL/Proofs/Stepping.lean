import MiniPL.Scanner
/-!
# How a mode goes on

A step begins something new with its character, or goes on with what is in the making, or refuses a number and keeps
it. What is kept of a mode is shown for each way in which it can go on (`Mode.Onward`), and only `step_turn` looks into
a step for it.
-/

namespace MiniPL

namespace Scanner

/-- How a mode goes on with a character. Between two tokens and in a comment nothing is collected. -/
inductive Mode.Onward : Mode → Char → Mode → Prop
  | idle {m : Mode} {c : Char} : Onward m c .idle
  | lineComment {m : Mode} {c : Char} : Onward m c .lineComment
  | blockComment {m : Mode} {c : Char} : Onward m c .blockComment
  | blockCommentStar {m : Mode} {c : Char} : Onward m c .blockCommentStar
  | plain {body value : Text} {c : Char} : c ≠ '"' → c ≠ '\\' →
      Onward (.string body value) c (.string (c :: body) (c :: value))
  | escape {body value : Text} : Onward (.string body value) '\\' (.escape body value)
  | pair {body value : Text} {c : Char} :
      Onward (.escape body value) c (.string (c :: '\\' :: body) ((unescape c).reverse ++ value))
  | digit {ds : Text} {c : Char} : Text.isDigit c → Onward (.integer ds) c (.integer (c :: ds))
  | letter {w : Text} {c : Char} : Text.isWordChar c → Onward (.word w) c (.word (c :: w))

/-- What a step makes of what is in the making. -/
inductive Turn (s : Scanner) (c : Char) (st : Step) : Prop
  | begins : st.next = (s.begin c).next → Turn s c st
  | onward : s.mode.Onward c st.next.mode → st.next.start = s.start → Turn s c st
  | refuses {ds : Text} : s.mode = .integer ds → ¬ Text.isDigit c → st = s.fail (.outOfRange ds.reverse) → Turn s c st

theorem step_turn (s : Scanner) (c : Char) : Turn s c (s.step c) := by
  obtain ⟨mode, start, position⟩ := s
  cases mode with
  | idle => exact .begins rfl
  | lineComment =>
    simp only [step]
    split
    · exact .onward .idle rfl
    · exact .onward .lineComment rfl
  | blockComment =>
    simp only [step]
    split
    · exact .onward .blockCommentStar rfl
    · exact .onward .blockComment rfl
  | blockCommentStar =>
    simp only [step]
    repeat' split
    · exact .onward .idle rfl
    · exact .onward .blockCommentStar rfl
    · exact .onward .blockComment rfl
  | lead l =>
    simp only [step, resolve]
    split
    · exact .onward .idle rfl
    · exact .onward .idle rfl
    · exact .onward .lineComment rfl
    · exact .onward .blockComment rfl
    · exact .begins rfl
  | string body value =>
    simp only [step]
    split
    · exact .onward .idle rfl
    · next hq =>
      split
      · next hs =>
        rw [hs]
        exact .onward .escape rfl
      · next hs => exact .onward (.plain hq hs) rfl
  | escape body value => exact .onward .pair rfl
  | integer ds =>
    simp only [step, completeInteger]
    split
    · next hd => exact .onward (.digit hd) rfl
    · next hd =>
      split
      · exact .begins rfl
      · exact .refuses rfl hd rfl
  | word w =>
    simp only [step]
    split
    · next hw => exact .onward (.letter hw) rfl
    · exact .begins rfl

end Scanner

end MiniPL
