import MiniPL.Proofs.Outcomes
import MiniPL.Proofs.Scanning
/-!
# A fault is where a text is stuck

The scanner refuses a text at the place up to which it is cut into pieces and where no further piece begins
(`Token.scan_eq_error_iff`). The pieces before that place are the same if the text breaks off there with a line feed
(`Splits.broken`), and a stuck text is stuck for one cause only (`Stuck.unique`).
-/

namespace MiniPL

open Scanner (Cause)

section
variable {p t u rest : Text} {kind : Option Token.Kind} {cause cause' : Cause} {c d : Char} {ts : List Token}

theorem Stuck.ne_nil (h : Stuck t cause) : t ≠ [] := by
  cases h with
  | integer hn => exact hn.1
  | word hw => exact hw.1
  | _ => simp

/-- The scanner gives one cause, and every cause is the one that it gives. -/
theorem Stuck.unique (h : Stuck t cause) (h' : Stuck t cause') : cause = cause' := by
  have he := (Scanner.scan_stuck h 0).symm.trans (Scanner.scan_stuck h' 0)
  cases he
  rfl

/-- Of what follows a piece only the first character counts, and a line feed is as good as that one. -/
theorem Piece.before_feed (h : Piece p (c :: rest) kind) (hd : d = c ∨ d = '\n') : Piece p (d :: u) kind := by
  have keep {P : Char → Prop} (hc : P c) (hf : P '\n') : P d := by
    rcases hd with rfl | rfl
    · exact hc
    · exact hf
  cases h with
  | blank hb => exact .blank hb
  | lineComment hb => exact .lineComment hb
  | blockComment hb => exact .blockComment hb
  | integer hn hv hc => exact .integer hn hv (keep (P := fun c => ¬ Text.isDigit c) hc (by decide))
  | word hw hc hk => exact .word hw (keep (P := fun c => ¬ Text.isWordChar c) hc (by decide)) hk
  | string hb => exact .string hb
  | assignment => exact .assignment
  | range => exact .range
  | typeMark hc => exact .typeMark (keep (P := (· ≠ '=')) hc (by decide))
  | dot hc => exact .dot (keep (P := (· ≠ '.')) hc (by decide))
  | slash hl hb => exact .slash (keep (P := (· ≠ '/')) hl (by decide)) (keep (P := (· ≠ '*')) hb (by decide))
  | bracketOpen => exact .bracketOpen
  | bracketClose => exact .bracketClose
  | statementEnd => exact .statementEnd
  | operator ho => exact .operator ho

/-- A text that breaks off between two pieces, with a line feed, is cut into the pieces before that place. -/
theorem Splits.broken (h : Splits t ts rest) (hr : rest ≠ []) :
    ∃ a, t = a ++ rest ∧ Splits (a ++ ['\n']) ts [] := by
  induction h with
  | done => exact ⟨[], rfl, .piece (.blank (by decide)) .done⟩
  | @piece p t kind ts rest hp _ ih =>
    obtain ⟨a, rfl, hs⟩ := ih hr
    refine ⟨p ++ a, (List.append_assoc ..).symm, ?_⟩
    rw [List.append_assoc]
    refine .piece ?_ hs
    -- After the last piece comes the line feed now; after any other piece nothing has changed.
    cases a with
    | nil =>
      obtain ⟨c, u, rfl⟩ := List.exists_cons_of_ne_nil hr
      exact hp.before_feed (.inr rfl)
    | cons c a => exact hp.before_feed (.inl rfl)
end

namespace Token

/-- The scanner refuses a text exactly if it is cut into pieces up to the index of the fault and is stuck there for
the cause. -/
theorem scan_eq_error_iff (code : Text) (f : Scanner.Fault) : scan code = .error f ↔
    ∃ ts rest, Splits code ts rest ∧ Stuck rest f.cause ∧ f.index = code.length - rest.length := by
  constructor
  · intro h
    rcases splits_or_stuck code with ⟨ts, hs⟩ | ⟨ts, rest, cause, hs, hst⟩
    · have ho : scan code = .ok ts := Scanner.scan_of_splits hs 0
      rw [ho] at h
      cases h
    · have he : scan code = .error { cause, index := code.length - rest.length } := Scanner.scan_of_stuck hs hst
      rw [he] at h
      cases h
      exact ⟨ts, rest, hs, hst, rfl⟩
  · rintro ⟨ts, rest, hs, hst, hi⟩
    have he : scan code = .error { cause := f.cause, index := code.length - rest.length } :=
      Scanner.scan_of_stuck hs hst
    rw [he, ← hi]

/-- The index of a fault cuts the text into what scans, with a line feed after it, and what is stuck. -/
theorem scan_error_cut {code : Text} {f : Scanner.Fault} (h : scan code = .error f) : ∃ a rest ts,
    code = a ++ rest ∧ f.index = a.length ∧ scan (a ++ ['\n']) = .ok ts ∧ Stuck rest f.cause := by
  obtain ⟨ts, rest, hs, hst, hi⟩ := (scan_eq_error_iff code f).1 h
  obtain ⟨a, rfl, hb⟩ := hs.broken hst.ne_nil
  refine ⟨a, rest, ts, rfl, ?_, Scanner.scan_of_splits hb 0, hst⟩
  rw [hi, List.length_append]
  omega

end Token

end MiniPL
