import MiniPL.Value.Input
import MiniPL.Proofs.Pieces
/-!
# Numerals

What a text of digits writes, digit by digit (`Decimal`), and what it writes with a sign (`Signed`). The values that the
scanner and a line of input compute are these: `decimal_iff` for digits alone, `Value.signed?_eq_some_iff` with a sign.
-/

namespace MiniPL

/-- The digits write the number in decimal, the first digit being worth most. -/
inductive Decimal : Text → Nat → Prop
  | digit {d} : d < 10 → Decimal [d.digitChar] d
  | next {ds n d} : Decimal ds n → d < 10 → Decimal (ds ++ [d.digitChar]) (10 * n + d)

/-- One or more digits, with or without a sign before them, write the integer. -/
inductive Signed : Text → Int → Prop
  | plain {ds n} : Decimal ds n → Signed ds n
  | plus {ds n} : Decimal ds n → Signed ('+' :: ds) n
  | minus {ds n} : Decimal ds n → Signed ('-' :: ds) (-n)

section
variable {c : Char} {d n : Nat} {ds t : Text} {i : Int}

/-! ## Digits -/

theorem isDigit_digitChar (hd : d < 10) : Text.isDigit d.digitChar := by
  rw [isDigit_iff, Nat.toNat_digitChar_of_lt_ten hd]
  omega

theorem digitChar_worth (hd : d < 10) : d.digitChar.toNat - '0'.toNat = d := by
  rw [Nat.toNat_digitChar_of_lt_ten hd]
  exact Nat.add_sub_cancel_left ..

theorem exists_digitChar (h : Text.isDigit c) : ∃ d < 10, c = d.digitChar := by
  obtain ⟨hl, hu⟩ := isDigit_iff.1 h
  have hd : c.toNat - 48 < 10 := by omega
  refine ⟨c.toNat - 48, hd, Char.toNat_inj.1 ?_⟩
  rw [Nat.toNat_digitChar_of_lt_ten hd]
  omega

theorem Decimal.isNumber (h : Decimal ds n) : IsNumber ds := by
  induction h with
  | digit hd => exact ⟨by simp, by simpa using isDigit_digitChar hd⟩
  | next _ hd ih =>
    refine ⟨by simp, List.forall_mem_append.2 ⟨ih.2, ?_⟩⟩
    simpa using isDigit_digitChar hd

theorem Decimal.toNat (h : Decimal ds n) : Text.toNat ds = n := by
  induction h with
  | digit hd => exact (Nat.zero_add _).trans (digitChar_worth hd)
  | next _ hd ih => rw [Text.toNat_concat, ih, digitChar_worth hd]

/-- Every run of digits writes the number that it is read as, and no other. -/
theorem decimal_iff : Decimal ds n ↔ IsNumber ds ∧ Text.toNat ds = n := by
  constructor
  · exact fun h => ⟨h.isNumber, h.toNat⟩
  rintro ⟨⟨hn, hds⟩, rfl⟩
  -- A number grows at its end, so the induction is on the digits from the last one on.
  obtain ⟨rs, rfl⟩ : ∃ rs : Text, ds = rs.reverse := ⟨ds.reverse, ds.reverse_reverse.symm⟩
  induction rs with
  | nil => exact absurd rfl hn
  | cons c rs ih =>
    rw [List.reverse_cons] at hds ⊢
    rw [List.forall_mem_append] at hds
    obtain ⟨d, hd, rfl⟩ := exists_digitChar (hds.2 c (by simp))
    rw [Text.toNat_concat, digitChar_worth hd]
    by_cases he : rs.reverse = []
    · rw [he, show 10 * Text.toNat [] + d = d from Nat.zero_add d]
      exact .digit hd
    · exact .next (ih he hds.1) hd

theorem isDigit_of_mem_toDigits (hc : c ∈ Nat.toDigits 10 n) : Text.isDigit c := by
  have h := Nat.isDigit_of_mem_toDigits (by decide) (by decide) hc
  rw [Char.isDigit_iff_toNat] at h
  exact isDigit_iff.2 h

theorem toNat_toDigits (n : Nat) : Text.toNat (Nat.toDigits 10 n) = n := Nat.ofDigitChars_ten_toDigits

theorem decimal_toDigits (n : Nat) : Decimal (Nat.toDigits 10 n) n :=
  decimal_iff.2 ⟨⟨Nat.toDigits_ne_nil, fun _ hc => isDigit_of_mem_toDigits hc⟩, toNat_toDigits n⟩

/-- The decimal form of an integer writes it. -/
theorem signed_ofInt (i : Int) : Signed (Text.ofInt i) i := by
  cases i with
  | ofNat n => exact .plain (decimal_toDigits n)
  | negSucc n => exact .minus (decimal_toDigits (n + 1))

namespace Value

theorem digits?_eq_some_iff : digits? t = some ds ↔ ds = t ∧ IsNumber t := by
  unfold digits? IsNumber
  split
  · next h =>
    have hn : t ≠ [] ∧ ∀ c ∈ t, Text.isDigit c := by simpa using h
    exact ⟨fun he => ⟨(Option.some.inj he).symm, hn⟩, fun he => congrArg some he.1.symm⟩
  · next h =>
    refine ⟨fun he => (by cases he), fun he => absurd ?_ h⟩
    simpa using he.2

theorem digits?_map_eq_some_iff {f : Nat → Int} :
    (digits? t).map (fun ds => f (Text.toNat ds)) = some i ↔ ∃ n, Decimal t n ∧ f n = i := by
  simp only [Option.map_eq_some_iff, digits?_eq_some_iff, decimal_iff]
  constructor
  · rintro ⟨ds, ⟨rfl, hn⟩, hi⟩
    exact ⟨_, ⟨hn, rfl⟩, hi⟩
  · rintro ⟨_, ⟨hn, rfl⟩, hi⟩
    exact ⟨t, ⟨rfl, hn⟩, hi⟩

/-- Without a sign, the digits are all there is. -/
theorem signed?_of_isNumber (h : IsNumber t) :
    signed? t = (digits? t).map fun ds => (Text.toNat ds : Int) := by
  unfold signed?
  split
  · exact absurd (h.2 '+' (by simp)) (by decide)
  · exact absurd (h.2 '-' (by simp)) (by decide)
  · rfl

/-- What is read as an integer is what writes it. -/
theorem signed?_eq_some_iff : signed? t = some i ↔ Signed t i := by
  constructor
  · intro h
    unfold signed? at h
    split at h
    · obtain ⟨n, hd, rfl⟩ := digits?_map_eq_some_iff.1 h
      exact .plus hd
    · obtain ⟨n, hd, rfl⟩ := (digits?_map_eq_some_iff (f := fun n => -(n : Int))).1 h
      exact .minus hd
    · obtain ⟨n, hd, rfl⟩ := digits?_map_eq_some_iff.1 h
      exact .plain hd
  · intro h
    cases h with
    | plain hd =>
      rw [signed?_of_isNumber hd.isNumber]
      exact digits?_map_eq_some_iff.2 ⟨_, hd, rfl⟩
    | plus hd => exact digits?_map_eq_some_iff.2 ⟨_, hd, rfl⟩
    | minus hd => exact (digits?_map_eq_some_iff (f := fun n => -(n : Int))).2 ⟨_, hd, rfl⟩

theorem signed?_ofInt (i : Int) : signed? (Text.ofInt i) = some i := signed?_eq_some_iff.2 (signed_ofInt i)

end Value
end

end MiniPL
