import MiniPL.Proofs.Grammar
import MiniPL.Proofs.Pieces
/-!
# Programs that can be written

A tree can hold any text as a name and any integer as a literal; source cannot. `Program.WellFormed` says of
which programs the names and the integers have a lexeme, and `wellFormed_of_spelled` that tokens spell no
other program if each of them has a value that its lexeme can stand for.
-/

namespace MiniPL

open Token (Kind)

/-! ## Names and integers of a tree -/

mutual

/-- Every name in an expression. -/
def Expr.names : Expr → List Text
  | .simple a => a.names
  | .unary _ a => a.names
  | .binary a _ b => a.names ++ b.names

def Operand.names : Operand → List Text
  | .literal _ => []
  | .variable x => [x]
  | .group e => e.names

end

mutual

/-- Every integer literal in an expression. -/
def Expr.integers : Expr → List Int
  | .simple a => a.integers
  | .unary _ a => a.integers
  | .binary a _ b => a.integers ++ b.integers

def Operand.integers : Operand → List Int
  | .literal (.int n) => [n]
  | .literal _ => []
  | .variable _ => []
  | .group e => e.integers

end

mutual

/-- Every name in a statement: declared, assigned, read, counted with or evaluated. -/
def Stmt.names : Stmt → List Text
  | .declare x _ none => [x]
  | .declare x _ (some e) => x :: e.names
  | .assign x e => x :: e.names
  | .loop x a b body => x :: (a.names ++ (b.names ++ Stmt.blockNames body))
  | .read x => [x]
  | .print e => e.names
  | .assert e => e.names
  | .empty => []

def Stmt.blockNames : List Stmt → List Text
  | [] => []
  | s :: body => s.names ++ Stmt.blockNames body

end

mutual

/-- Every integer literal in a statement. -/
def Stmt.integers : Stmt → List Int
  | .declare _ _ none => []
  | .declare _ _ (some e) => e.integers
  | .assign _ e => e.integers
  | .loop _ a b body => a.integers ++ (b.integers ++ Stmt.blockIntegers body)
  | .read _ => []
  | .print e => e.integers
  | .assert e => e.integers
  | .empty => []

def Stmt.blockIntegers : List Stmt → List Int
  | [] => []
  | s :: body => s.integers ++ Stmt.blockIntegers body

end

/-! ## Well-formed programs -/

/-- A word that stands for nothing but itself. -/
def IsName (w : Text) : Prop := IsWord w ∧ (∀ k : Keyword, w ≠ k.word) ∧ ∀ b, w ≠ Value.boolWord b

/-- An integer that a run of digits can stand for: a sign is an operator. -/
def IsLiteral (n : Int) : Prop := 0 ≤ n ∧ n ≤ Value.maxInt

/-- The names and the integers of a tree have lexemes. -/
structure Writable (names : List Text) (integers : List Int) : Prop where
  names : ∀ x ∈ names, IsName x
  integers : ∀ n ∈ integers, IsLiteral n

/-- Every name in the program is a name and every integer is a literal. -/
def Program.WellFormed (p : Program) : Prop := Writable (Stmt.blockNames p) (Stmt.blockIntegers p)

section
variable {xs ys : List Text} {ms ns : List Int} {x : Text} {n : Int}

@[simp] theorem writable_nil : Writable [] [] := ⟨by simp, by simp⟩

@[simp] theorem writable_append : Writable (xs ++ ys) (ms ++ ns) ↔ Writable xs ms ∧ Writable ys ns := by
  constructor
  · rintro ⟨hx, hn⟩
    rw [List.forall_mem_append] at hx hn
    exact ⟨⟨hx.1, hn.1⟩, ⟨hx.2, hn.2⟩⟩
  · rintro ⟨⟨hx, hm⟩, ⟨hy, hn⟩⟩
    exact ⟨List.forall_mem_append.2 ⟨hx, hy⟩, List.forall_mem_append.2 ⟨hm, hn⟩⟩

@[simp] theorem writable_name : Writable (x :: xs) ns ↔ IsName x ∧ Writable xs ns := by
  constructor
  · rintro ⟨hx, hn⟩
    rw [List.forall_mem_cons] at hx
    exact ⟨hx.1, hx.2, hn⟩
  · rintro ⟨hx, hxs, hn⟩
    exact ⟨List.forall_mem_cons.2 ⟨hx, hxs⟩, hn⟩

@[simp] theorem writable_integer : Writable [] [n] ↔ IsLiteral n :=
  ⟨fun h => h.integers n (by simp), fun h => ⟨by simp, by simpa using h⟩⟩
end

/-! ## Tokens with lexemes -/

/-- Some lexeme stands for the kind. Only names and integers can fail to have one. -/
def Token.Kind.HasLexeme : Kind → Prop
  | .identifier x => IsName x
  | .integer n => IsLiteral n
  | _ => True

theorem Piece.hasLexeme {p t : Text} {kind : Kind} (h : Piece p t (some kind)) : kind.HasLexeme := by
  cases h with
  | integer _ hm _ => exact ⟨Int.natCast_nonneg _, hm⟩
  | word hw _ hk =>
    cases hk with
    | keyword => trivial
    | boolean => trivial
    | name hk hb => exact ⟨hw, hk, hb⟩
  | _ => trivial

theorem Splits.hasLexeme {a rest : Text} {ts : List Token} (h : Splits a ts rest) :
    ∀ kind ∈ ts.map Token.kind, kind.HasLexeme := by
  induction h with
  | done => simp
  | @piece p t kind ts rest hp _ ih =>
    cases kind with
    | none => simpa using ih
    | some kind => simpa using ⟨hp.hasLexeme, by simpa using ih⟩

/-! ## What such tokens spell -/

mutual

theorem Expr.writable_of_spelled {e : Expr} {ks : List Kind} (h : e.Spelled ks) (hk : ∀ k ∈ ks, k.HasLexeme) :
    Writable e.names e.integers := by
  cases e with
  | simple a => cases h with | simple ha => exact Operand.writable_of_spelled ha hk
  | unary op a =>
    cases h with
    | unary ha => exact Operand.writable_of_spelled ha (List.forall_mem_cons.1 hk).2
  | binary a op b =>
    cases h with
    | binary ha hb =>
      rw [List.forall_mem_append, List.forall_mem_cons] at hk
      exact writable_append.2 ⟨Operand.writable_of_spelled ha hk.1, Operand.writable_of_spelled hb hk.2.2⟩

theorem Operand.writable_of_spelled {a : Operand} {ks : List Kind} (h : a.Spelled ks)
    (hk : ∀ k ∈ ks, k.HasLexeme) : Writable a.names a.integers := by
  cases a with
  | literal v =>
    cases h with
    | integer n => exact writable_integer.2 (List.forall_mem_cons.1 hk).1
    | string s => exact writable_nil
    | boolean b => exact writable_nil
  | «variable» x =>
    cases h with
    | «variable» => exact writable_name.2 ⟨(List.forall_mem_cons.1 hk).1, writable_nil⟩
  | group e =>
    cases h with
    | group he =>
      rw [List.forall_mem_cons, List.forall_mem_append] at hk
      exact Expr.writable_of_spelled he hk.2.1

end

mutual

theorem Stmt.writable_of_spelled {s : Stmt} {ks : List Kind} (h : s.Spelled ks) (hk : ∀ k ∈ ks, k.HasLexeme) :
    Writable s.names s.integers := by
  cases s with
  | declare x ty e =>
    cases h with
    | declare =>
      simp only [List.forall_mem_cons] at hk
      exact writable_name.2 ⟨hk.2.1, writable_nil⟩
    | declareTo he =>
      simp only [List.forall_mem_cons, List.forall_mem_append] at hk
      exact writable_name.2 ⟨hk.2.1, Expr.writable_of_spelled he hk.2.2.2.2.2.1⟩
  | assign x e =>
    cases h with
    | assign he =>
      simp only [List.forall_mem_cons, List.forall_mem_append] at hk
      exact writable_name.2 ⟨hk.1, Expr.writable_of_spelled he hk.2.2.1⟩
  | loop x a b body =>
    cases h with
    | loop ha hb hm =>
      simp only [List.forall_mem_cons, List.forall_mem_append] at hk
      obtain ⟨-, hx, -, hka, -, hkb, -, hkm, -⟩ := hk
      refine writable_name.2 ⟨hx, writable_append.2 ⟨Expr.writable_of_spelled ha hka, ?_⟩⟩
      exact writable_append.2 ⟨Expr.writable_of_spelled hb hkb, Stmt.writable_of_blockSpelled hm hkm⟩
  | read x =>
    cases h with
    | read =>
      simp only [List.forall_mem_cons] at hk
      exact writable_name.2 ⟨hk.2.1, writable_nil⟩
  | print e =>
    cases h with
    | print he =>
      simp only [List.forall_mem_cons, List.forall_mem_append] at hk
      exact Expr.writable_of_spelled he hk.2.1
  | assert e =>
    cases h with
    | assert he =>
      simp only [List.forall_mem_cons, List.forall_mem_append] at hk
      exact Expr.writable_of_spelled he hk.2.2.1
  | empty => exact writable_nil

theorem Stmt.writable_of_blockSpelled {body : List Stmt} {ks : List Kind} (h : Stmt.BlockSpelled body ks)
    (hk : ∀ k ∈ ks, k.HasLexeme) : Writable (Stmt.blockNames body) (Stmt.blockIntegers body) := by
  cases body with
  | nil => exact writable_nil
  | cons s body =>
    cases h with
    | cons hs hb =>
      rw [List.forall_mem_append] at hk
      exact writable_append.2 ⟨Stmt.writable_of_spelled hs hk.1, Stmt.writable_of_blockSpelled hb hk.2⟩

end

/-- A program that is cut out of a text is well-formed. -/
theorem Program.wellFormed_of_spelled {p : Program} {code rest : Text} {ts : List Token} (hp : p.Spelled ts)
    (ht : Splits code ts rest) : p.WellFormed :=
  Stmt.writable_of_blockSpelled hp ht.hasLexeme

end MiniPL
