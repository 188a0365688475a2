import MiniPL.Machine
import MiniPL.Proofs.Outcomes
/-!
# What the types of variables settle

The types that names are declared with give an expression a type, or none (`Expr.ty?`). Where it has one, its
evaluation in any table with values of these types has a value of that type, or a fault that only the numbers are to
blame for (`Expr.eval_admitted`). Where it has none, no such table has a value for it (`Expr.ty?_of_eval`). So tables
that differ in values alone cannot disagree about types.
-/

namespace MiniPL

/-! ## The type of an expression -/

namespace Operator

/-- The type of what the operator makes of operands of these types. -/
def ty? : Operator → Ty → Ty → Option Ty
  | .add, .int, .int => some .int
  | .add, .string, .string => some .string
  | .sub, .int, .int => some .int
  | .mul, .int, .int => some .int
  | .div, .int, .int => some .int
  | .and, .bool, .bool => some .bool
  -- Values of different types can be compared; they are not equal.
  | .equal, _, _ => some .bool
  | .less, l, r => if l = r then some .bool else none
  | _, _, _ => none

/-- The type of what the operator makes of its only operand. -/
def unaryTy? : Operator → Ty → Option Ty
  | .not, .bool => some .bool
  | _, _ => none

end Operator

mutual

/-- The type of an expression, where names have the given types. -/
def Expr.ty? (types : Text → Option Ty) : Expr → Option Ty
  | .simple a => a.ty? types
  | .unary op a => do op.unaryTy? (← a.ty? types)
  | .binary l op r => do
    let s ← l.ty? types
    let t ← r.ty? types
    op.ty? s t

/-- The type of an operand. -/
def Operand.ty? (types : Text → Option Ty) : Operand → Option Ty
  | .literal v => some v.ty
  | .variable name => types name
  | .group e => e.ty? types

end

/-! ## Outcomes of a type -/

/-- A fault that depends on numbers and not on types. -/
def Fault.Numeric : Fault → Prop
  | .divisionByZero => True
  | .overflow _ => True
  | _ => False

/-- The outcome is a value of the type or a numeric fault. -/
def Ty.Admits (ty : Ty) : Except Fault Value → Prop
  | .ok v => v.ty = ty
  | .error f => f.Numeric

theorem Ty.Admits.bind {s t : Ty} {x : Except Fault Value} {f : Value → Except Fault Value} (hx : s.Admits x)
    (hf : ∀ v, v.ty = s → t.Admits (f v)) : t.Admits (x >>= f) := by
  cases x with
  | ok v => exact hf v hx
  | error g => exact hx

theorem Value.checked_admitted (n : Int) : Ty.int.Admits (checked n) := by
  unfold checked
  split
  · rfl
  · trivial

namespace Operator

theorem quotient_admitted (a b : Int) : Ty.int.Admits (quotient (.int a) (.int b)) := by
  by_cases hb : b = 0
  · rw [hb]
    trivial
  · rw [quotient_eq_checked hb]
    exact Value.checked_admitted _

/-- What an operator makes of operands that fit is of its type. -/
theorem apply_admitted {op : Operator} {l r : Value} {ty : Ty} (h : op.ty? l.ty r.ty = some ty) :
    ty.Admits (op.apply l r) := by
  cases op with
  | add =>
    cases l <;> cases r <;> cases h
    · exact Value.checked_admitted _
    · rfl
  | sub =>
    cases l <;> cases r <;> cases h
    exact Value.checked_admitted _
  | mul =>
    cases l <;> cases r <;> cases h
    exact Value.checked_admitted _
  | div =>
    cases l <;> cases r <;> cases h
    exact quotient_admitted _ _
  | and =>
    cases l <;> cases r <;> cases h
    rfl
  | equal =>
    cases h
    rfl
  | less => cases l <;> cases r <;> cases h <;> rfl
  | not => cases h

/-- Where the operands do not fit, there is no value. -/
theorem apply_ne_ok {op : Operator} {l r : Value} (h : op.ty? l.ty r.ty = none) (v : Value) : op.apply l r ≠ .ok v := by
  intro hv
  cases op with
  | equal => cases h
  | _ => cases l <;> cases r <;> cases h <;> cases hv

theorem ty?_of_apply {op : Operator} {l r v : Value} (h : op.apply l r = .ok v) : op.ty? l.ty r.ty = some v.ty := by
  cases hty : op.ty? l.ty r.ty with
  | none => exact absurd h (apply_ne_ok hty v)
  | some ty =>
    have ha := apply_admitted hty
    rw [h] at ha
    exact congrArg some (Eq.symm ha)

theorem applyUnary_admitted {op : Operator} {v : Value} {ty : Ty} (h : op.unaryTy? v.ty = some ty) :
    ty.Admits (op.applyUnary v) := by
  cases op with
  | not =>
    cases v <;> cases h
    rfl
  | _ => cases h

theorem unaryTy?_of_applyUnary {op : Operator} {v w : Value} (h : op.applyUnary v = .ok w) :
    op.unaryTy? v.ty = some w.ty := by
  cases op with
  | not =>
    cases v <;> cases h
    rfl
  | _ => cases h

end Operator

/-! ## Tables -/

namespace NameTable

/-- The names with a type are those with a value, and every value is of its name's type. -/
def Typed (t : NameTable) : Prop := ∀ x, (t.value? x).map Value.ty = t.type? x

variable {t : NameTable} {x : Text}

theorem Typed.bind (ht : t.Typed) (x : Text) (v : Value) : (t.bind x v.ty v).Typed := by
  intro y
  rw [value?_bind, type?_bind]
  split
  · rfl
  · exact ht y

theorem Typed.lookup_admitted {ty : Ty} (ht : t.Typed) (h : t.type? x = some ty) : ty.Admits (t.lookup x) := by
  obtain ⟨v, hv, hty⟩ := Option.map_eq_some_iff.1 ((ht x).trans h)
  rw [lookup, hv]
  exact hty

theorem Typed.type?_of_lookup {v : Value} (ht : t.Typed) (h : t.lookup x = .ok v) : t.type? x = some v.ty := by
  have hx := ht x
  cases hv : t.value? x with
  | none =>
    rw [lookup, hv] at h
    cases h
  | some w =>
    rw [lookup, hv] at h
    cases h
    rw [← hx, hv]
    rfl

end NameTable

/-! ## Expressions -/

mutual

/-- An expression with a type has a value of it, unless the numbers do not allow one. -/
theorem Expr.eval_admitted {t : NameTable} (ht : t.Typed) {e : Expr} {ty : Ty} (h : e.ty? t.type? = some ty) :
    ty.Admits (e.eval t) := by
  cases e with
  | simple a => exact Operand.eval_admitted ht (a := a) h
  | unary op a =>
    obtain ⟨s, hs, h⟩ := Option.bind_eq_some_iff.1 h
    refine (Operand.eval_admitted ht hs).bind fun v hv => ?_
    rw [← hv] at h
    exact Operator.applyUnary_admitted h
  | binary a op b =>
    obtain ⟨s, hs, h⟩ := Option.bind_eq_some_iff.1 h
    obtain ⟨s', hs', h⟩ := Option.bind_eq_some_iff.1 h
    refine (Operand.eval_admitted ht hs).bind fun v hv => (Operand.eval_admitted ht hs').bind fun w hw => ?_
    rw [← hv, ← hw] at h
    exact Operator.apply_admitted h

theorem Operand.eval_admitted {t : NameTable} (ht : t.Typed) {a : Operand} {ty : Ty} (h : a.ty? t.type? = some ty) :
    ty.Admits (a.eval t) := by
  cases a with
  | literal v => exact Option.some.inj h
  | «variable» x => exact ht.lookup_admitted h
  | group e => exact Expr.eval_admitted ht (e := e) h

end

mutual

/-- An expression with a value has the type of the value. -/
theorem Expr.ty?_of_eval {t : NameTable} (ht : t.Typed) {e : Expr} {v : Value} (h : e.eval t = .ok v) :
    e.ty? t.type? = some v.ty := by
  cases e with
  | simple a => exact Operand.ty?_of_eval ht (a := a) h
  | unary op a =>
    obtain ⟨w, hw, h⟩ := except_bind_ok.1 h
    rw [Expr.ty?, Operand.ty?_of_eval ht hw]
    exact Operator.unaryTy?_of_applyUnary h
  | binary a op b =>
    obtain ⟨l, hl, h⟩ := except_bind_ok.1 h
    obtain ⟨r, hr, h⟩ := except_bind_ok.1 h
    rw [Expr.ty?, Operand.ty?_of_eval ht hl, Operand.ty?_of_eval ht hr]
    exact Operator.ty?_of_apply h

theorem Operand.ty?_of_eval {t : NameTable} (ht : t.Typed) {a : Operand} {v : Value} (h : a.eval t = .ok v) :
    a.ty? t.type? = some v.ty := by
  cases a with
  | literal w =>
    cases h
    rfl
  | «variable» x => exact ht.type?_of_lookup h
  | group e => exact Expr.ty?_of_eval ht (e := e) h

end

/-- In two tables that declare the same names with the same types and hold values of these types, an expression that
has a value in the first has one of the same type in the second, or it divides by zero or overflows there. -/
theorem Expr.eval_same_types {t u : NameTable} (ht : t.Typed) (hu : u.Typed) (h : ∀ x, t.type? x = u.type? x)
    {e : Expr} {v : Value} (hv : e.eval t = .ok v) :
    (∃ w, e.eval u = .ok w ∧ w.ty = v.ty) ∨ e.eval u = .error .divisionByZero ∨ ∃ n, e.eval u = .error (.overflow n) := by
  have hty : e.ty? u.type? = some v.ty := by
    rw [← funext h]
    exact Expr.ty?_of_eval ht hv
  have ha := Expr.eval_admitted hu hty
  cases hw : e.eval u with
  | ok w =>
    rw [hw] at ha
    exact .inl ⟨w, rfl, ha⟩
  | error f =>
    rw [hw] at ha
    cases f with
    | divisionByZero => exact .inr (.inl rfl)
    | overflow n => exact .inr (.inr ⟨n, rfl⟩)
    | _ => cases ha

/-- A quotient of numbers is compared with a concatenation of strings. Only the divisor differs. -/
theorem Expr.eval_same_types_divisor :
    let t := ((NameTable.empty.bind "n" .int (.int 2)).bind "s" .string (.string "a"))
    let u := ((NameTable.empty.bind "n" .int (.int 0)).bind "s" .string (.string "b"))
    let e : Expr := .binary (.group (.binary (.literal (.int 6)) .div (.variable "n"))) .equal
      (.group (.binary (.variable "s") .add (.literal (.string "3"))))
    t.Typed ∧ u.Typed ∧ (∀ x, t.type? x = u.type? x) ∧ e.eval t = .ok (.bool false) ∧
      ((∃ w, e.eval u = .ok w ∧ w.ty = .bool) ∨ e.eval u = .error .divisionByZero ∨
        ∃ n, e.eval u = .error (.overflow n)) ∧ e.eval u = .error .divisionByZero := by
  intro t u e
  have typed (n : Int) (s : Text) : ((NameTable.empty.bind "n" .int (.int n)).bind "s" .string (.string s)).Typed :=
    (NameTable.Typed.bind (fun _ => rfl) "n" (.int n)).bind "s" (.string s)
  have ht : t.Typed := typed 2 "a"
  have hu : u.Typed := typed 0 "b"
  have he : e.eval t = .ok (.bool false) := by decide +kernel
  exact ⟨ht, hu, fun _ => rfl, he, eval_same_types ht hu (fun _ => rfl) he, by decide +kernel⟩

end MiniPL
