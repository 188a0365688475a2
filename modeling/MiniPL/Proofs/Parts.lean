import MiniPL.Machine
import MiniPL.Proofs.Outcomes
/-!
# What the parts of a statement make of the machine

An evaluation never changes the machine. A declaration and an assignment change the table, or are stopped and leave the
machine as they found it.
-/

namespace MiniPL

/-- An assignment depends on what the table says of the name. -/
theorem NameTable.assign_eq (t : NameTable) (x : Text) (v : Value) : t.assign x v =
    match t.value? x, t.type? x with
    | none, _ => .error (.usedBeforeDeclaration x)
    | some _, none => .error (.notInitialized x)
    | some _, some ty => if v.ty = ty then .ok (t.set x v) else .error (.badAssignment x ty v.ty) := by
  unfold assign typeOf
  cases t.value? x with
  | none => rfl
  | some w =>
    cases t.type? x with
    | none => rfl
    | some ty => rfl

namespace Run

variable {α : Type}

theorem ofExcept_eq (x : Except Fault α) (m : Machine) :
    ofExcept x m = match x with
      | .ok a => .ok a m
      | .error f => .error f m := by
  cases x <;> rfl

theorem value_eq (e : Expr) (m : Machine) : value e m = ofExcept (e.eval m.table) m := rfl

/-- A declaration of a name that is there already is recorded. -/
theorem declare_eq (name : Text) (ty : Ty) (v : Value) (m : Machine) : declare name ty v m =
    if v.ty = ty then
      .ok () { m with
        table := m.table.bind name ty v
        events := if m.table.contains name then .redeclared name ty :: m.events else m.events }
    else .error (.badInitializer name ty v) m := by
  by_cases hv : v.ty = ty
  · have hd : ofExcept (m.table.declare name ty v) m = .ok (m.table.bind name ty v) m := by
      rw [NameTable.declare, if_pos hv]
      rfl
    rw [declare, bind_get, bind_of_ok hd, if_pos hv]
    cases hc : m.table.contains name <;> rfl
  · have hd : ofExcept (m.table.declare name ty v) m = .error (.badInitializer name ty v) m := by
      rw [NameTable.declare, if_neg hv]
      rfl
    rw [declare, bind_get, bind_of_error hd, if_neg hv]

theorem assign_eq (name : Text) (v : Value) (m : Machine) : assign name v m =
    match m.table.assign name v with
    | .ok t => .ok () { m with table := t }
    | .error f => .error f m := by
  rw [assign, bind_get]
  cases m.table.assign name v <;> rfl

end Run

end MiniPL
