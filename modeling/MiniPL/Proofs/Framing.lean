import MiniPL.Proofs.Parts
import MiniPL.Proofs.TableInvariant
/-!
# What a program leaves as it is

A declaration enters its own name and an assignment changes the value of its own name. So no name is ever lost, names
that a program does not declare keep their types, and those that it does not assign to, read or count with either keep
their values. This holds at every point of a run, and so where a fault has stopped it (`Machine.reaches_framed`).
-/

namespace MiniPL

/-- What becomes of a table when names of `ds` alone are declared and names of `xs` alone get other values. -/
structure NameTable.Framed (ds xs : List Text) (t t' : NameTable) : Prop where
  /-- No name is lost, and no type. -/
  stays : ∀ x, (t.contains x = true → t'.contains x = true) ∧ ((t.type? x).isSome → (t'.type? x).isSome)
  type : ∀ x ∉ ds, t'.contains x = t.contains x ∧ t'.type? x = t.type? x
  value : ∀ x ∉ ds, x ∉ xs → t'.value? x = t.value? x

namespace NameTable

variable {ds xs : List Text} {t t' u : NameTable} {x : Text} {v : Value}

/-- Only a name that is there can be assigned to. -/
theorem contains_of_assign (h : t.assign x v = .ok t') : t.contains x = true := by
  rw [assign_eq] at h
  unfold contains
  cases hv : t.value? x with
  | none =>
    rw [hv] at h
    cases h
  | some w => rfl

namespace Framed

theorem refl (t : NameTable) : Framed ds xs t t := ⟨fun _ => ⟨id, id⟩, fun _ _ => ⟨rfl, rfl⟩, fun _ _ _ => rfl⟩

theorem declare {ty : Ty} (h : Framed ds xs u t) (hx : x ∈ ds) (hd : t.declare x ty v = .ok t') :
    Framed ds xs u t' := by
  obtain ⟨-, rfl⟩ := declare_ok hd
  have other {y : Text} (hy : y ∉ ds) : y ≠ x := fun he => hy (he ▸ hx)
  refine ⟨fun y => ⟨fun hy => ?_, fun hy => ?_⟩, fun y hy => ?_, fun y hy hy' => ?_⟩
  · simp [(h.stays y).1 hy]
  · rw [type?_bind]
    split
    · rfl
    · exact (h.stays y).2 hy
  · simpa [other hy] using h.type y hy
  · simpa [other hy] using h.value y hy hy'

theorem assign (h : Framed ds xs u t) (hx : x ∈ xs) (ha : t.assign x v = .ok t') : Framed ds xs u t' := by
  have hc := contains_of_assign ha
  obtain ⟨-, rfl⟩ := assign_ok ha
  -- The name was there before, so it does not matter to which name the value goes.
  have same (y : Text) : (t.set x v).contains y = t.contains y := by
    by_cases hy : y = x <;> simp [hy, hc]
  refine ⟨fun y => ?_, fun y hy => ?_, fun y hy hy' => ?_⟩
  · rw [same, type?_set]
    exact h.stays y
  · rw [same, type?_set]
    exact h.type y hy
  · have hn : y ≠ x := fun he => hy' (he ▸ hx)
    simpa [hn] using h.value y hy hy'

end Framed

end NameTable

namespace Machine

/-- At every point of a program's run, and at its end, whether a fault has stopped it or not, no name has disappeared
from the table. A name that no declaration in the program declares has kept its type, or is still not there, and if
nothing in the program gives it a value either it has kept its value. -/
theorem run_framed (m : Machine) (p : Program) :
    (∀ a, (m.start p).Reaches a →
      m.table.Framed (Stmt.blockDeclared p) (Stmt.blockAssigned p) a.machine.table) ∧
    m.table.Framed (Stmt.blockDeclared p) (Stmt.blockAssigned p) (m.run p).machine.table := by
  have framed (a : Point) (h : (m.start p).Reaches a) :
      m.table.Framed (Stmt.blockDeclared p) (Stmt.blockAssigned p) a.machine.table :=
    reaches_keeps (fun _ hx _ _ _ _ ht hd => ht.declare hx hd) (fun _ hx _ _ _ ht ha => ht.assign hx ha)
      (.refl m.table) h
  exact ⟨framed, framed _ (reaches_run m p)⟩

/-- The body of the inner loop declares `x` anew and then fails, in the first round of both loops. -/
theorem run_framed_nested :
    let one : Expr := .simple (.literal (.int 1))
    let m := ((fresh (.ofText [])).run [.declare "i" .int none, .declare "k" .int (some one),
      .declare "s" .string (some (.simple (.literal (.string "a")))), .declare "x" .int none]).machine
    let p : Program := [.loop "i" one (.simple (.literal (.int 3))) [.loop "k" one one
      [.declare "x" .bool none, .assign "k" (.binary (.literal (.int 1)) .div (.literal (.int 0)))]]]
    let t := (m.run p).machine.table
    (m.run p).fault = some .divisionByZero ∧ (m.start p).Reaches { left := [], machine := (m.run p).machine } ∧
      m.table.Framed ["x"] ["i", "k", "k"] t ∧ t.type? "x" = some .bool ∧ t.type? "k" = m.table.type? "k" ∧
      t.value? "s" = m.table.value? "s" := by
  intro one m p t
  have hr : (m.start p).Reaches { left := [], machine := (m.run p).machine } := reaches_run m p
  have hf : m.table.Framed ["x"] ["i", "k", "k"] t := (run_framed m p).1 _ hr
  exact ⟨by decide +kernel, hr, hf, by decide +kernel, (hf.type "k" (by decide)).2,
    hf.value "s" (by decide) (by decide)⟩

end Machine

end MiniPL
