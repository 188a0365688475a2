import MiniPL.Proofs.Parts
import MiniPL.Proofs.Taking
/-!
# A statement that is stopped has done nothing

Apart from a loop, which does whole statements, a statement looks first and changes the machine last. A fault on the way
leaves the machine as it was (`Run.Traceless`). Only a `read` has taken its line by the time that the line turns out not
to be a value.
-/

namespace MiniPL

namespace Run

variable {α β : Type} {x : Run α} {f : α → Run β}

/-- Where the part is stopped, it leaves the machine as it found it. -/
def Traceless (r : Run α) : Prop := ∀ m e m', r m = .error e m' → m' = m

/-- The part changes nothing, whether it ends or is stopped. -/
structure Looks (r : Run α) : Prop where
  ended : ∀ {m a m'}, r m = .ok a m' → m' = m
  traceless : Traceless r

/-- What is done after a look is done on the same machine. -/
theorem Looks.bind (hx : Looks x) (hf : ∀ a, Traceless (f a)) : Traceless (x >>= f) := by
  intro m e m' h
  rcases bind_error.1 h with h | ⟨a, m₁, ha, h⟩
  · exact hx.traceless m e m' h
  · rw [hx.ended ha] at h
    exact hf a m e m' h

theorem looks_ofExcept (y : Except Fault α) : Looks (ofExcept y) := by
  constructor
  · intro m a m' h
    rw [ofExcept_eq] at h
    split at h <;> cases h
    rfl
  · intro m e m' h
    rw [ofExcept_eq] at h
    split at h <;> cases h
    rfl

theorem looks_value (e : Expr) : Looks (value e) := by
  constructor
  · intro m a m' h
    rw [value_eq] at h
    exact (looks_ofExcept _).ended h
  · intro m f m' h
    rw [value_eq] at h
    exact (looks_ofExcept _).traceless m f m' h

theorem traceless_declare (name : Text) (ty : Ty) (v : Value) : Traceless (declare name ty v) := by
  intro m e m' h
  rw [declare_eq] at h
  split at h <;> cases h
  rfl

theorem traceless_assign (name : Text) (v : Value) : Traceless (assign name v) := by
  intro m e m' h
  rw [assign_eq] at h
  split at h <;> cases h
  rfl

theorem traceless_check (v : Value) : Traceless (check v) := by
  intro m e m' h
  unfold check at h
  split at h <;> cases h <;> rfl

theorem traceless_print (t : Text) : Traceless (print t) := by
  intro m e m' h
  cases h

end Run

/-- The lines that are left when the statement is stopped: a `read` has taken one if its name has a type and there was
one, and the others take none. -/
def Stmt.linesLeft (m : Machine) : Stmt → List Text
  | .read x => if (m.table.type? x).isSome then m.console.lines.tail else m.console.lines
  | _ => m.console.lines

open Run

/-- A `read` that is stopped was stopped before its line, for want of one, or by what the line says. -/
theorem Run.input_stopped {name : Text} {m m' : Machine} {e : Fault} (h : input name m = .error e m') :
    m' = m.withLines ((Stmt.read name).linesLeft m) := by
  show m' = m.withLines (if (m.table.type? name).isSome then m.console.lines.tail else m.console.lines)
  rw [input_eq] at h
  split at h
  · next hty =>
    cases h
    rw [hty]
    rfl
  · next hty =>
    rw [hty]
    split at h
    · next hc =>
      cases h
      -- There was no line to take.
      show m = m.withLines m.console.lines.tail
      rw [hc, List.tail_nil, ← hc]
      rfl
    · next l rest hc =>
      rw [hc]
      exact (looks_ofExcept _).bind (traceless_assign name) _ e m' h

/-- A statement that is neither a loop nor a `read` leaves no trace where it is stopped. -/
theorem Stmt.run_traceless {s : Stmt} (hl : ∀ x a b body, s ≠ .loop x a b body) (hr : ∀ x, s ≠ .read x) :
    Traceless s.run := by
  cases s with
  | declare name ty e =>
    cases e with
    | none => exact traceless_declare name ty _
    | some e => exact (looks_value e).bind fun v => traceless_declare name ty v
  | assign name e => exact (looks_value e).bind (traceless_assign name)
  | loop x a b body => exact absurd rfl (hl x a b body)
  | read x => exact absurd rfl (hr x)
  | print e => exact (looks_value e).bind fun v => traceless_print _
  | assert e => exact (looks_value e).bind traceless_check
  | empty =>
    intro m e m' h
    cases h

/-- A statement other than a loop that is stopped leaves the machine as it was: the table, what was printed and what was
recorded. The lines of the console are left too, but for the one that a `read` of a declared name has taken. A declaration
and an assignment by themselves leave all as it was. -/
theorem Stmt.run_stopped {m m' : Machine} {e : Fault} :
    (∀ s : Stmt, (∀ x a b body, s ≠ .loop x a b body) → s.run m = .error e m' → m' = m.withLines (s.linesLeft m)) ∧
      (∀ name ty v, Run.declare name ty v m = .error e m' → m' = m) ∧
      ∀ name v, Run.assign name v m = .error e m' → m' = m := by
  refine ⟨fun s hl h => ?_, fun name ty v h => traceless_declare name ty v m e m' h,
    fun name v h => traceless_assign name v m e m' h⟩
  by_cases hr : ∃ x, s = .read x
  · obtain ⟨x, rfl⟩ := hr
    exact input_stopped h
  · rw [not_exists] at hr
    rw [run_traceless hl hr m e m' h]
    cases s with
    | read x => exact absurd rfl (hr x)
    | _ => rfl

/-- The line is no number, the type is not that of the value, and the name is not there. Only the line is gone. -/
theorem Stmt.run_stopped_read :
    let m := ((Machine.fresh (.ofText "x\n5\n")).run
      [.print (.simple (.literal (.int 1))), .declare "n" .int none]).machine
    (∃ m', (Stmt.read "n").run m = .error (.malformedInput .int "x") m' ∧ m' = m.withLines ["5"]) ∧
      (∃ m', Run.declare "n" .string (.int 3) m = .error (.badInitializer "n" .string (.int 3)) m' ∧ m' = m) ∧
      ∃ m', Run.assign "k" (.int 3) m = .error (.usedBeforeDeclaration "k") m' ∧ m' = m := by
  intro m
  have hr : (Stmt.read "n").run m = .error (.malformedInput .int "x") (m.withLines ["5"]) := rfl
  have hd : Run.declare "n" .string (.int 3) m = .error (.badInitializer "n" .string (.int 3)) m := rfl
  have ha : Run.assign "k" (.int 3) m = .error (.usedBeforeDeclaration "k") m := rfl
  exact ⟨⟨_, hr, run_stopped.1 (.read "n") (by simp) hr⟩, ⟨m, hd, run_stopped.2.1 "n" .string (.int 3) hd⟩,
    ⟨m, ha, run_stopped.2.2 "k" (.int 3) ha⟩⟩

end MiniPL
