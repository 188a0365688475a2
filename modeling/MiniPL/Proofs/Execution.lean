import MiniPL.Machine
import MiniPL.Proofs.Outcomes
/-!
# The points of a run

A run passes from statement to statement. A point of it is the work that is left and the machine; one step does
one statement, enters a loop or begins a round of it, and a fault drops all the work that is left.
`reaches_run` says that these steps lead where `Machine.run` says the run ends.
-/

namespace MiniPL

/-- A piece of work that is left: a statement, or the rounds of a loop that are still to come. -/
inductive Task where
  | stmt (s : Stmt)
  | rounds (name : Text) (body : List Stmt) (i : Int) (count : Nat)

/-- Does one step of a piece of work, and returns what is left of it. -/
def Task.perform : Task → Run (List Task)
  | .stmt (.loop name first last body) => do
    let (i, count) ← Run.enter name first last
    return [.rounds name body i count]
  | .stmt s => do
    s.run
    return []
  | .rounds _ _ _ 0 => return []
  | .rounds name body i (count + 1) => do
    Run.assign name (.int i)
    return body.map .stmt ++ [.rounds name body (i + 1) count]

/-- What is left to do, and the machine. -/
structure Point where
  left : List Task
  machine : Machine

/-- One step of a run. A fault drops everything that was left to do. -/
inductive Point.Step : Point → Point → Prop
  | done {t us left m m'} : t.perform m = .ok us m' → Step ⟨t :: left, m⟩ ⟨us ++ left, m'⟩
  | stopped {t left m f m'} : t.perform m = .error f m' → Step ⟨t :: left, m⟩ ⟨[], m'⟩

/-- A run that is at the first point comes to the second. -/
inductive Point.Reaches : Point → Point → Prop
  | here {a} : Reaches a a
  | step {a b c} : Step a b → Reaches b c → Reaches a c

theorem Point.Reaches.trans {a b c : Point} (h : a.Reaches b) (h' : b.Reaches c) : a.Reaches c := by
  induction h with
  | here => exact h'
  | step hs _ ih => exact .step hs (ih h')

/-- The first point of a run. -/
def Machine.start (m : Machine) (p : Program) : Point := { left := p.map .stmt, machine := m }

/-- Machines that are passed while programs are run one after another, each on the machine that the one before
it left, by a fault or not. -/
inductive Passes : Machine → List Program → Machine → Prop
  | here {m ps} : Passes m ps m
  | within {m p ps a} : (m.start p).Reaches a → Passes m (p :: ps) a.machine
  | after {m p ps m'} : Passes (m.run p).machine ps m' → Passes m (p :: ps) m'

/-! ## The steps lead to the end of the run -/

/-- The point after a part of a run, where `left` was to be done next. -/
def Point.after (left : List Task) : EStateM.Result Fault Machine Unit → Point
  | .ok _ m => { left, machine := m }
  | .error _ m => { left := [], machine := m }

/-- A statement that is no loop is done in one step. -/
theorem step_stmt {s : Stmt} (h : (Task.stmt s).perform = s.run >>= fun _ => pure []) (m : Machine)
    (left : List Task) : Point.Step ⟨.stmt s :: left, m⟩ (.after left (s.run m)) := by
  cases hr : s.run m with
  | ok u m' =>
    have hp : (Task.stmt s).perform m = .ok [] m' := by rw [h, bind_of_ok hr]; rfl
    exact .done hp
  | error f m' =>
    have hp : (Task.stmt s).perform m = .error f m' := by rw [h, bind_of_error hr]
    exact .stopped hp

/-- Round by round, a loop comes to the end of its last round. -/
theorem reaches_rounds {body : List Stmt}
    (hb : ∀ m left, Point.Reaches ⟨body.map .stmt ++ left, m⟩ (.after left (Stmt.runAll body m)))
    (name : Text) (left : List Task) (i : Int) (count : Nat) (m : Machine) :
    Point.Reaches ⟨.rounds name body i count :: left, m⟩
      (.after left (Run.each name (Stmt.runAll body) i count m)) := by
  induction count generalizing i m with
  | zero => exact .step (.done rfl) .here
  | succ count ih =>
    cases ha : Run.assign name (.int i) m with
    | error f m' =>
      have hp : (Task.rounds name body i (count + 1)).perform m = .error f m' := bind_of_error ha
      rw [Run.each, bind_of_error ha]
      exact .step (.stopped hp) .here
    | ok u m₁ =>
      have hp : (Task.rounds name body i (count + 1)).perform m =
        .ok (body.map .stmt ++ [.rounds name body (i + 1) count]) m₁ := bind_of_ok ha
      rw [Run.each, bind_of_ok ha]
      refine .step (.done hp) ?_
      rw [List.append_assoc]
      -- The body is run with the other rounds still to come.
      refine (hb m₁ _).trans ?_
      cases hr : Stmt.runAll body m₁ with
      | error f m' => rw [bind_of_error hr]; exact .here
      | ok u m₂ => rw [bind_of_ok hr]; exact ih (i + 1) m₂

mutual

theorem reaches_stmt (s : Stmt) (m : Machine) (left : List Task) :
    Point.Reaches ⟨.stmt s :: left, m⟩ (.after left (s.run m)) := by
  cases s with
  | loop name first last body =>
    rw [Stmt.run]
    cases he : Run.enter name first last m with
    | error f m' =>
      have hp : (Task.stmt (.loop name first last body)).perform m = .error f m' := bind_of_error he
      rw [bind_of_error he]
      exact .step (.stopped hp) .here
    | ok r m₁ =>
      obtain ⟨i, count⟩ := r
      have hp : (Task.stmt (.loop name first last body)).perform m = .ok [.rounds name body i count] m₁ :=
        bind_of_ok he
      rw [bind_of_ok he]
      exact .step (.done hp) (reaches_rounds (reaches_block body) name left i count m₁)
  | _ => exact .step (step_stmt rfl m left) .here

theorem reaches_block (body : List Stmt) (m : Machine) (left : List Task) :
    Point.Reaches ⟨body.map .stmt ++ left, m⟩ (.after left (Stmt.runAll body m)) := by
  cases body with
  | nil => exact .here
  | cons s body =>
    refine (reaches_stmt s m _).trans ?_
    rw [Stmt.runAll]
    cases hr : s.run m with
    | error f m' => rw [bind_of_error hr]; exact .here
    | ok u m₁ => rw [bind_of_ok hr]; exact reaches_block body m₁ left

end

/-- A run comes to its end, and the machine is then the one it leaves. -/
theorem reaches_run (m : Machine) (p : Program) :
    (m.start p).Reaches { left := [], machine := (m.run p).machine } := by
  have h := reaches_block p m []
  rw [List.append_nil] at h
  unfold Machine.run EStateM.run
  cases hr : Stmt.runAll p m with
  | ok u m' => rw [hr] at h; exact h
  | error f m' => rw [hr] at h; exact h

end MiniPL
