import MiniPL.Proofs.Execution
import MiniPL.Proofs.Joining
/-!
# A loop is its rounds, written out

A loop whose bounds are known does what the straight line of its rounds does: the next integer is assigned, and the
body follows (`Stmt.unrolled`). The integers stand in the line, so nothing in it looks at the bounds again, and the
body may do what it likes to them and to the variable. A loop that has been entered has a number of rounds left, which
every round that begins makes smaller (`Point.Begins.le`).
-/

namespace MiniPL

/-- The rounds of a loop written out: `count` times the body, after an assignment of the integers from `i` on. -/
def Stmt.unrolled (name : Text) (body : List Stmt) (i : Int) : (count : Nat) → List Stmt
  | 0 => []
  | count + 1 => .assign name (.simple (.literal (.int i))) :: (body ++ unrolled name body (i + 1) count)

section
variable {m : Machine} {name : Text} {first last : Expr} {body : List Stmt} {a b : Int}

/-! ## The rounds -/

namespace Run

theorem value_literal (v : Value) : value (.simple (.literal v)) = pure v := rfl

theorem each_unrolled (name : Text) (body : List Stmt) (i : Int) (count : Nat) :
    each name (Stmt.runAll body) i count = Stmt.runAll (Stmt.unrolled name body i count) := by
  induction count generalizing i with
  | zero => rfl
  | succ count ih =>
    rw [each, ih, Stmt.unrolled, Stmt.runAll, Stmt.runAll_append, Stmt.run, value_literal, pure_bind]

theorem integer_ok {e : Expr} (h : e.eval m.table = .ok (.int a)) : integer e m = .ok a m := by
  have hv : value e m = .ok (.int a) m := by
    rw [value, bind_get, h]
    rfl
  exact bind_of_ok hv

/-- A loop over a declared name begins as soon as its bounds are integers. -/
theorem enter_ok (ha : first.eval m.table = .ok (.int a)) (hb : last.eval m.table = .ok (.int b))
    (hx : m.table.contains name = true) : enter name first last m =
      .ok (a, (b + 1 - a).toNat) { m with events := .looped name a b :: m.events } := by
  have hn : need name m = .ok () m := by
    rw [need, bind_get, hx]
    rfl
  rw [enter, bind_of_ok (integer_ok ha), bind_of_ok (integer_ok hb), bind_of_ok hn]
  rfl

end Run

theorem Stmt.runAll_singleton (s : Stmt) : Stmt.runAll [s] = s.run := by
  simp [Stmt.runAll]

/-- The loop records that it begins, and then does its rounds. -/
theorem Machine.run_loop (ha : first.eval m.table = .ok (.int a)) (hb : last.eval m.table = .ok (.int b))
    (hx : m.table.contains name = true) : m.run [.loop name first last body] =
      { m with events := .looped name a b :: m.events }.run (Stmt.unrolled name body a (b + 1 - a).toNat) := by
  have hr : (Stmt.loop name first last body).run m = Stmt.runAll (Stmt.unrolled name body a (b + 1 - a).toNat)
      { m with events := .looped name a b :: m.events } := by
    rw [Stmt.run, bind_of_ok (Run.enter_ok ha hb hx)]
    exact congrFun (Run.each_unrolled name body a _) _
  unfold Machine.run EStateM.run
  rw [Stmt.runAll_singleton, hr]

end

/-! ## Records -/

/-- The machines have recorded the same since the first had recorded `before` and the second `before'`, and are the
same otherwise. -/
def Machine.Since (before before' : List Event) (m m' : Machine) : Prop :=
  ∃ news, m'.events = news ++ before' ∧ m = { m' with events := news ++ before }

namespace Run

variable {before before' : List Event}

theorem steady_since : Steady (Machine.Since before before') where
  table := by
    rintro m m' ⟨news, -, rfl⟩
    rfl
  setTable t := by
    rintro ⟨news, he, rfl⟩
    exact ⟨news, he, rfl⟩
  print t := by
    rintro ⟨news, he, rfl⟩
    exact ⟨news, he, rfl⟩
  record e := by
    rintro ⟨news, he, rfl⟩
    exact ⟨e :: news, congrArg (e :: ·) he, rfl⟩

theorem since_line : Alike (Machine.Since before before') Eq line line := by
  refine alike_line ?_ fun c => ?_
  · rintro m m' ⟨news, -, rfl⟩
    rfl
  · rintro ⟨news, he, rfl⟩
    exact ⟨news, he, rfl⟩

end Run

/-- What was recorded before makes no difference to a program, which adds its own records. -/
theorem Machine.run_since {before before' : List Event} {m m' : Machine} (h : Since before before' m m') (p : Program) :
    (m.run p).fault = (m'.run p).fault ∧ Since before before' (m.run p).machine (m'.run p).machine :=
  run_alike Run.steady_since Run.since_line h p

/-! ## How often the body begins -/

/-- A run that is at the first point comes to the second, and on the way the body of the loop that is all there is left
to do begins at least this many times, each time after its variable was assigned. -/
inductive Point.Begins : Point → Nat → Point → Prop
  | here {a} : Begins a 0 a
  | step {a b c k} : Step a b → Begins b k c → Begins a k c
  | round {name body i count us m m' k c} : (Task.rounds name body i (count + 1)).perform m = .ok us m' →
      Begins ⟨us, m'⟩ k c → Begins ⟨[.rounds name body i (count + 1)], m⟩ (k + 1) c

/-- Nothing is left to do, or a loop with at most `n` rounds to come is the last that is. -/
def Point.InLoop (n : Nat) (a : Point) : Prop :=
  a.left = [] ∨ ∃ top name body i count, a.left = top ++ [.rounds name body i count] ∧ count ≤ n

theorem Task.perform_round {name : Text} {body : List Stmt} {i : Int} {count : Nat} {us : List Task} {m m' : Machine}
    (h : (Task.rounds name body i (count + 1)).perform m = .ok us m') :
    us = body.map .stmt ++ [.rounds name body (i + 1) count] := by
  obtain ⟨u, m₁, -, h⟩ := bind_ok.1 h
  exact (pure_ok.1 h).1.symm

/-- Whatever is done before the loop goes on, no rounds are added to it. -/
theorem Point.Step.inLoop {p q : Point} {n : Nat} (hs : p.Step q) (h : p.InLoop n) : q.InLoop n := by
  cases hs with
  | stopped _ => exact .inl rfl
  | @done t us left m m' hp =>
    rcases h with h | ⟨top, name, body, i, count, h, hn⟩
    · cases h
    cases top with
    | cons u top =>
      obtain ⟨-, rfl⟩ := List.cons.inj h
      exact .inr ⟨us ++ top, name, body, i, count, (List.append_assoc ..).symm, hn⟩
    | nil =>
      obtain ⟨rfl, rfl⟩ := List.cons.inj h
      cases count with
      | zero =>
        obtain ⟨rfl, -⟩ := pure_ok.1 hp
        exact .inl rfl
      | succ count =>
        rw [Task.perform_round hp, List.append_nil]
        exact .inr ⟨_, name, body, i + 1, count, rfl, by omega⟩

/-- A loop begins no more rounds than it has. -/
theorem Point.Begins.le {p q : Point} {k n : Nat} (hb : p.Begins k q) (h : p.InLoop n) : k ≤ n := by
  induction hb generalizing n with
  | here => exact Nat.zero_le n
  | step hs _ ih => exact ih (hs.inLoop h)
  | @round name body i count us m m' k c hp _ ih =>
    have hc : count + 1 ≤ n := by
      rcases h with h | ⟨top, name', body', i', count', h, hn⟩
      · cases h
      · have hr : [] ++ [Task.rounds name body i (count + 1)] = top ++ [.rounds name' body' i' count'] := h
        cases (List.append_inj' hr rfl).2
        exact hn
    rw [Task.perform_round hp] at ih
    have hk := ih (n := count) (.inr ⟨_, name, body, i + 1, count, rfl, Nat.le_refl count⟩)
    omega

/-! ## The loop -/

/-- A loop over a declared name whose bounds are integers leaves the machine that its rounds leave, written out, and
fails as they do, or not at all. Only the record that the loop has begun comes in between. Its body begins at most as
often as there are integers from the first bound to the last. -/
theorem Machine.run_loop_unrolled {m : Machine} {name : Text} {first last : Expr} {body : List Stmt} {a b : Int}
    (ha : first.eval m.table = .ok (.int a)) (hb : last.eval m.table = .ok (.int b))
    (hx : m.table.contains name = true) :
    let loop := m.run [.loop name first last body]
    let line := m.run (Stmt.unrolled name body a (b + 1 - a).toNat)
    loop.fault = line.fault ∧
      (∃ news, line.machine.events = news ++ m.events ∧
        loop.machine = { line.machine with events := news ++ .looped name a b :: m.events }) ∧
      ∀ k p, (m.start [.loop name first last body]).Begins k p → k ≤ (b + 1 - a).toNat := by
  intro loop line
  have hs : Since (.looped name a b :: m.events) m.events { m with events := .looped name a b :: m.events } m :=
    ⟨[], rfl, rfl⟩
  obtain ⟨hf, hm⟩ := run_since hs (Stmt.unrolled name body a (b + 1 - a).toNat)
  rw [← run_loop ha hb hx] at hf hm
  refine ⟨hf, hm, fun k p hp => ?_⟩
  have he : (Task.stmt (.loop name first last body)).perform m =
      .ok [.rounds name body a (b + 1 - a).toNat] { m with events := .looped name a b :: m.events } :=
    bind_of_ok (Run.enter_ok ha hb hx)
  cases hp with
  | here => exact Nat.zero_le _
  | step hs hp =>
    refine hp.le ?_
    -- The first step enters the loop.
    cases hs with
    | done h =>
      cases he.symm.trans h
      exact .inr ⟨[], name, body, a, _, rfl, Nat.le_refl _⟩
    | stopped h => cases he.symm.trans h

/-- The body changes the upper bound and gives the variable another type, so the second of three rounds fails. -/
theorem Machine.run_loop_unrolled_redeclared :
    let m := ((fresh (.ofText "9\n5\n")).run
      [.declare "i" .int none, .declare "n" .int (some (.simple (.literal (.int 4))))]).machine
    let n : Expr := .simple (.variable "n")
    let body : List Stmt := [.print (.simple (.variable "i")), .read "n", .declare "i" .string none]
    let loop := m.run [.loop "i" (.simple (.literal (.int 2))) n body]
    let line := m.run (Stmt.unrolled "i" body 2 3)
    n.eval m.table = .ok (.int 4) ∧ m.table.contains "i" = true ∧ loop.fault = line.fault ∧
      loop.machine.console = line.machine.console ∧ line.fault = some (.badAssignment "i" .string .int) ∧
      line.machine.console.lines = [("5" : Text)] := by
  intro m n body loop line
  have hn : n.eval m.table = .ok (.int 4) := by decide +kernel
  have hx : m.table.contains "i" = true := by decide +kernel
  obtain ⟨hf, ⟨news, -, hm⟩, -⟩ := @Machine.run_loop_unrolled m "i" (.simple (.literal (.int 2))) n body 2 4 rfl hn hx
  have hc := congrArg Machine.console hm
  exact ⟨hn, hx, hf, hc, by decide +kernel, by decide +kernel⟩

end MiniPL
