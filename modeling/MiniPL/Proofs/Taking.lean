import MiniPL.Proofs.Execution
import MiniPL.Proofs.SideBySide
/-!
# The lines that a run takes

A run takes lines off the front of the console, and of the console it sees those lines alone: in front of other lines
it takes them in the same way and does the same, unless it has found the console empty (`Run.Takes`). Each of them is
the line of one `read` that was executed (`Point.Reads`).
-/

namespace MiniPL

/-- The machine with other lines on its console. -/
def Machine.withLines (m : Machine) (ls : List Text) : Machine :=
  { m with console := { m.console with lines := ls } }

namespace Run

variable {α β : Type} {r x : Run α} {f : α → Run β} {m m₁ : Machine} {a : α} {ls ls' : List Text}

/-- The machine that a part of a run leaves, whether it has ended or was stopped. -/
def machineOf : EStateM.Result Fault Machine α → Machine
  | .ok _ m => m
  | .error _ m => m

/-- The same result with other lines on the console. -/
def relined (ls : List Text) : EStateM.Result Fault Machine α → EStateM.Result Fault Machine α
  | .ok a m => .ok a (m.withLines ls)
  | .error f m => .error f (m.withLines ls)

@[simp] theorem lines_relined (s : EStateM.Result Fault Machine α) : (machineOf (relined ls s)).console.lines = ls := by
  cases s <;> rfl

/-! ## Parts that take no line -/

/-- The second machine is the first with these lines. -/
def Relined (ls : List Text) (m m' : Machine) : Prop := m' = m.withLines ls

theorem steady_relined (ls : List Text) : Steady (Relined ls) where
  table hm := by rw [hm]; rfl
  setTable t hm := by rw [hm]; rfl
  print t hm := by rw [hm]; rfl
  record e hm := by rw [hm]; rfl

/-- The part does the same whatever lines the console has. -/
def Quiet (r : Run α) : Prop := ∀ ls, Alike (Relined ls) Eq r r

theorem Quiet.eq (h : Quiet r) (m : Machine) (ls : List Text) : r (m.withLines ls) = relined ls (r m) := by
  have ha := h ls m _ rfl
  generalize r m = s, r (m.withLines ls) = s' at ha ⊢
  cases ha with
  | ended hv hm => rw [hm, hv]; rfl
  | stopped hm => rw [hm]; rfl

/-- So it leaves them where they are. -/
theorem Quiet.lines (h : Quiet r) (m : Machine) : (machineOf (r m)).console.lines = m.console.lines := by
  have hr : r m = relined m.console.lines (r m) := h.eq m m.console.lines
  rw [hr, lines_relined]

/-! ## Parts that take lines -/

/-- The part, on this machine, takes these lines off the console. In front of other lines it does the same, if there
are none where it has left none. -/
structure Takes (r : Run α) (m : Machine) (ls : List Text) : Prop where
  lines : m.console.lines = ls ++ (machineOf (r m)).console.lines
  again : ∀ rest, ((machineOf (r m)).console.lines = [] → rest = []) → r (m.withLines (ls ++ rest)) = relined rest (r m)

/-- Whatever the machine, the part takes the first lines. -/
def InOrder (r : Run α) : Prop := ∀ m, ∃ ls, Takes r m ls

theorem Quiet.inOrder (h : Quiet r) : InOrder r := fun m => ⟨[], (h.lines m).symm, fun rest _ => h.eq m rest⟩

theorem Takes.bind_error {g : Fault} (hx : Takes x m ls) (h : x m = .error g m₁) : Takes (x >>= f) m ls := by
  have hb : (x >>= f) m = .error g m₁ := bind_of_error h
  obtain ⟨hl, ha⟩ := hx
  rw [h] at hl ha
  refine ⟨by rw [hb]; exact hl, fun rest hr => ?_⟩
  rw [hb] at hr ⊢
  exact bind_of_error (ha rest hr)

theorem Takes.bind (hx : Takes x m ls) (h : x m = .ok a m₁) (hf : Takes (f a) m₁ ls') :
    Takes (x >>= f) m (ls ++ ls') := by
  have hb : (x >>= f) m = f a m₁ := bind_of_ok h
  obtain ⟨hl, ha⟩ := hx
  rw [h] at hl ha
  replace hl : m.console.lines = ls ++ m₁.console.lines := hl
  refine ⟨?_, fun rest hr => ?_⟩
  · rw [hb, hl, hf.lines, List.append_assoc]
  · rw [hb] at hr ⊢
    -- The lines after those of the first part are those of the second and the rest.
    have hfirst : m₁.console.lines = [] → ls' ++ rest = [] := by
      intro he
      rw [hf.lines, List.append_eq_nil_iff] at he
      rw [he.1, hr he.2]
      rfl
    rw [List.append_assoc, bind_of_ok (ha (ls' ++ rest) hfirst)]
    exact hf.again rest hr

theorem InOrder.bind (hx : InOrder x) (hf : ∀ a, InOrder (f a)) : InOrder (x >>= f) := by
  intro m
  obtain ⟨ls, hls⟩ := hx m
  cases h : x m with
  | ok a m₁ =>
    obtain ⟨ls', hls'⟩ := hf a m₁
    exact ⟨_, hls.bind h hls'⟩
  | error g m₁ => exact ⟨ls, hls.bind_error h⟩

/-- Lines are taken by what is made of the table. -/
theorem inOrder_get {g : NameTable → Run α} (h : ∀ t, InOrder (g t)) : InOrder (get >>= fun m => g m.table) := by
  intro m
  obtain ⟨ls, hls⟩ := h m.table m
  exact ⟨ls, hls.lines, hls.again⟩

theorem line_eq (m : Machine) : line m = match m.console.lines with
    | [] => .error m.console.exhausted m
    | l :: rest => .ok l (m.withLines rest) := by
  obtain ⟨table, ⟨lines, failure⟩, printed, events⟩ := m
  cases lines with
  | nil => rfl
  | cons l rest => rfl

theorem line_inOrder : InOrder line := by
  rintro ⟨table, ⟨lines, failure⟩, printed, events⟩
  cases lines with
  | nil =>
    refine ⟨[], rfl, fun rest hr => ?_⟩
    rw [hr rfl]
    rfl
  | cons l rest => exact ⟨[l], rfl, fun _ _ => rfl⟩

theorem quiet_ofExcept (y : Except Fault α) : Quiet (ofExcept y) := fun _ => alike_ofExcept y

/-- What a `read` does with its line. -/
theorem quiet_accept (name : Text) (ty : Ty) (l : Text) : Quiet (ofExcept (Value.ofLine ty l) >>= assign name) :=
  fun ls => (alike_ofExcept _).seq fun v => alike_assign (steady_relined ls) name v

theorem input_eq (name : Text) (m : Machine) : input name m = match m.table.type? name with
    | none => .error (.notInitialized name) m
    | some ty => match m.console.lines with
      | [] => .error m.console.exhausted m
      | l :: rest => (ofExcept (Value.ofLine ty l) >>= assign name) (m.withLines rest) := by
  have hl := line_eq m
  rw [input, bind_get, NameTable.typeOf]
  cases m.table.type? name with
  | none => rfl
  | some ty =>
    show (line >>= fun l => ofExcept (Value.ofLine ty l) >>= assign name) m = _
    cases hc : m.console.lines with
    | nil =>
      rw [hc] at hl
      exact bind_of_error hl
    | cons l rest =>
      rw [hc] at hl
      exact bind_of_ok hl

/-- A `read` takes one line or none. -/
theorem input_lines (name : Text) (m : Machine) :
    (machineOf (input name m)).console.lines = m.console.lines ∨
      ∃ l, m.console.lines = l :: (machineOf (input name m)).console.lines := by
  rw [input_eq]
  split
  · exact .inl rfl
  · split
    · exact .inl rfl
    · next ty _ _ l rest hc =>
      rw [hc, (quiet_accept name ty l).lines]
      exact .inr ⟨l, rfl⟩

theorem input_inOrder (name : Text) : InOrder (input name) := by
  refine inOrder_get (g := fun t => ofExcept (t.typeOf name) >>= fun ty => line >>= fun l =>
    ofExcept (Value.ofLine ty l) >>= assign name) fun t => ?_
  exact (quiet_ofExcept _).inOrder.bind fun ty => line_inOrder.bind fun l => (quiet_accept name ty l).inOrder

theorem each_inOrder {name : Text} {body : Run Unit} (hb : InOrder body) (i : Int) (count : Nat) :
    InOrder (each name body i count) := by
  induction count generalizing i with
  | zero => exact Quiet.inOrder fun _ => alike_pure rfl
  | succ count ih =>
    have ha : Quiet (assign name (.int i)) := fun ls => alike_assign (steady_relined ls) name _
    exact ha.inOrder.bind fun _ => hb.bind fun _ => ih (i + 1)

end Run

/-! ## Statements -/

section
open Run

/-- Only a loop and a `read` can take lines. -/
theorem Stmt.run_quiet {s : Stmt} (hl : ∀ x a b body, s ≠ .loop x a b body) (hr : ∀ x, s ≠ .read x) : Quiet s.run :=
  fun ls => run_alike_simple (steady_relined ls) hl hr

mutual

theorem Stmt.run_inOrder (s : Stmt) : InOrder s.run := by
  cases s with
  | loop name first last body =>
    rw [Stmt.run]
    have he : Quiet (enter name first last) := fun ls => alike_enter (steady_relined ls) name first last
    refine he.inOrder.bind fun r => ?_
    obtain ⟨i, count⟩ := r
    exact each_inOrder (Stmt.runAll_inOrder body) i count
  | read name => exact input_inOrder name
  | _ => exact (Stmt.run_quiet (by simp) (by simp)).inOrder

theorem Stmt.runAll_inOrder (body : List Stmt) : InOrder (Stmt.runAll body) := by
  cases body with
  | nil => exact Quiet.inOrder fun _ => alike_pure rfl
  | cons s body => exact (Stmt.run_inOrder s).bind fun _ => Stmt.runAll_inOrder body

end

end

/-! ## The steps of a run -/

section
open Run

theorem Task.perform_quiet {t : Task} (h : ∀ x, t ≠ .stmt (.read x)) : Quiet t.perform := by
  intro ls
  have hs := steady_relined ls
  cases t with
  | stmt s =>
    cases s with
    | loop name first last body => exact (alike_enter hs name first last).seq fun r => alike_pure rfl
    | read x => exact absurd rfl (h x)
    | _ => exact Alike.seq (Stmt.run_quiet (by simp) (by simp) ls) fun _ => alike_pure rfl
  | rounds name body i count =>
    cases count with
    | zero => exact alike_pure rfl
    | succ count => exact (alike_assign hs name _).seq fun _ => alike_pure rfl

/-- A task takes no line, or it is a `read` and takes one. -/
theorem Task.perform_lines (t : Task) (m : Machine) :
    (machineOf (t.perform m)).console.lines = m.console.lines ∨
      ∃ x l, t = .stmt (.read x) ∧ m.console.lines = l :: (machineOf (t.perform m)).console.lines := by
  by_cases h : ∃ x, t = .stmt (.read x)
  · obtain ⟨x, rfl⟩ := h
    have hm : machineOf ((Task.stmt (.read x)).perform m) = machineOf (input x m) := by
      show machineOf ((input x >>= fun _ => pure []) m) = _
      cases hi : input x m with
      | ok u m' => rw [bind_of_ok hi]; rfl
      | error g m' => rw [bind_of_error hi]; rfl
    rw [hm]
    exact (input_lines x m).imp id fun ⟨l, hl⟩ => ⟨x, l, rfl, hl⟩
  · rw [not_exists] at h
    exact .inl ((perform_quiet h).lines m)

end

/-- A step takes no line, or it is the step of a `read` and takes one. -/
theorem Point.Step.lines {a b : Point} (h : a.Step b) : b.machine.console.lines = a.machine.console.lines ∨
    ∃ x left l, a.left = .stmt (.read x) :: left ∧ a.machine.console.lines = l :: b.machine.console.lines := by
  have hb : ∃ t left, a.left = t :: left ∧ b.machine = Run.machineOf (t.perform a.machine) := by
    cases h with
    | @done t us left m m' hp => exact ⟨t, left, rfl, by rw [hp]; rfl⟩
    | @stopped t left m f m' hp => exact ⟨t, left, rfl, by rw [hp]; rfl⟩
  obtain ⟨t, left, ht, hm⟩ := hb
  rw [hm]
  exact (t.perform_lines a.machine).imp id fun ⟨x, l, hx, hl⟩ => ⟨x, left, l, hx ▸ ht, hl⟩

/-- A run that is at the first point comes to the second, and these are the lines of the `read`s that are executed on
the way, each of which takes one. -/
inductive Point.Reads : Point → List Text → Point → Prop
  | here {a} : Reads a [] a
  | quiet {a b c ls} : Step a b → b.machine.console.lines = a.machine.console.lines → Reads b ls c → Reads a ls c
  | read {a b c x left l ls} : Step a b → a.left = .stmt (.read x) :: left →
      a.machine.console.lines = l :: b.machine.console.lines → Reads b ls c → Reads a (l :: ls) c

theorem Point.Reads.lines {a b : Point} {ls : List Text} (h : a.Reads ls b) :
    a.machine.console.lines = ls ++ b.machine.console.lines := by
  induction h with
  | here => rfl
  | quiet _ hl _ ih => rw [← hl, ih]
  | read _ _ hl _ ih => rw [hl, ih, List.cons_append]

theorem Point.Reaches.reads {a b : Point} (h : a.Reaches b) : ∃ ls, a.Reads ls b := by
  induction h with
  | here => exact ⟨[], .here⟩
  | step hs _ ih =>
    obtain ⟨ls, hls⟩ := ih
    rcases hs.lines with hl | ⟨x, left, l, hx, hl⟩
    · exact ⟨ls, .quiet hs hl hls⟩
    · exact ⟨l :: ls, .read hs hx hl hls⟩

end MiniPL
