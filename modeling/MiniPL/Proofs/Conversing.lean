import MiniPL.Prompt
import MiniPL.Proofs.Joining
import MiniPL.Proofs.TableInvariant
import MiniPL.Proofs.Taking
/-!
# A conversation is a session

At the prompt, program lines and lines of input share one console. Every line is one or the other, and the program
lines do what they do as a session whose console holds only the lines of input. Which lines these are is known when
the programs have run (`Prompt.Turn.Took`).
-/

namespace MiniPL

/-! ## Programs and texts -/

namespace Machine

/-- What became of a text, with other lines on the console that it left. -/
def Outcome.withLines (o : Outcome) (ls : List Text) : Outcome := { o with machine := o.machine.withLines ls }

/-- The reads of a program take the first lines, and in front of other lines the program does the same. -/
theorem run_reads (m : Machine) (p : Program) : ∃ ls,
    (m.start p).Reads ls { left := [], machine := (m.run p).machine } ∧
      ∀ rest, ((m.run p).machine.console.lines = [] → rest = []) →
        (m.withLines (ls ++ rest)).run p = { fault := (m.run p).fault, machine := (m.run p).machine.withLines rest } := by
  obtain ⟨ls, hr⟩ := (reaches_run m p).reads
  obtain ⟨ls', ht⟩ := Stmt.runAll_inOrder p m
  have hm : (m.run p).machine = Run.machineOf (Stmt.runAll p m) := by
    unfold run EStateM.run
    cases Stmt.runAll p m <;> rfl
  -- Both say that the console is these lines and those that are left.
  have hl : ls = ls' := by
    have hl := hr.lines
    rw [show (m.start p).machine.console.lines = m.console.lines from rfl, ht.lines, ← hm] at hl
    exact (List.append_cancel_right hl).symm
  refine ⟨ls, hr, fun rest hrest => ?_⟩
  rw [hm] at hrest
  have ha := ht.again rest hrest
  rw [← hl] at ha
  unfold run EStateM.run
  rw [ha]
  cases Stmt.runAll p m <;> rfl

theorem submit_keeps {J : NameTable → Prop} (hd : ∀ name ty v t t', J t → t.declare name ty v = .ok t' → J t')
    (ha : ∀ name v t t', J t → t.assign name v = .ok t' → J t') {m : Machine} (hm : J m.table) (code : Text) :
    J (m.submit code).machine.table := by
  cases hp : Program.ofText code with
  | error f =>
    obtain ⟨news, ho⟩ := submit_refused hp
    rw [ho]
    exact hm
  | ok p =>
    obtain ⟨news, ho⟩ := submit_run hp
    rw [ho]
    have hn : J ({ m with events := news ++ m.events } : Machine).table := hm
    exact run_keeps hd ha hn p

/-- A name that is declared stays declared. -/
theorem contains_submit {m : Machine} {x : Text} (h : m.table.contains x = true) (code : Text) :
    (m.submit code).machine.table.contains x = true := by
  refine submit_keeps (J := fun t => t.contains x = true) ?_ ?_ h code
  · intro name ty v t t' ht hd
    obtain ⟨-, rfl⟩ := NameTable.declare_ok hd
    simp [ht]
  · intro name v t t' ht ha
    obtain ⟨-, rfl⟩ := NameTable.assign_ok ha
    simp [ht]

/-- What is written about the failure of a text, if it failed. -/
def Outcome.complaint (o : Outcome) : Text :=
  match o.failure with
  | some f => f.render ++ "\n"
  | none => []

end Machine

namespace Prompt

/-! ## Turns -/

/-- A program line, the machine that it is submitted to, and the lines of input that it takes. -/
structure Turn where
  line : Text
  before : Machine
  taken : List Text

namespace Turn

variable {u : Turn}

def outcome (u : Turn) : Machine.Outcome := u.before.submit u.line

def exchange (u : Turn) : Exchange := { line := u.line, outcome := u.outcome }

/-- The lines of input are those of the `read`s that are executed, in their order. Without a program there are
none. -/
structure Took (u : Turn) : Prop where
  refused : ∀ f, Program.ofText u.line = .error f → u.taken = []
  run : ∀ p, Program.ofText u.line = .ok p → ∃ events,
    Point.Reads ({ u.before with events }.start p) u.taken { left := [], machine := u.outcome.machine }

theorem exists_took (line : Text) (before : Machine) : ∃ taken, Took { line, before, taken } := by
  cases hp : Program.ofText line with
  | error f => exact ⟨[], fun _ _ => rfl, fun p h => (by cases hp.symm.trans h)⟩
  | ok p =>
    obtain ⟨news, ho⟩ := Machine.submit_run hp
    obtain ⟨ls, hr, -⟩ := Machine.run_reads { before with events := news ++ before.events } p
    refine ⟨ls, ⟨fun f h => ?_, fun q h => ⟨news ++ before.events, ?_⟩⟩⟩
    · cases hp.symm.trans h
    · cases hp.symm.trans h
      rw [outcome, ho]
      exact hr

theorem Took.lines (h : u.Took) : u.before.console.lines = u.taken ++ u.outcome.machine.console.lines := by
  cases hp : Program.ofText u.line with
  | error f =>
    obtain ⟨news, ho⟩ := Machine.submit_refused hp
    rw [h.refused f hp, outcome, ho]
    rfl
  | ok p =>
    obtain ⟨events, hr⟩ := h.run p hp
    exact hr.lines

/-- In front of other lines, the program line takes the same lines and does the same. -/
theorem Took.again (h : u.Took) {rest : List Text} (hr : u.outcome.machine.console.lines = [] → rest = []) :
    (u.before.withLines (u.taken ++ rest)).submit u.line = u.outcome.withLines rest := by
  have hl := h.lines
  cases hp : Program.ofText u.line with
  | error f =>
    obtain ⟨news, ho⟩ := Machine.submit_refused hp
    rw [h.refused f hp, outcome, ho, ho]
    rfl
  | ok p =>
    obtain ⟨news, ho⟩ := Machine.submit_run hp
    obtain ⟨ls, hreads, hagain⟩ := Machine.run_reads { u.before with events := news ++ u.before.events } p
    rw [outcome, ho] at hr hl
    have hls : u.taken = ls := List.append_cancel_right (hl.symm.trans hreads.lines)
    have ha := hagain rest hr
    rw [outcome, ho, ho, hls]
    exact congrArg (fun e : Machine.Ended => Machine.Outcome.mk (e.fault.map .run) e.machine) ha

end Turn

/-! ## Conversations -/

theorem exchangesWithin_silent {m : Machine} (h : m.console.lines = []) (bound : Nat) : exchangesWithin bound m = [] := by
  cases bound with
  | zero => rfl
  | succ bound =>
    have ht : m.console.takeLine = .error m.console.exhausted := by rw [Console.takeLine, h]
    rw [exchangesWithin, ht]

section
variable {m : Machine} {u : Turn} (h : u.before.withLines (u.line :: u.before.console.lines) = m.clear)
include h

theorem lines_of_turn : m.console.lines = u.line :: u.before.console.lines :=
  congrArg (fun m : Machine => m.console.lines) h.symm

theorem exchangesWithin_turn (bound : Nat) :
    exchangesWithin (bound + 1) m = u.exchange :: exchangesWithin bound u.outcome.machine := by
  have hc : m.console = { u.before.console with lines := u.line :: u.before.console.lines } :=
    congrArg Machine.console h.symm
  have ht : m.console.takeLine = .ok (u.line, u.before.console) := by rw [hc]; rfl
  have hb : { m.clear with console := u.before.console } = u.before := by rw [← h]; rfl
  simp only [exchangesWithin, ht, hb]
  rfl
end

/-- The turns from a machine at the prompt on. Each line is submitted with the lines after it on the console, and
leaves the machine for the next prompt. At the last prompt the console is empty. -/
inductive Held : Machine → List Turn → Prop
  | silent {m} : m.console.lines = [] → Held m []
  | turn {m u us} : u.before.withLines (u.line :: u.before.console.lines) = m.clear → u.Took →
      Held u.outcome.machine us → Held m (u :: us)

namespace Held

variable {m : Machine} {us : List Turn}

/-- Every line is a program line or is taken by one. -/
theorem lines (h : Held m us) : m.console.lines = us.flatMap fun u => u.line :: u.taken := by
  induction h with
  | silent hl => exact hl
  | @turn m u us hm hu _ ih =>
    rw [lines_of_turn hm, hu.lines, ih]
    rfl

/-- The turns are all that is said, however much may be said. -/
theorem exchanges (h : Held m us) (extra : Nat) :
    exchangesWithin (m.console.lines.length + extra) m = us.map Turn.exchange := by
  induction h generalizing extra with
  | silent hl => exact exchangesWithin_silent hl _
  | @turn m u us hm hu h ih =>
    -- The line of the turn pays for its exchange, and the lines that it takes are some more for the others.
    have hl : m.console.lines.length + extra = u.outcome.machine.console.lines.length + (u.taken.length + extra) + 1 := by
      rw [lines_of_turn hm, hu.lines, List.length_cons, List.length_append]
      omega
    rw [hl, exchangesWithin_turn hm, ih]
    rfl

/-- On a console with only the lines that are taken, the program lines do what they do in the conversation, and
leave the lines that are taken later. -/
theorem session (h : Held m us) : ((m.withLines (us.flatMap Turn.taken)).session (us.map Turn.line)).map
    (·.withLines []) = us.map (·.outcome.withLines []) := by
  induction h with
  | silent _ => rfl
  | @turn m u us hm hu h ih =>
    have hc : (m.withLines (u.taken ++ us.flatMap Turn.taken)).clear =
      u.before.withLines (u.taken ++ us.flatMap Turn.taken) :=
      congrArg (fun m : Machine => m.withLines (u.taken ++ us.flatMap Turn.taken)) hm.symm
    have hr : u.outcome.machine.console.lines = [] → us.flatMap Turn.taken = [] := by
      intro he
      rw [h.lines] at he
      cases us with
      | nil => rfl
      | cons u us => cases he
    rw [List.flatMap_cons, List.map_cons, Machine.session, hc, hu.again hr, List.map_cons, List.map_cons]
    exact congrArg _ ih

theorem contains (h : Held m us) {x : Text} (hx : m.table.contains x = true) :
    ∀ u ∈ us, u.outcome.machine.table.contains x = true := by
  induction h with
  | silent _ => simp
  | @turn m u us hm _ _ ih =>
    have ht : (u.before.withLines (u.line :: u.before.console.lines)).table = m.clear.table :=
      congrArg Machine.table hm
    have hu : u.outcome.machine.table.contains x = true :=
      Machine.contains_submit ((congrArg (·.contains x) ht).trans hx) u.line
    exact List.forall_mem_cons.2 ⟨hu, ih hu⟩

theorem declared (h : Held m us) : us.Pairwise fun u v =>
    ∀ x, u.outcome.machine.table.contains x = true → v.outcome.machine.table.contains x = true := by
  induction h with
  | silent _ => exact .nil
  | turn _ _ h ih => exact .cons (fun v hv x hx => h.contains hx v hv) ih

end Held

theorem exists_held (m : Machine) : ∃ us, Held m us := by
  obtain ⟨n, hn⟩ : ∃ n, m.console.lines.length ≤ n := ⟨_, Nat.le_refl _⟩
  induction n generalizing m with
  | zero => exact ⟨[], .silent (List.length_eq_zero_iff.1 (by omega))⟩
  | succ n ih =>
    cases hl : m.console.lines with
    | nil => exact ⟨[], .silent hl⟩
    | cons line rest =>
      obtain ⟨taken, ht⟩ := Turn.exists_took line (m.clear.withLines rest)
      let u : Turn := { line, before := m.clear.withLines rest, taken }
      have hm : u.before.withLines (u.line :: u.before.console.lines) = m.clear := by
        show m.clear.withLines (line :: rest) = m.clear
        rw [← hl]
        rfl
      have hlines : rest = u.taken ++ u.outcome.machine.console.lines := ht.lines
      have hlen := congrArg List.length hlines
      rw [List.length_append] at hlen
      rw [hl, List.length_cons] at hn
      obtain ⟨us, hus⟩ := ih u.outcome.machine (by omega)
      exact ⟨u :: us, .turn hm ht hus⟩

/-- A conversation takes every line once and in order, as a program line or as the line of one `read` that is
executed, until none is left. What it shows after each prompt is what the program line prints and why it fails in a
session whose console holds the lines of the `read`s alone; there the program lines also leave the same tables. After
the last of them comes one more prompt. A name that is declared stays so, whatever fails. -/
theorem conversation_session (t : Text) : ∃ turns : List Turn,
    let told := (Machine.fresh { lines := turns.flatMap Turn.taken, failure := none }).session (turns.map Turn.line)
    Held (Machine.fresh (.ofText t)) turns ∧
    (∀ extra, exchangesWithin (t.feedLines.length + extra) (Machine.fresh (.ofText t)) = turns.map Turn.exchange) ∧
    t.feedLines = turns.flatMap (fun u => u.line :: u.taken) ∧
    told.map (·.withLines []) = turns.map (·.outcome.withLines []) ∧
    transcript (.ofText t) = told.flatMap (fun o => mark ++ o.machine.output ++ o.complaint) ++ mark ∧
    turns.Pairwise fun u v =>
      ∀ x, u.outcome.machine.table.contains x = true → v.outcome.machine.table.contains x = true := by
  obtain ⟨turns, h⟩ := exists_held (Machine.fresh (.ofText t))
  have hs := h.session
  refine ⟨turns, h, h.exchanges, h.lines, hs, ?_, h.declared⟩
  -- What is shown of an outcome does not depend on the lines that are left.
  let shown (o : Machine.Outcome) : Text := mark ++ o.machine.output ++ o.complaint
  have hx : Prompt.exchanges (Machine.fresh (.ofText t)) = turns.map Turn.exchange := h.exchanges 0
  rw [transcript, hx]
  congr 1
  calc (turns.map Turn.exchange).flatMap Exchange.text
    _ = (turns.map (·.outcome.withLines [])).flatMap shown := by rw [List.flatMap_map, List.flatMap_map]; rfl
    _ = _ := by rw [← hs, List.flatMap_map]; rfl

/-- The third line is taken by the second one, which then fails. -/
example : transcript (.ofText "var n : int;\nread n; print 1 / n;\n0\nprint n;") =
    "> > [Runtime error] Division by zero\n> 0> " := by decide +kernel

end Prompt

end MiniPL
