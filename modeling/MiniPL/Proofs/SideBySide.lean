import MiniPL.Proofs.Parts
import MiniPL.Proofs.WellFormed
/-!
# Two runs side by side

`Alike R V r s` says that `r` and `s`, started on machines that `R` relates, both end or are both stopped by the same
fault, and leave machines that `R` relates again; what they return is related by `V`. A statement goes on alike on
related machines if they agree on its names, stay related when the same is done to both (`SteadyOn`), and give the same
lines. That is so if they have the same table (`Steady`) and differ in what was printed and recorded before
(`Machine.run_beside`).
-/

namespace MiniPL.Run

variable {R : Machine → Machine → Prop} {α β γ δ : Type} {V : α → β → Prop} {W : γ → δ → Prop}

/-- Two parts of a run end in the same way. -/
inductive Agree (R : Machine → Machine → Prop) (V : α → β → Prop) :
    EStateM.Result Fault Machine α → EStateM.Result Fault Machine β → Prop
  | ended {a b m m'} : V a b → R m m' → Agree R V (.ok a m) (.ok b m')
  | stopped {f m m'} : R m m' → Agree R V (.error f m) (.error f m')

/-- From related machines, two parts of a run end in the same way. -/
def Alike (R : Machine → Machine → Prop) (V : α → β → Prop) (r : Run α) (s : Run β) : Prop :=
  ∀ m m', R m m' → Agree R V (r m) (s m')

theorem Alike.bind {x : Run α} {y : Run β} {f : α → Run γ} {g : β → Run δ} (hx : Alike R V x y)
    (hf : ∀ a b, V a b → Alike R W (f a) (g b)) : Alike R W (x >>= f) (y >>= g) := by
  intro m m' hm
  show Agree R W (EStateM.bind x f m) (EStateM.bind y g m')
  unfold EStateM.bind
  have h := hx m m' hm
  generalize x m = r, y m' = s at h ⊢
  cases h with
  | ended hv hr => exact hf _ _ hv _ _ hr
  | stopped hr => exact .stopped hr

theorem alike_pure {a : α} {b : β} (h : V a b) : Alike R V (pure a) (pure b) := fun _ _ hm => .ended h hm

theorem alike_throw (f : Fault) : Alike R V (throw f) (throw f) := fun _ _ hm => .stopped hm

theorem alike_ofExcept (x : Except Fault α) : Alike R Eq (ofExcept x) (ofExcept x) := by
  cases x with
  | ok a => exact alike_pure rfl
  | error f => exact alike_throw f

theorem alike_get : Alike R R get get := fun _ _ hm => .ended hm hm

theorem alike_modify {g h : Machine → Machine} (hg : ∀ m m', R m m' → R (g m) (h m')) :
    Alike R Eq (modify g) (modify h) := fun m m' hm => .ended rfl (hg m m' hm)

/-- The machines have the same table, and are related again if the same is done to both, the console apart. -/
structure Steady (R : Machine → Machine → Prop) : Prop where
  table : ∀ {m m'}, R m m' → m.table = m'.table
  setTable : ∀ {m m'} t, R m m' → R { m with table := t } { m' with table := t }
  print : ∀ {m m'} t, R m m' → R { m with printed := t :: m.printed } { m' with printed := t :: m'.printed }
  record : ∀ {m m'} e, R m m' → R { m with events := e :: m.events } { m' with events := e :: m'.events }

/-- The machines agree on the names that are looked at, and are related again if the same is done to both, the console
and all other names apart. -/
structure SteadyOn (On : Text → Prop) (R : Machine → Machine → Prop) : Prop where
  type? : ∀ {m m' x}, R m m' → On x → m.table.type? x = m'.table.type? x
  value? : ∀ {m m' x}, R m m' → On x → m.table.value? x = m'.table.value? x
  bind : ∀ {m m' x} ty v, R m m' → On x →
    R { m with table := m.table.bind x ty v } { m' with table := m'.table.bind x ty v }
  set : ∀ {m m' x} v, R m m' → On x → R { m with table := m.table.set x v } { m' with table := m'.table.set x v }
  print : ∀ {m m'} t, R m m' → R { m with printed := t :: m.printed } { m' with printed := t :: m'.printed }
  record : ∀ {m m'} e, R m m' → R { m with events := e :: m.events } { m' with events := e :: m'.events }

/-- Machines with the same table agree on every name. -/
theorem Steady.everywhere (hR : Steady R) : SteadyOn (fun _ => True) R where
  type? hm _ := by rw [hR.table hm]
  value? hm _ := by rw [hR.table hm]
  bind ty v hm _ := by
    rw [hR.table hm]
    exact hR.setTable _ hm
  set v hm _ := by
    rw [hR.table hm]
    exact hR.setTable _ hm
  print := hR.print
  record := hR.record

theorem Alike.seq {x : Run α} {f : α → Run γ} (hx : Alike R Eq x x) (hf : ∀ a, Alike R Eq (f a) (f a)) :
    Alike R Eq (x >>= f) (x >>= f) :=
  hx.bind fun a _ hab => hab ▸ hf a

end MiniPL.Run

namespace MiniPL

/-! ## Expressions -/

mutual

/-- The value of an expression depends on the values of its names alone. -/
theorem Expr.eval_congr {t t' : NameTable} {e : Expr} (h : ∀ x ∈ e.names, t.value? x = t'.value? x) :
    e.eval t = e.eval t' := by
  cases e with
  | simple a => exact Operand.eval_congr (a := a) h
  | unary op a =>
    rw [Expr.eval, Expr.eval, Operand.eval_congr (a := a) h]
  | binary a op b =>
    obtain ⟨ha, hb⟩ := List.forall_mem_append.1 h
    rw [Expr.eval, Expr.eval, Operand.eval_congr ha, Operand.eval_congr hb]

theorem Operand.eval_congr {t t' : NameTable} {a : Operand} (h : ∀ x ∈ a.names, t.value? x = t'.value? x) :
    a.eval t = a.eval t' := by
  cases a with
  | literal v => rfl
  | «variable» x =>
    have hx : t.value? x = t'.value? x := h x (List.mem_singleton.2 rfl)
    rw [Operand.eval, Operand.eval, NameTable.lookup, NameTable.lookup, hx]
  | group e => exact Expr.eval_congr (e := e) h

end

end MiniPL

namespace MiniPL.Run

variable {R : Machine → Machine → Prop} {On : Text → Prop}

/-! ## The parts of statements -/

section
variable (hR : SteadyOn On R)
include hR

theorem alike_value {e : Expr} (he : ∀ x ∈ e.names, On x) : Alike R Eq (value e) (value e) := by
  refine alike_get.bind fun m m' hm => ?_
  rw [Expr.eval_congr fun x hx => hR.value? hm (he x hx)]
  exact alike_ofExcept _

theorem alike_integer {e : Expr} (he : ∀ x ∈ e.names, On x) : Alike R Eq (integer e) (integer e) :=
  (alike_value hR he).seq fun v => alike_ofExcept v.toInt

theorem alike_record (e : Event) : Alike R Eq (record e) (record e) := alike_modify fun _ _ hm => hR.record e hm

theorem alike_print (t : Text) : Alike R Eq (print t) (print t) := alike_modify fun _ _ hm => hR.print t hm

theorem contains_eq {m m' : Machine} {name : Text} (hm : R m m') (hx : On name) :
    m.table.contains name = m'.table.contains name := by
  rw [NameTable.contains, NameTable.contains, hR.value? hm hx]

theorem alike_declare {name : Text} (hx : On name) (ty : Ty) (v : Value) :
    Alike R Eq (declare name ty v) (declare name ty v) := by
  intro m m' hm
  rw [declare_eq, declare_eq, contains_eq hR hm hx]
  split
  · refine .ended rfl ?_
    split
    · exact hR.bind ty v (hR.record _ hm) hx
    · exact hR.bind ty v hm hx
  · exact .stopped hm

theorem alike_assign_on {name : Text} (hx : On name) (v : Value) :
    Alike R Eq (assign name v) (assign name v) := by
  intro m m' hm
  rw [assign_eq, assign_eq, NameTable.assign_eq, NameTable.assign_eq, hR.type? hm hx, hR.value? hm hx]
  rcases m'.table.value? name with - | w
  · exact .stopped hm
  · rcases m'.table.type? name with - | ty
    · exact .stopped hm
    · by_cases hv : v.ty = ty
      · simp only [if_pos hv]
        exact .ended rfl (hR.set v hm hx)
      · simp only [if_neg hv]
        exact .stopped hm

theorem alike_input (hl : Alike R Eq line line) {name : Text} (hx : On name) :
    Alike R Eq (input name) (input name) := by
  refine alike_get.bind fun m m' hm => ?_
  have hty : m.table.typeOf name = m'.table.typeOf name := by
    rw [NameTable.typeOf, NameTable.typeOf, hR.type? hm hx]
  rw [hty]
  refine (alike_ofExcept _).seq fun ty => hl.seq fun l => ?_
  exact (alike_ofExcept _).seq fun v => alike_assign_on hR hx v

omit hR in
/-- A line is taken alike if the machines have the same console and stay related when both get another one. -/
theorem alike_line (hc : ∀ {m m'}, R m m' → m.console = m'.console)
    (hs : ∀ {m m'} c, R m m' → R { m with console := c } { m' with console := c }) : Alike R Eq line line := by
  refine alike_get.bind fun m m' hm => ?_
  rw [hc hm]
  refine (alike_ofExcept _).seq fun r => ?_
  obtain ⟨t, console⟩ := r
  exact (alike_modify fun _ _ hm => hs console hm).seq fun _ => alike_pure rfl

omit hR in
theorem alike_check (v : Value) : Alike R Eq (check v) (check v) := by
  unfold check
  split
  · exact alike_pure rfl
  · exact alike_throw _
  · exact alike_throw _

theorem alike_need {name : Text} (hx : On name) : Alike R Eq (need name) (need name) := by
  refine alike_get.bind fun m m' hm => ?_
  rw [contains_eq hR hm hx]
  split
  · exact alike_pure rfl
  · exact alike_throw _

theorem alike_enter_on {name : Text} {first last : Expr} (hx : On name) (ha : ∀ x ∈ first.names, On x)
    (hb : ∀ x ∈ last.names, On x) : Alike R Eq (enter name first last) (enter name first last) := by
  refine (alike_integer hR ha).seq fun a => (alike_integer hR hb).seq fun b => ?_
  exact (alike_need hR hx).seq fun _ => (alike_record hR _).seq fun _ => alike_pure rfl

theorem alike_each {name : Text} (hx : On name) {body : Run Unit} (hb : Alike R Eq body body) (i : Int)
    (count : Nat) : Alike R Eq (each name body i count) (each name body i count) := by
  induction count generalizing i with
  | zero => exact alike_pure rfl
  | succ count ih => exact (alike_assign_on hR hx _).seq fun _ => hb.seq fun _ => ih (i + 1)
end

theorem alike_assign (hR : Steady R) (name : Text) (v : Value) : Alike R Eq (assign name v) (assign name v) :=
  alike_assign_on hR.everywhere trivial v

theorem alike_enter (hR : Steady R) (name : Text) (first last : Expr) :
    Alike R Eq (enter name first last) (enter name first last) :=
  alike_enter_on hR.everywhere trivial (fun _ _ => trivial) fun _ _ => trivial

end MiniPL.Run

namespace MiniPL

/-! ## Statements -/

section
open Run
variable {R : Machine → Machine → Prop} {On : Text → Prop}

/-- Apart from loops and `read`s, statements do not look at the console. -/
theorem Stmt.run_alike_simple_on (hR : SteadyOn On R) {s : Stmt} (hs : ∀ x ∈ s.names, On x)
    (hl : ∀ x a b body, s ≠ .loop x a b body) (hr : ∀ x, s ≠ .read x) : Alike R Eq s.run s.run := by
  cases s with
  | declare name ty e =>
    cases e with
    | none => exact alike_declare hR (hs name (List.mem_singleton.2 rfl)) ty _
    | some e =>
      obtain ⟨hx, he⟩ := List.forall_mem_cons.1 hs
      exact (alike_value hR he).seq fun v => alike_declare hR hx ty v
  | assign name e =>
    obtain ⟨hx, he⟩ := List.forall_mem_cons.1 hs
    exact (alike_value hR he).seq fun v => alike_assign_on hR hx v
  | loop x a b body => exact absurd rfl (hl x a b body)
  | read x => exact absurd rfl (hr x)
  | print e => exact (alike_value (e := e) hR hs).seq fun v => alike_print hR _
  | assert e => exact (alike_value (e := e) hR hs).seq fun v => alike_check v
  | empty => exact alike_pure rfl

theorem Stmt.run_alike_simple (hR : Steady R) {s : Stmt} (hl : ∀ x a b body, s ≠ .loop x a b body)
    (hr : ∀ x, s ≠ .read x) : Alike R Eq s.run s.run :=
  run_alike_simple_on hR.everywhere (fun _ _ => trivial) hl hr

mutual

theorem Stmt.run_alike (hR : SteadyOn On R) (hl : Alike R Eq line line) {s : Stmt} (hs : ∀ x ∈ s.names, On x) :
    Alike R Eq s.run s.run := by
  cases s with
  | loop name first last body =>
    obtain ⟨hx, hs⟩ := List.forall_mem_cons.1 hs
    obtain ⟨ha, hs⟩ := List.forall_mem_append.1 hs
    obtain ⟨hb, hbody⟩ := List.forall_mem_append.1 hs
    rw [Stmt.run]
    refine (alike_enter_on hR hx ha hb).seq fun r => ?_
    obtain ⟨i, count⟩ := r
    exact alike_each hR hx (Stmt.runAll_alike hR hl hbody) i count
  | read name => exact alike_input hR hl (hs name (List.mem_singleton.2 rfl))
  | _ => exact Stmt.run_alike_simple_on hR hs (by simp) (by simp)

theorem Stmt.runAll_alike (hR : SteadyOn On R) (hl : Alike R Eq line line) {body : List Stmt}
    (hb : ∀ x ∈ Stmt.blockNames body, On x) : Alike R Eq (Stmt.runAll body) (Stmt.runAll body) := by
  cases body with
  | nil => exact alike_pure rfl
  | cons s body =>
    obtain ⟨hs, hb⟩ := List.forall_mem_append.1 hb
    exact (Stmt.run_alike hR hl hs).seq fun _ => Stmt.runAll_alike hR hl hb

end

end

/-! ## Programs -/

/-- A program ends in the same way on machines that are related and agree on its names, and leaves them related. -/
theorem Machine.run_alike_on {R : Machine → Machine → Prop} {On : Text → Prop} (hR : Run.SteadyOn On R)
    (hl : Run.Alike R Eq Run.line Run.line) {p : Program} (hp : ∀ x ∈ Stmt.blockNames p, On x) {m m' : Machine}
    (h : R m m') : (m.run p).fault = (m'.run p).fault ∧ R (m.run p).machine (m'.run p).machine := by
  have ha := Stmt.runAll_alike hR hl hp m m' h
  unfold run EStateM.run
  generalize Stmt.runAll p m = r, Stmt.runAll p m' = s at ha ⊢
  cases ha with
  | ended _ hr => exact ⟨rfl, hr⟩
  | stopped hr => exact ⟨rfl, hr⟩

/-- A program ends in the same way on related machines, and leaves them related. -/
theorem Machine.run_alike {R : Machine → Machine → Prop} (hR : Run.Steady R) (hl : Run.Alike R Eq Run.line Run.line)
    {m m' : Machine} (h : R m m') (p : Program) :
    (m.run p).fault = (m'.run p).fault ∧ R (m.run p).machine (m'.run p).machine :=
  run_alike_on hR.everywhere hl (fun _ _ => trivial) h

/-- The machines have the same table and console, and the first has printed `before` earlier than all that the
second has printed. What they have recorded does not matter. -/
structure Machine.Beside (before : List Text) (m m' : Machine) : Prop where
  table : m.table = m'.table
  console : m.console = m'.console
  printed : m.printed = m'.printed ++ before

namespace Run

variable {before : List Text}

/-- A part of a run does the same on machines that stand side by side. -/
abbrev Same {α : Type} (before : List Text) (r : Run α) : Prop := Alike (Machine.Beside before) Eq r r

theorem steady_beside : Steady (Machine.Beside before) where
  table hm := hm.table
  setTable _ hm := ⟨rfl, hm.console, hm.printed⟩
  print t hm := ⟨hm.table, hm.console, congrArg (t :: ·) hm.printed⟩
  record _ hm := ⟨hm.table, hm.console, hm.printed⟩

theorem same_line : Same before line :=
  alike_line (fun hm => hm.console) fun _ hm => ⟨hm.table, rfl, hm.printed⟩

end Run

namespace Machine

/-- A program ends in the same way on machines that stand side by side, and leaves them so. -/
theorem run_beside {before : List Text} {m m' : Machine} (h : Beside before m m') (p : Program) :
    (m.run p).fault = (m'.run p).fault ∧ Beside before (m.run p).machine (m'.run p).machine :=
  run_alike Run.steady_beside Run.same_line h p

end Machine

end MiniPL
