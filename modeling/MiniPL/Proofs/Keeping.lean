import MiniPL.Proofs.Execution
/-!
# What a part of a run keeps true of the table

`Keeps J r Q` says that `r` leaves a table with `J` where it found one, whether it ends or is stopped, and that
it returns something with `Q` if it ends. The table changes in a declaration and in an assignment alone, so
what these two keep for the names of a program is kept at every point of its run (`Machine.reaches_keeps`).
-/

namespace MiniPL.Run

variable {J : NameTable → Prop} {α β : Type} {P : α → Prop} {Q : β → Prop}

structure Keeps (J : NameTable → Prop) (r : Run α) (Q : α → Prop) : Prop where
  ended : ∀ {m a m'}, J m.table → r m = .ok a m' → J m'.table ∧ Q a
  stopped : ∀ {m f m'}, J m.table → r m = .error f m' → J m'.table

theorem Keeps.bind {x : Run α} {f : α → Run β} (hx : Keeps J x P) (hf : ∀ a, P a → Keeps J (f a) Q) :
    Keeps J (x >>= f) Q where
  ended hm h := by
    obtain ⟨a, m₁, h₁, h₂⟩ := bind_ok.1 h
    obtain ⟨hj, ha⟩ := hx.ended hm h₁
    exact (hf a ha).ended hj h₂
  stopped hm h := by
    rcases bind_error.1 h with h₁ | ⟨a, m₁, h₁, h₂⟩
    · exact hx.stopped hm h₁
    · obtain ⟨hj, ha⟩ := hx.ended hm h₁
      exact (hf a ha).stopped hj h₂

theorem keeps_pure {b : β} (h : Q b) : Keeps J (pure b) Q where
  ended hm hr := by
    obtain ⟨rfl, rfl⟩ := pure_ok.1 hr
    exact ⟨hm, h⟩
  stopped _ hr := by cases hr

theorem keeps_throw (f : Fault) : Keeps J (throw f) Q where
  ended _ hr := by cases hr
  stopped hm hr := by cases hr; exact hm

theorem keeps_ofExcept {x : Except Fault β} (h : ∀ b, x = .ok b → Q b) : Keeps J (ofExcept x) Q := by
  cases x with
  | ok b => exact keeps_pure (h b rfl)
  | error f => exact keeps_throw f

theorem keeps_get : Keeps J get fun m => J m.table where
  ended hm hr := by cases hr; exact ⟨hm, hm⟩
  stopped _ hr := by cases hr

/-- A change of the machine that leaves the table as it should be. -/
theorem keeps_modify {g : Machine → Machine} (h : ∀ m, J m.table → J (g m).table) :
    Keeps J (modify g) fun _ => True where
  ended hm hr := by cases hr; exact ⟨h _ hm, trivial⟩
  stopped _ hr := by cases hr

/-! ## The parts of statements -/

theorem keeps_value {e : Expr} {Q : Value → Prop} (h : ∀ t v, J t → e.eval t = .ok v → Q v) :
    Keeps J (value e) Q :=
  keeps_get.bind fun m hm => keeps_ofExcept fun v hv => h m.table v hm hv

theorem keeps_integer {e : Expr} {Q : Int → Prop} (h : ∀ t n, J t → e.eval t = .ok (.int n) → Q n) :
    Keeps J (integer e) Q := by
  refine (keeps_value (Q := fun v => ∀ n, v = .int n → Q n) ?_).bind fun v hv => keeps_ofExcept fun n hn => ?_
  · rintro t v ht he n rfl
    exact h t n ht he
  · cases v with
    | int k => cases hn; exact hv _ rfl
    | _ => cases hn

theorem keeps_record (e : Event) : Keeps J (record e) fun _ => True := keeps_modify fun _ hm => hm

theorem keeps_print (t : Text) : Keeps J (print t) fun _ => True := keeps_modify fun _ hm => hm

theorem keeps_declare {name : Text} {ty : Ty} {v : Value}
    (h : ∀ t t', J t → t.declare name ty v = .ok t' → J t') : Keeps J (declare name ty v) fun _ => True := by
  refine keeps_get.bind fun m hm => ?_
  refine (keeps_ofExcept fun t' ht => h m.table t' hm ht).bind fun t' ht => ?_
  split
  · exact (keeps_record _).bind fun _ _ => keeps_modify fun _ _ => ht
  · exact keeps_modify fun _ _ => ht

theorem keeps_assign {name : Text} {v : Value} (h : ∀ t t', J t → t.assign name v = .ok t' → J t') :
    Keeps J (assign name v) fun _ => True := by
  refine keeps_get.bind fun m hm => ?_
  refine (keeps_ofExcept fun t' ht => h m.table t' hm ht).bind fun t' ht => ?_
  exact keeps_modify fun _ _ => ht

theorem keeps_line : Keeps J line fun _ => True := by
  refine keeps_get.bind fun m _ => ?_
  refine (keeps_ofExcept (Q := fun _ => True) fun _ _ => trivial).bind fun r _ => ?_
  obtain ⟨t, console⟩ := r
  refine Keeps.bind (keeps_modify ?_) fun _ _ => keeps_pure trivial
  exact fun _ hm => hm

theorem keeps_input {name : Text}
    (h : ∀ t t' ty line v, J t → Value.ofLine ty line = .ok v → t.assign name v = .ok t' → J t') :
    Keeps J (input name) fun _ => True := by
  refine keeps_get.bind fun m _ => ?_
  refine (keeps_ofExcept (Q := fun _ => True) fun _ _ => trivial).bind fun ty _ => ?_
  refine keeps_line.bind fun l _ => ?_
  refine (keeps_ofExcept fun v hv => hv).bind fun v hv => ?_
  exact keeps_assign fun t t' ht ha => h t t' ty l v ht hv ha

theorem keeps_check (v : Value) : Keeps J (check v) fun _ => True := by
  unfold check
  split
  · exact keeps_pure trivial
  · exact keeps_throw _
  · exact keeps_throw _

theorem keeps_need (name : Text) : Keeps J (need name) fun _ => True := by
  refine keeps_get.bind fun m _ => ?_
  split
  · exact keeps_pure trivial
  · exact keeps_throw _

/-- Both bounds are known before the loop begins. -/
theorem keeps_enter {name : Text} {first last : Expr} {R : Int → Prop}
    (ha : ∀ t n, J t → first.eval t = .ok (.int n) → R n) (hb : ∀ t n, J t → last.eval t = .ok (.int n) → R n) :
    Keeps J (enter name first last) fun r => ∃ b, R r.1 ∧ R b ∧ r.2 = (b + 1 - r.1).toNat := by
  refine (keeps_integer ha).bind fun a ha => (keeps_integer hb).bind fun b hb => ?_
  refine (keeps_need name).bind fun _ _ => (keeps_record _).bind fun _ _ => ?_
  exact keeps_pure ⟨b, ha, hb, rfl⟩

/-- Where a part of a run leaves nothing to do, nothing has to be said of what is left. -/
theorem keeps_done {r : Run Unit} {W : Task → Prop} (h : Keeps J r fun _ => True) :
    Keeps J (r >>= fun _ => pure []) fun us => ∀ u ∈ us, W u :=
  h.bind fun _ _ => keeps_pure (by simp)

end MiniPL.Run

namespace MiniPL

/-! ## Steps -/

section
variable {J : NameTable → Prop} {W : Task → Prop} (h : ∀ t, W t → Run.Keeps J t.perform fun us => ∀ u ∈ us, W u)
include h

theorem Point.Step.keeps {a b : Point} (hs : a.Step b) (hj : J a.machine.table) (hw : ∀ t ∈ a.left, W t) :
    J b.machine.table ∧ ∀ t ∈ b.left, W t := by
  cases hs with
  | done hp =>
    obtain ⟨ht, hl⟩ := List.forall_mem_cons.1 hw
    obtain ⟨hj, hu⟩ := (h _ ht).ended hj hp
    exact ⟨hj, List.forall_mem_append.2 ⟨hu, hl⟩⟩
  | stopped hp =>
    have ht := (List.forall_mem_cons.1 hw).1
    exact ⟨(h _ ht).stopped hj hp, by simp⟩

/-- What every piece of work keeps while it leaves such pieces again, a run keeps from point to point. -/
theorem Point.Reaches.keeps {a b : Point} (hr : a.Reaches b) (hj : J a.machine.table) (hw : ∀ t ∈ a.left, W t) :
    J b.machine.table ∧ ∀ t ∈ b.left, W t := by
  induction hr with
  | here => exact ⟨hj, hw⟩
  | step hs _ ih =>
    obtain ⟨hj, hw⟩ := hs.keeps h hj hw
    exact ih hj hw
end

/-! ## Names that are declared and names that get a value -/

mutual

/-- Every name that a statement declares, in the body of a loop as well. -/
def Stmt.declared : Stmt → List Text
  | .declare x _ _ => [x]
  | .loop _ _ _ body => Stmt.blockDeclared body
  | _ => []

def Stmt.blockDeclared : List Stmt → List Text
  | [] => []
  | s :: body => s.declared ++ Stmt.blockDeclared body

end

mutual

/-- Every name that a statement assigns to, reads or counts with. -/
def Stmt.assigned : Stmt → List Text
  | .assign x _ => [x]
  | .read x => [x]
  | .loop x _ _ body => x :: Stmt.blockAssigned body
  | _ => []

def Stmt.blockAssigned : List Stmt → List Text
  | [] => []
  | s :: body => s.assigned ++ Stmt.blockAssigned body

end

/-- The piece of work declares names of `ds` alone, and gives values to names of `xs` alone. -/
def Task.Within (ds xs : List Text) : Task → Prop
  | .stmt s => s.declared ⊆ ds ∧ s.assigned ⊆ xs
  | .rounds x body _ _ => Stmt.blockDeclared body ⊆ ds ∧ x ∈ xs ∧ Stmt.blockAssigned body ⊆ xs

section
variable {ds xs : List Text}

theorem within_block {body : List Stmt} (hd : Stmt.blockDeclared body ⊆ ds) (hx : Stmt.blockAssigned body ⊆ xs) :
    ∀ t ∈ body.map Task.stmt, t.Within ds xs := by
  induction body with
  | nil => simp
  | cons s body ih =>
    rw [Stmt.blockDeclared, List.append_subset] at hd
    rw [Stmt.blockAssigned, List.append_subset] at hx
    rw [List.map_cons, List.forall_mem_cons]
    exact ⟨⟨hd.1, hx.1⟩, ih hd.2 hx.2⟩

open Run

variable {J : NameTable → Prop}
  (hd : ∀ name ∈ ds, ∀ ty v t t', J t → t.declare name ty v = .ok t' → J t')
  (ha : ∀ name ∈ xs, ∀ v t t', J t → t.assign name v = .ok t' → J t')
include hd ha

/-- What the declarations of some names and the assignments to some names keep, a piece of work within these names
keeps. -/
theorem Task.perform_within {t : Task} (ht : t.Within ds xs) :
    Keeps J t.perform fun us => ∀ u ∈ us, u.Within ds xs := by
  have hv (e : Expr) : Keeps J (value e) fun _ => True := keeps_value fun _ _ _ _ => trivial
  cases t with
  | stmt s =>
    obtain ⟨hs, hs'⟩ := ht
    cases s with
    | declare name ty e =>
      have hn : name ∈ ds := hs (List.mem_singleton.2 rfl)
      cases e with
      | none => exact keeps_done (keeps_declare (hd name hn ty _))
      | some e => exact keeps_done ((hv e).bind fun v _ => keeps_declare (hd name hn ty v))
    | assign name e =>
      have hn : name ∈ xs := hs' (List.mem_singleton.2 rfl)
      exact keeps_done ((hv e).bind fun v _ => keeps_assign (ha name hn v))
    | loop name first last body =>
      obtain ⟨hn, hb⟩ := List.cons_subset.1 hs'
      refine (keeps_enter (R := fun _ => True) (fun _ _ _ _ => trivial) fun _ _ _ _ => trivial).bind fun r _ => ?_
      exact keeps_pure (List.forall_mem_singleton.2 ⟨hs, hn, hb⟩)
    | read name =>
      have hn : name ∈ xs := hs' (List.mem_singleton.2 rfl)
      exact keeps_done (keeps_input fun t t' _ _ v ht _ => ha name hn v t t' ht)
    | print e => exact keeps_done ((hv e).bind fun v _ => keeps_print _)
    | assert e => exact keeps_done ((hv e).bind fun v _ => keeps_check v)
    | empty => exact keeps_done (keeps_pure trivial)
  | rounds name body i count =>
    obtain ⟨hb, hn, hb'⟩ := ht
    cases count with
    | zero => exact keeps_pure (by simp)
    | succ count =>
      refine (keeps_assign (ha name hn _)).bind fun _ _ => keeps_pure ?_
      rw [List.forall_mem_append, List.forall_mem_singleton]
      exact ⟨within_block hb hb', hb, hn, hb'⟩

end

/-- At every point of a program's run the table has what every declaration and every assignment in the program keeps. -/
theorem Machine.reaches_keeps {J : NameTable → Prop} {p : Program}
    (hd : ∀ name ∈ Stmt.blockDeclared p, ∀ ty v t t', J t → t.declare name ty v = .ok t' → J t')
    (ha : ∀ name ∈ Stmt.blockAssigned p, ∀ v t t', J t → t.assign name v = .ok t' → J t') {m : Machine}
    (hm : J m.table) {a : Point} (h : (m.start p).Reaches a) : J a.machine.table :=
  (h.keeps (fun _ => Task.perform_within hd ha) hm (within_block (List.Subset.refl _) (List.Subset.refl _))).1

/-- What every declaration and every assignment keeps, every program keeps. -/
theorem Machine.run_keeps {J : NameTable → Prop} (hd : ∀ name ty v t t', J t → t.declare name ty v = .ok t' → J t')
    (ha : ∀ name v t t', J t → t.assign name v = .ok t' → J t') {m : Machine} (hm : J m.table) (p : Program) :
    J (m.run p).machine.table :=
  reaches_keeps (fun name _ => hd name) (fun name _ => ha name) hm (reaches_run m p)

end MiniPL
