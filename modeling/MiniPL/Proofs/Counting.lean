import MiniPL.Proofs.Stopping
import MiniPL.Proofs.Unrolling
/-!
# What a loop counts with

The variable of a loop is looked at twice: it must be declared when the loop begins, and it must be an integer when the
first of them is assigned. So a variable of another type stops the loop before its body, but only if there is an integer
to assign. A loop that has no round to do is over, whatever the type of its variable (`Machine.run_loop_not_int`).
-/

namespace MiniPL

/-- The loop has both its bounds, its variable is there, and no integer lies between the bounds. -/
def NameTable.Idle (t : NameTable) (name : Text) (first last : Expr) : Prop :=
  t.contains name = true ∧ ∃ a b, first.eval t = .ok (.int a) ∧ last.eval t = .ok (.int b) ∧ b < a

section
variable {m m' : Machine} {name : Text} {first last : Expr} {body : List Stmt} {a b : Int} {count : Nat} {e : Fault}

/-! ## Entering a loop -/

namespace Run

theorem looks_integer (e : Expr) : Looks (integer e) := by
  constructor
  · intro m a m' h
    obtain ⟨v, m₁, hv, h⟩ := bind_ok.1 h
    rw [(looks_ofExcept _).ended h, (looks_value e).ended hv]
  · exact (looks_value e).bind fun v => (looks_ofExcept _).traceless

theorem looks_need (name : Text) : Looks (need name) := by
  have hn (m : Machine) : need name m =
      if m.table.contains name = true then .ok () m else .error (.notInitialized name) m := by
    rw [need, bind_get]
    cases m.table.contains name <;> rfl
  constructor
  · intro m u m' h
    rw [hn] at h
    split at h <;> cases h
    rfl
  · intro m f m' h
    rw [hn] at h
    split at h <;> cases h
    rfl

theorem contains_of_need {u : Unit} (h : need name m = .ok u m') : m.table.contains name = true := by
  rw [need, bind_get] at h
  cases hc : m.table.contains name with
  | true => rfl
  | false => rw [hc] at h; cases h

theorem eval_of_integer (h : integer first m = .ok a m') : first.eval m.table = .ok (.int a) := by
  obtain ⟨v, m₁, hv, h⟩ := bind_ok.1 h
  rw [value_eq, ofExcept_eq] at hv
  split at hv
  · next w hw =>
    cases hv
    cases v with
    | int n => cases h; exact hw
    | string s => cases h
    | bool p => cases h
  · cases hv

/-- A loop that is stopped before it begins leaves no trace. -/
theorem traceless_enter (name : Text) (first last : Expr) : Traceless (enter name first last) := by
  refine (looks_integer first).bind fun a => (looks_integer last).bind fun b => (looks_need name).bind fun _ => ?_
  intro m f m' h
  cases h

/-- A loop that begins has its bounds and its variable. -/
theorem enter_parts {r : Int × Nat} (h : enter name first last m = .ok r m') : ∃ b, m.table.contains name = true ∧
    first.eval m.table = .ok (.int r.1) ∧ last.eval m.table = .ok (.int b) := by
  obtain ⟨a, m₁, ha, h⟩ := bind_ok.1 h
  obtain ⟨b, m₂, hb, h⟩ := bind_ok.1 h
  obtain ⟨u, m₃, hn, h⟩ := bind_ok.1 h
  rw [(looks_integer last).ended hb] at hn
  rw [(looks_integer first).ended ha] at hb hn
  cases h
  exact ⟨b, contains_of_need hn, eval_of_integer ha, eval_of_integer hb⟩

/-- An integer is not assigned to a name that is not declared as one. -/
theorem assign_not_int (h : m.table.type? name ≠ some .int) (i : Int) : ∃ f, assign name (.int i) m = .error f m ∧
    ∀ ty, m.table.contains name = true → m.table.type? name = some ty → f = .badAssignment name ty .int := by
  rw [assign_eq, NameTable.assign_eq]
  unfold NameTable.contains
  cases m.table.value? name with
  | none => exact ⟨_, rfl, nofun⟩
  | some v =>
    cases hty : m.table.type? name with
    | none => exact ⟨_, rfl, nofun⟩
    | some ty =>
      have hn : (Value.int i).ty ≠ ty := fun he => h (hty.trans (congrArg some he.symm))
      simp only [if_neg hn]
      refine ⟨_, rfl, fun ty' _ he => ?_⟩
      cases he
      rfl

end Run

/-! ## The loop -/

/-- A loop that does not begin fails as it does with any other body. -/
theorem Machine.run_loop_stopped (h : Run.enter name first last m = .error e m') :
    m.run [.loop name first last body] = { fault := some e, machine := m } := by
  have hr : (Stmt.loop name first last body).run m = .error e m := by
    rw [Stmt.run, bind_of_error h, Run.traceless_enter name first last m e m' h]
  unfold Machine.run EStateM.run
  rw [Stmt.runAll_singleton, hr]

/-- Rounds whose integers cannot be assigned are over before the first body. -/
theorem Machine.run_unrolled_stopped (h : Run.assign name (.int a) m = .error e m) (hc : 0 < count) :
    m.run (Stmt.unrolled name body a count) = { fault := some e, machine := m } := by
  obtain ⟨n, rfl⟩ := Nat.exists_eq_succ_of_ne_zero (Nat.pos_iff_ne_zero.1 hc)
  have hr : Stmt.runAll (Stmt.unrolled name body a (n + 1)) m = .error e m := by
    rw [Stmt.unrolled, Stmt.runAll, Stmt.run, Run.value_literal, pure_bind]
    exact bind_of_error h
  unfold Machine.run EStateM.run
  rw [hr]

end

/-- A loop over a name that is not declared as an integer does nothing of its body, whichever body it is, and leaves the
table, the console and what was printed as they were. It ends without a fault only if it is idle. With something between
the bounds the fault is about the type of the variable. -/
theorem Machine.run_loop_not_int {m : Machine} {name : Text} (h : m.table.type? name ≠ some .int)
    (first last : Expr) : ∃ fault news,
      (∀ body, m.run [.loop name first last body] = { fault, machine := { m with events := news ++ m.events } }) ∧
      (fault = none ↔ m.table.Idle name first last) ∧
      ∀ ty a b, m.table.contains name = true → m.table.type? name = some ty →
        first.eval m.table = .ok (.int a) → last.eval m.table = .ok (.int b) → a ≤ b →
        fault = some (.badAssignment name ty .int) := by
  cases he : Run.enter name first last m with
  | error f m' =>
    refine ⟨some f, [], fun body => run_loop_stopped he, ⟨nofun, ?_⟩, ?_⟩
    · rintro ⟨hx, a, b, ha, hb, -⟩
      rw [Run.enter_ok ha hb hx] at he
      cases he
    · intro ty a b hx _ ha hb _
      rw [Run.enter_ok ha hb hx] at he
      cases he
  | ok r m' =>
    obtain ⟨b, hx, ha, hb⟩ := Run.enter_parts he
    generalize r.1 = a at ha
    by_cases hab : b < a
    · -- No round is left to do.
      have hc : (b + 1 - a).toNat = 0 := by omega
      refine ⟨none, [.looped name a b], fun body => ?_, ⟨fun _ => ⟨hx, a, b, ha, hb, hab⟩, fun _ => rfl⟩, ?_⟩
      · rw [run_loop ha hb hx, hc]
        rfl
      · intro ty a' b' _ _ ha' hb' hle
        cases ha.symm.trans ha'
        cases hb.symm.trans hb'
        omega
    · have hc : 0 < (b + 1 - a).toNat := by omega
      obtain ⟨f, hf, hty⟩ := Run.assign_not_int (m := { m with events := .looped name a b :: m.events }) h a
      refine ⟨some f, [.looped name a b], fun body => ?_, ⟨nofun, ?_⟩, ?_⟩
      · rw [run_loop ha hb hx, run_unrolled_stopped hf hc]
        rfl
      · rintro ⟨-, a', b', ha', hb', hlt⟩
        cases ha.symm.trans ha'
        cases hb.symm.trans hb'
        omega
      · intro ty _ _ hx ht _ _ _
        exact congrArg some (hty ty hx ht)

/-- The name is declared as a string, and its loop ends in the one case and fails in the other. -/
theorem Machine.run_loop_not_int_string :
    let m := ((fresh (.ofText "")).run [.declare "s" .string none]).machine
    let bound (n : Int) : Expr := .simple (.literal (.int n))
    m.table.type? "s" ≠ some .int ∧
      (∃ news, ∀ body, m.run [.loop "s" (bound 2) (bound 1) body] =
        { fault := none, machine := { m with events := news ++ m.events } }) ∧
      ∃ news, ∀ body, m.run [.loop "s" (bound 1) (bound 2) body] =
        { fault := some (.badAssignment "s" .string .int), machine := { m with events := news ++ m.events } } := by
  intro m bound
  have h : m.table.type? "s" ≠ some .int := by decide +kernel
  have hx : m.table.contains "s" = true := by decide +kernel
  obtain ⟨f, news, hr, hf, -⟩ := run_loop_not_int h (bound 2) (bound 1)
  obtain ⟨g, news', hr', -, hg⟩ := run_loop_not_int h (bound 1) (bound 2)
  refine ⟨h, ⟨news, ?_⟩, news', ?_⟩
  · rwa [hf.2 ⟨hx, 2, 1, rfl, rfl, by decide⟩] at hr
  · rwa [hg .string 1 2 hx (by decide +kernel) rfl rfl (by decide)] at hr'

/-- A loop over a name that is declared as a string can be run to its end. -/
theorem Machine.run_loop_string_ends : ¬ ∀ (m : Machine) (name : Text) (first last : Expr) (body : List Stmt),
    m.table.type? name ≠ some .int → (m.run [.loop name first last body]).fault ≠ none := by
  intro h
  let m := ((fresh (.ofText "")).run [.declare "s" .string none]).machine
  refine h m "s" (.simple (.literal (.int 2))) (.simple (.literal (.int 1))) [] ?_ ?_
  · decide +kernel
  · decide +kernel

end MiniPL
