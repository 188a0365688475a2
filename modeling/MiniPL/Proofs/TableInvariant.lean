import MiniPL.Proofs.Keeping
import MiniPL.Proofs.RoundTrip
/-!
# What is always true of the table

The names with a value are the names with a type, every value is of its name's type, and every integer has a
place in 32 bits (`NameTable.Sound`). This holds at every point of every run of programs whose integer literals
have a place, which all programs that are read from text are.
-/

namespace MiniPL

/-- An integer value has a place in 32 bits. -/
def Value.Fits : Value → Prop
  | .int n => InRange n
  | _ => True

/-- The same names have a value and a type, and every value is of that type and has its place. -/
structure NameTable.Sound (t : NameTable) : Prop where
  names : ∀ x, (t.value? x).isSome ↔ (t.type? x).isSome
  types : ∀ x v, t.value? x = some v → t.type? x = some v.ty
  fits : ∀ x v, t.value? x = some v → v.Fits

/-! ## Values that fit -/

theorem Value.checked_fits {n : Int} {v : Value} (h : checked n = .ok v) : v.Fits := by
  unfold checked at h
  split at h
  · next hn => cases h; exact hn
  · cases h

theorem Value.default_fits (ty : Ty) : (default ty).Fits := by
  cases ty with
  | int => exact ⟨by decide, by decide⟩
  | _ => trivial

theorem Value.ofLine_fits {ty : Ty} {line : Text} {v : Value} (h : ofLine ty line = .ok v) : v.Fits := by
  unfold ofLine ofStripped at h
  cases ty with
  | string => cases h; trivial
  | bool =>
    simp only at h
    split at h
    · cases h; trivial
    · split at h
      · cases h; trivial
      · cases h
  | int =>
    simp only at h
    split at h
    · cases h
    · split at h
      · next hn => cases h; exact hn
      · cases h

/-- An operator checks every integer that it returns. -/
theorem Operator.apply_fits {op : Operator} {l r v : Value} (h : op.apply l r = .ok v) : v.Fits := by
  cases op with
  | add =>
    cases l with
    | int a => obtain ⟨b, -, h⟩ := except_bind_ok.1 h; exact Value.checked_fits h
    | string s => obtain ⟨t, -, h⟩ := except_bind_ok.1 h; cases h; trivial
    | bool p => cases h
  | sub =>
    obtain ⟨a, -, h⟩ := except_bind_ok.1 h
    obtain ⟨b, -, h⟩ := except_bind_ok.1 h
    exact Value.checked_fits h
  | mul =>
    obtain ⟨a, -, h⟩ := except_bind_ok.1 h
    obtain ⟨b, -, h⟩ := except_bind_ok.1 h
    exact Value.checked_fits h
  | div =>
    obtain ⟨a, -, h⟩ := except_bind_ok.1 h
    obtain ⟨b, -, h⟩ := except_bind_ok.1 h
    split at h
    · cases h
    · exact Value.checked_fits h
  | and =>
    obtain ⟨p, -, h⟩ := except_bind_ok.1 h
    obtain ⟨q, -, h⟩ := except_bind_ok.1 h
    cases h
    trivial
  | equal => cases h; trivial
  | less =>
    cases l with
    | int a => obtain ⟨b, -, h⟩ := except_bind_ok.1 h; cases h; trivial
    | string s => obtain ⟨t, -, h⟩ := except_bind_ok.1 h; cases h; trivial
    | bool p => obtain ⟨q, -, h⟩ := except_bind_ok.1 h; cases h; trivial
  | not => cases h

theorem Operator.applyUnary_fits {op : Operator} {v w : Value} (h : op.applyUnary v = .ok w) : w.Fits := by
  cases op with
  | not => obtain ⟨p, -, h⟩ := except_bind_ok.1 h; cases h; trivial
  | _ => cases h

/-! ## The table -/

namespace NameTable

variable {t t' : NameTable} {x : Text} {v : Value}

theorem lookup_ok (h : t.lookup x = .ok v) : t.value? x = some v := by
  unfold lookup at h
  split at h
  · next hv => cases h; exact hv
  · cases h

theorem declare_ok {ty : Ty} (h : t.declare x ty v = .ok t') : v.ty = ty ∧ t' = t.bind x ty v := by
  unfold declare at h
  split at h
  · next hv => cases h; exact ⟨hv, rfl⟩
  · cases h

theorem typeOf_ok {ty : Ty} (h : t.typeOf x = .ok ty) : t.type? x = some ty := by
  unfold typeOf at h
  split at h
  · next hv => cases h; exact hv
  · cases h

theorem assign_ok (h : t.assign x v = .ok t') : t.type? x = some v.ty ∧ t' = t.set x v := by
  unfold assign at h
  split at h
  · cases h
  · obtain ⟨ty, hty, h⟩ := except_bind_ok.1 h
    split at h
    · next hv => cases h; exact ⟨hv ▸ typeOf_ok hty, rfl⟩
    · cases h

theorem sound_empty : empty.Sound := ⟨by simp, by simp, by simp⟩

/-- A name that gets a value of its type leaves a table sound, if nothing changes for the other names. -/
theorem Sound.entered (ht : t.Sound) (hv : v.Fits)
    (hvalue : ∀ y, t'.value? y = if y = x then some v else t.value? y)
    (htype : ∀ y, t'.type? y = if y = x then some v.ty else t.type? y) : t'.Sound := by
  refine ⟨fun y => ?_, fun y w hw => ?_, fun y w hw => ?_⟩
  · rw [hvalue, htype]
    split
    · simp
    · exact ht.names y
  · rw [hvalue] at hw
    rw [htype]
    by_cases hy : y = x
    · rw [if_pos hy] at hw ⊢
      cases hw
      rfl
    · rw [if_neg hy] at hw ⊢
      exact ht.types y w hw
  · rw [hvalue] at hw
    by_cases hy : y = x
    · rw [if_pos hy] at hw
      cases hw
      exact hv
    · rw [if_neg hy] at hw
      exact ht.fits y w hw

theorem Sound.declare {ty : Ty} (ht : t.Sound) (hv : v.Fits) (h : t.declare x ty v = .ok t') : t'.Sound := by
  obtain ⟨rfl, rfl⟩ := declare_ok h
  exact ht.entered hv (fun y => value?_bind t x y v.ty v) fun y => type?_bind t x y v.ty v

/-- An assignment finds the type that the value has. -/
theorem Sound.assign (ht : t.Sound) (hv : v.Fits) (h : t.assign x v = .ok t') : t'.Sound := by
  obtain ⟨hty, rfl⟩ := assign_ok h
  refine ht.entered hv (fun y => value?_set t x y v) fun y => ?_
  rw [type?_set]
  split
  · next hy => rw [hy, hty]
  · rfl

end NameTable

/-! ## Expressions -/

mutual

theorem Expr.eval_fits {t : NameTable} (ht : t.Sound) {e : Expr} (he : ∀ n ∈ e.integers, Value.InRange n)
    {v : Value} (h : e.eval t = .ok v) : v.Fits := by
  cases e with
  | simple a => exact Operand.eval_fits ht (a := a) he h
  | unary op a =>
    obtain ⟨w, -, h⟩ := except_bind_ok.1 h
    exact Operator.applyUnary_fits h
  | binary a op b =>
    obtain ⟨l, -, h⟩ := except_bind_ok.1 h
    obtain ⟨r, -, h⟩ := except_bind_ok.1 h
    exact Operator.apply_fits h

theorem Operand.eval_fits {t : NameTable} (ht : t.Sound) {a : Operand} (ha : ∀ n ∈ a.integers, Value.InRange n)
    {v : Value} (h : a.eval t = .ok v) : v.Fits := by
  cases a with
  | literal w =>
    cases h
    cases v with
    | int n => exact ha n (List.mem_singleton.2 rfl)
    | _ => trivial
  | «variable» x => exact ht.fits x v (NameTable.lookup_ok h)
  | group e => exact Expr.eval_fits ht (e := e) ha h

end

/-! ## Steps -/

/-- The integers that a piece of work holds or counts through have a place. -/
def Task.Fits : Task → Prop
  | .stmt s => ∀ n ∈ s.integers, Value.InRange n
  | .rounds _ body i count =>
    (∀ n ∈ Stmt.blockIntegers body, Value.InRange n) ∧ Value.minInt ≤ i ∧ i + count ≤ Value.maxInt + 1

theorem fits_block {body : List Stmt} (h : ∀ n ∈ Stmt.blockIntegers body, Value.InRange n) :
    ∀ t ∈ body.map Task.stmt, t.Fits := by
  induction body with
  | nil => simp
  | cons s body ih =>
    rw [Stmt.blockIntegers, List.forall_mem_append] at h
    rw [List.map_cons, List.forall_mem_cons]
    exact ⟨h.1, ih h.2⟩

section
open Run

theorem keeps_fitting {e : Expr} (he : ∀ n ∈ e.integers, Value.InRange n) :
    Keeps NameTable.Sound (value e) Value.Fits :=
  keeps_value fun _ _ ht hv => Expr.eval_fits ht he hv

theorem stmt_keeps {s : Stmt} (h : (Task.stmt s).Fits) :
    Keeps NameTable.Sound (Task.stmt s).perform fun us => ∀ u ∈ us, u.Fits := by
  cases s with
  | declare x ty e =>
    cases e with
    | none => exact keeps_done (keeps_declare fun _ _ ht hd => ht.declare (Value.default_fits ty) hd)
    | some e => exact keeps_done ((keeps_fitting h).bind fun v hv => keeps_declare fun _ _ ht hd => ht.declare hv hd)
  | assign x e =>
    exact keeps_done ((keeps_fitting h).bind fun v hv => keeps_assign fun _ _ ht ha => ht.assign hv ha)
  | loop x first last body =>
    obtain ⟨ha, h⟩ := List.forall_mem_append.1 h
    obtain ⟨hb, hc⟩ := List.forall_mem_append.1 h
    refine (keeps_enter (fun _ _ ht => Expr.eval_fits ht ha) fun _ _ ht => Expr.eval_fits ht hb).bind fun r hr => ?_
    obtain ⟨i, count⟩ := r
    obtain ⟨b, hi, hb, hn⟩ := hr
    refine keeps_pure fun u hu => ?_
    rw [List.mem_singleton.1 hu]
    -- The last round counts to the upper bound, which has a place.
    have hi : Value.minInt ≤ i ∧ i ≤ Value.maxInt := hi
    have hb : Value.minInt ≤ b ∧ b ≤ Value.maxInt := hb
    have hn : count = (b + 1 - i).toNat := hn
    exact ⟨hc, hi.1, by omega⟩
  | read x => exact keeps_done (keeps_input fun _ _ _ _ _ ht hv ha => ht.assign (Value.ofLine_fits hv) ha)
  | print e => exact keeps_done ((keeps_fitting h).bind fun _ _ => keeps_print _)
  | assert e => exact keeps_done ((keeps_fitting h).bind fun v _ => keeps_check v)
  | empty => exact keeps_done (keeps_pure trivial)

/-- Doing one step of a piece of work keeps the table sound, and what is left fits again. -/
theorem Task.perform_keeps {t : Task} (h : t.Fits) :
    Keeps NameTable.Sound t.perform fun us => ∀ u ∈ us, u.Fits := by
  cases t with
  | stmt s => exact stmt_keeps h
  | rounds x body i count =>
    cases count with
    | zero => exact keeps_pure (by simp)
    | succ count =>
      obtain ⟨hb, hi, hn⟩ := h
      have hv : (Value.int i).Fits := ⟨hi, by omega⟩
      refine (keeps_assign fun _ _ ht ha => ht.assign hv ha).bind fun _ _ => keeps_pure ?_
      rw [List.forall_mem_append]
      refine ⟨fits_block hb, fun u hu => ?_⟩
      rw [List.mem_singleton.1 hu]
      exact ⟨hb, by omega, by omega⟩
end

/-- The table is sound, and the work that is left fits. -/
structure Point.Sound (a : Point) : Prop where
  table : a.machine.table.Sound
  left : ∀ t ∈ a.left, t.Fits

theorem Point.Reaches.sound {a b : Point} (h : a.Reaches b) (ha : a.Sound) : b.Sound := by
  obtain ⟨ht, hl⟩ := h.keeps (fun _ => Task.perform_keeps) ha.table ha.left
  exact ⟨ht, hl⟩

/-! ## Runs -/

theorem Passes.sound {m m' : Machine} {ps : List Program} (h : Passes m ps m') (hm : m.table.Sound)
    (hp : ∀ p ∈ ps, ∀ n ∈ Stmt.blockIntegers p, Value.InRange n) : m'.table.Sound := by
  have start {m : Machine} {p : Program} (hm : m.table.Sound) (h : ∀ n ∈ Stmt.blockIntegers p, Value.InRange n) :
      (m.start p).Sound := ⟨hm, fits_block h⟩
  induction h with
  | here => exact hm
  | within hr => exact (hr.sound (start hm (List.forall_mem_cons.1 hp).1)).table
  | after _ ih =>
    -- The end of a run is one of its points, whether a fault stopped it or not.
    obtain ⟨hp, hps⟩ := List.forall_mem_cons.1 hp
    exact ih ((reaches_run _ _).sound (start hm hp)).table hps

/-- Every program that is read from a text has only integers with a place in 32 bits. -/
theorem Program.inRange_of_ofText {code : Text} {p : Program} (h : ofText code = .ok p) :
    ∀ n ∈ Stmt.blockIntegers p, Value.InRange n := by
  intro n hn
  obtain ⟨ts, hs, hp⟩ := ofText_ok.1 h
  obtain ⟨hz, hm⟩ := (wellFormed_of_spelled hp hs).integers n hn
  exact ⟨by unfold Value.minInt; omega, hm⟩

/-- While programs run one after another on a new machine, its table is sound at every point, and every integer
that an expression evaluates to there has a place in 32 bits. Programs that are read from text qualify. -/
theorem Machine.table_sound :
    (∀ code p, Program.ofText code = .ok p → ∀ n ∈ Stmt.blockIntegers p, Value.InRange n) ∧
    ∀ (console : Console) (ps : List Program), (∀ p ∈ ps, ∀ n ∈ Stmt.blockIntegers p, Value.InRange n) →
      ∀ m, Passes (.fresh console) ps m → m.table.Sound ∧
        ∀ e : Expr, (∀ n ∈ e.integers, Value.InRange n) → ∀ n, e.eval m.table = .ok (.int n) → Value.InRange n := by
  refine ⟨fun code p h => Program.inRange_of_ofText h, fun console ps hp m h => ?_⟩
  have hm := h.sound NameTable.sound_empty hp
  exact ⟨hm, fun e he n hv => Expr.eval_fits hm he hv⟩

/-- The body of a loop gives the variable of the loop another type, so the second round is refused. -/
theorem Machine.table_sound_redeclared :
    let p : Program := [.declare "i" .int none, .read "i",
      .loop "i" (.simple (.variable "i")) (.simple (.literal (.int 9))) [.declare "i" .string none]]
    let ended := (Machine.fresh (.ofText "-7\n")).run p
    (∀ n ∈ Stmt.blockIntegers p, Value.InRange n) ∧ ended.fault = some (.badAssignment "i" .string .int) ∧
      ended.machine.table.Sound := by
  intro p ended
  have hp : ∀ n ∈ Stmt.blockIntegers p, Value.InRange n := by
    intro n hn
    rw [List.mem_singleton.1 (show n ∈ [9] from hn)]
    decide
  have hps : ∀ q ∈ [p], ∀ n ∈ Stmt.blockIntegers q, Value.InRange n := by simpa using hp
  exact ⟨hp, by decide +kernel, (table_sound.2 (.ofText "-7\n") [p] hps _ (.after .here)).1⟩

end MiniPL
