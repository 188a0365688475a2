import MiniPL.Proofs.SideBySide
/-!
# Names that a program does not mention

Two machines with the same console may hold different names, as long as their tables say the same of those that a
program mentions. They are then abreast of each other for as long as the program runs on both.
-/

namespace MiniPL

/-- The tables say the same of each of the names: whether it is there, its type and its value. -/
def NameTable.AgreeOn (names : List Text) (t t' : NameTable) : Prop :=
  ∀ x ∈ names, t.type? x = t'.type? x ∧ t.value? x = t'.value? x

instance (names : List Text) (t t' : NameTable) : Decidable (t.AgreeOn names t') :=
  inferInstanceAs (Decidable (∀ x ∈ names, _))

namespace NameTable.AgreeOn

variable {names : List Text} {t t' : NameTable}

theorem bind (h : t.AgreeOn names t') (x : Text) (ty : Ty) (v : Value) :
    (t.bind x ty v).AgreeOn names (t'.bind x ty v) := by
  intro y hy
  simp only [type?_bind, value?_bind]
  split
  · exact ⟨rfl, rfl⟩
  · exact h y hy

theorem set (h : t.AgreeOn names t') (x : Text) (v : Value) : (t.set x v).AgreeOn names (t'.set x v) := by
  intro y hy
  obtain ⟨hty, hv⟩ := h y hy
  simp only [type?_set, value?_set, hty, hv, and_self]

end NameTable.AgreeOn

/-- Since the one machine was at `start` and the other at `start'`, the same was printed and recorded on both; they have
the same console, and their tables agree on the names. -/
structure Machine.Abreast (names : List Text) (start start' m m' : Machine) : Prop where
  table : m.table.AgreeOn names m'.table
  console : m.console = m'.console
  printed : ∃ said, m.printed = said ++ start.printed ∧ m'.printed = said ++ start'.printed
  events : ∃ news, m.events = news ++ start.events ∧ m'.events = news ++ start'.events

namespace Run

variable {names : List Text} {start start' : Machine}

theorem steady_abreast : SteadyOn (· ∈ names) (Machine.Abreast names start start') where
  type? hm hx := (hm.table _ hx).1
  value? hm hx := (hm.table _ hx).2
  bind ty v hm _ := ⟨hm.table.bind _ ty v, hm.console, hm.printed, hm.events⟩
  set v hm _ := ⟨hm.table.set _ v, hm.console, hm.printed, hm.events⟩
  print t := by
    rintro ⟨ht, hc, ⟨said, hs, hs'⟩, he⟩
    exact ⟨ht, hc, ⟨t :: said, congrArg (t :: ·) hs, congrArg (t :: ·) hs'⟩, he⟩
  record e := by
    rintro ⟨ht, hc, hp, news, hn, hn'⟩
    exact ⟨ht, hc, hp, e :: news, congrArg (e :: ·) hn, congrArg (e :: ·) hn'⟩

theorem abreast_line : Alike (Machine.Abreast names start start') Eq line line :=
  alike_line (fun hm => hm.console) fun _ hm => ⟨hm.table, rfl, hm.printed, hm.events⟩

end Run

namespace Machine

/-- On machines with the same console whose tables agree on the names of a program, the program is stopped by the same
fault or by none. It prints the same on both, leaves the same console, and leaves tables that agree on its names. -/
theorem run_mentioned {p : Program} {m m' : Machine} (hc : m.console = m'.console)
    (ht : m.table.AgreeOn (Stmt.blockNames p) m'.table) :
    (m.run p).fault = (m'.run p).fault ∧
      Abreast (Stmt.blockNames p) m m' (m.run p).machine (m'.run p).machine := by
  have hm : Abreast (Stmt.blockNames p) m m' m m' := ⟨ht, hc, ⟨[], rfl, rfl⟩, ⟨[], rfl, rfl⟩⟩
  exact run_alike_on Run.steady_abreast Run.abreast_line (fun _ hx => hx) hm

/-- The second machine has printed something else, holds another name and has declared `i` twice. The second line of
input is no number. -/
theorem run_mentioned_other_names :
    let console := Console.ofText "7\nx\n"
    let two : Expr := .simple (.literal (.int 2))
    let m := ((fresh console).run [.declare "n" .int (some two), .declare "i" .int none]).machine
    let m' := ((fresh console).run [.declare "i" .string none, .declare "s" .string none, .print two,
      .declare "i" .int none, .declare "n" .int (some two)]).machine
    let p : Program := [.loop "i" two (.simple (.literal (.int 3))) [.print (.simple (.variable "n")), .read "n"]]
    m.console = m'.console ∧ m.table.AgreeOn (Stmt.blockNames p) m'.table ∧ m.table ≠ m'.table ∧
      (m'.run p).fault = some (.malformedInput .int "x") ∧ (m'.run p).machine.output = "227" ∧
      (m.run p).fault = (m'.run p).fault ∧ (m.run p).machine.console = (m'.run p).machine.console := by
  intro console two m m' p
  have hc : m.console = m'.console := rfl
  have ht : m.table.AgreeOn (Stmt.blockNames p) m'.table := by decide +kernel
  obtain ⟨hf, ha⟩ := run_mentioned hc ht
  exact ⟨hc, ht, by decide +kernel, by decide +kernel, by decide +kernel, hf, ha.console⟩

end Machine

end MiniPL
