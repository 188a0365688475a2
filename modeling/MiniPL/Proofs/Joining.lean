import MiniPL.Proofs.RoundTrip
import MiniPL.Proofs.SideBySide
/-!
# A session is the run of the joined text

Texts that are programs can be joined by line feeds. A line feed leaves the scanner between two tokens wherever a text
may end (`Scanner.scan_feed`), statements stand one after another in the tree, and a run of both parts is the run of
the first with the run of the second after it, unless a fault stops it (`Machine.run_append`).
-/

namespace MiniPL

/-! ## Scanning -/

namespace Scanner

theorem begin_position (s : Scanner) (c : Char) : (s.begin c).next.position = s.position + 1 := by
  unfold begin
  repeat' split
  all_goals rfl

/-- Every character moves the scanner on by one, even one that it refuses. -/
theorem step_position (s : Scanner) (c : Char) : (s.step c).next.position = s.position + 1 := by
  have hb := begin_position s c
  obtain ⟨mode, start, position⟩ := s
  cases mode with
  | idle => exact hb
  | lead l =>
    simp only [step, resolve]
    split
    all_goals first | rfl | exact hb
  | string body value =>
    simp only [step]
    split
    · rfl
    · split <;> rfl
  | integer digits =>
    simp only [step, completeInteger]
    split
    · rfl
    · split
      · exact hb
      · rfl
  | word letters =>
    simp only [step]
    split
    · rfl
    · exact hb
  | _ => rfl

theorem scan_nil_ok {s : Scanner} {ts : List Token} (h : s.scan [] = .ok ts) : ts = [] ∧ pending s.mode = none := by
  obtain ⟨u, hf, hr⟩ := except_bind_ok.1 h
  refine ⟨(Except.ok.inj hr).symm, ?_⟩
  unfold finish at hf
  split at hf
  · assumption
  · cases hf

theorem scan_cons_ok {s : Scanner} {c : Char} {a : Text} {ts : List Token} (h : s.scan (c :: a) = .ok ts) :
    (s.step c).fault = none ∧ ∃ us, (s.step c).next.scan a = .ok us ∧ ts = (s.step c).emitted ++ us := by
  simp only [scan] at h
  cases hf : (s.step c).fault with
  | some f => rw [hf] at h; cases h
  | none =>
    rw [hf] at h
    cases hs : (s.step c).next.scan a with
    | error f => rw [hs] at h; cases h
    | ok us => rw [hs] at h; exact ⟨rfl, us, rfl, (Except.ok.inj h).symm⟩

/-- Where a text may end, a line feed leaves the scanner between two tokens. -/
theorem scan_feed {s : Scanner} {a : Text} {ts : List Token} (h : s.scan a = .ok ts) (b : Text) :
    s.scan (a ++ '\n' :: b) = (ts ++ ·) <$> (between (s.position + a.length + 1)).scan b := by
  induction a generalizing s ts with
  | nil =>
    obtain ⟨rfl, hp⟩ := scan_nil_ok h
    obtain ⟨mode, start, position⟩ := s
    cases mode with
    | idle =>
      rw [List.nil_append, scan_idle]
      exact scan_skipped b rfl rfl
    | lineComment => exact scan_skipped b rfl rfl
    | _ => cases hp
  | cons c a ih =>
    obtain ⟨hf, us, hs, rfl⟩ := scan_cons_ok h
    have hl : (s.step c).next.position + a.length + 1 = s.position + (c :: a).length + 1 := by
      rw [step_position, List.length_cons]
      omega
    have hst : s.step c = { next := (s.step c).next, emitted := (s.step c).emitted, fault := none } := by rw [← hf]
    rw [List.cons_append, scan_emitted _ hst, ih hs, hl]
    cases (between (s.position + (c :: a).length + 1)).scan b with
    | error f => rfl
    | ok vs => exact congrArg Except.ok (List.append_assoc ..).symm

end Scanner

/-! ## Reading -/

theorem Stmt.BlockSpelled.append {b c : List Stmt} {ks ls : List Token.Kind} (hb : Stmt.BlockSpelled b ks)
    (hc : Stmt.BlockSpelled c ls) : Stmt.BlockSpelled (b ++ c) (ks ++ ls) := by
  cases b with
  | nil => cases hb; exact hc
  | cons s b =>
    cases hb with
    | cons hs hb =>
      rw [List.append_assoc]
      exact .cons hs (hb.append hc)

namespace Program

theorem ofText_feed {a b : Text} {p q : Program} (ha : ofText a = .ok p) (hb : ofText b = .ok q) :
    ofText (a ++ '\n' :: b) = .ok (p ++ q) := by
  obtain ⟨ts, ha, hp⟩ := ofText_ok.1 ha
  obtain ⟨us, hb, hq⟩ := ofText_ok.1 hb
  have hs : (Scanner.between 0).scan (a ++ '\n' :: b) = .ok (ts ++ us) := by
    rw [Scanner.scan_feed (Scanner.scan_of_splits ha 0), Scanner.scan_of_splits hb]
    rfl
  refine ofText_ok.2 ⟨ts ++ us, Scanner.splits_of_scan hs, ?_⟩
  unfold Spelled
  rw [List.map_append]
  exact Stmt.BlockSpelled.append hp hq

/-- Programs joined by line feeds are the program of all their statements. -/
theorem ofText_join {codes : List Text} {program : Text → Program}
    (h : ∀ code ∈ codes, ofText code = .ok (program code)) :
    ofText (Text.join "\n" codes) = .ok (codes.flatMap program) := by
  induction codes with
  | nil => rfl
  | cons code codes ih =>
    obtain ⟨hc, hcs⟩ := List.forall_mem_cons.1 h
    cases codes with
    | nil =>
      rw [List.flatMap_cons, List.flatMap_nil, List.append_nil, ← hc]
      simp [Text.join]
    | cons code' codes =>
      have hj : Text.join "\n" (code :: code' :: codes) = code ++ '\n' :: Text.join "\n" (code' :: codes) := by
        unfold Text.join
        rw [List.intercalate_cons_cons, List.append_assoc]
        rfl
      rw [hj, List.flatMap_cons]
      exact ofText_feed hc (ih hcs)

end Program

/-! ## Running -/

theorem Stmt.runAll_append (b c : List Stmt) :
    Stmt.runAll (b ++ c) = Stmt.runAll b >>= fun _ => Stmt.runAll c := by
  induction b with
  | nil => rfl
  | cons s b ih => simp only [List.cons_append, Stmt.runAll, ih, bind_assoc]

namespace Machine

/-- A program is run after another one, unless that one is stopped. -/
theorem run_append (m : Machine) (p q : Program) :
    m.run (p ++ q) = match (m.run p).fault with
      | none => (m.run p).machine.run q
      | some _ => m.run p := by
  unfold run EStateM.run
  rw [Stmt.runAll_append]
  cases hp : Stmt.runAll p m with
  | ok u m₁ => rw [bind_of_ok hp]
  | error f m₁ => rw [bind_of_error hp]

/-- A text that is a program is run, after some events. -/
theorem submit_run {code : Text} {p : Program} (h : Program.ofText code = .ok p) : ∃ news, ∀ m : Machine,
    let ended := { m with events := news ++ m.events }.run p
    m.submit code = { failure := ended.fault.map .run, machine := ended.machine } := by
  obtain ⟨ts, ht, hp⟩ := except_bind_ok.1 h
  refine ⟨[.parsed p.length, .scanned code.length ts.length], fun m => ?_⟩
  simp only [submit, ht, hp]
  rfl

theorem submit_of_ofText {code : Text} {p : Program} (h : Program.ofText code = .ok p) (m : Machine) :
    ∃ events, m.submit code =
      { failure := ({ m with events }.run p).fault.map .run, machine := ({ m with events }.run p).machine } := by
  obtain ⟨news, hn⟩ := submit_run h
  exact ⟨news ++ m.events, hn m⟩

/-- A text that is no program leaves the machine as it is, up to the events. -/
theorem submit_refused {code : Text} {f : Failure} (h : Program.ofText code = .error f) : ∃ news, ∀ m : Machine,
    m.submit code = { failure := some f, machine := { m with events := news ++ m.events } } := by
  cases ht : Token.ofText code with
  | error g =>
    rw [Program.ofText, ht] at h
    cases h
    refine ⟨[], fun m => ?_⟩
    simp only [submit, ht]
    rfl
  | ok ts =>
    have hp : Program.ofScanned ts = .error f := (Program.ofText_eq ht).symm.trans h
    refine ⟨[.scanned code.length ts.length], fun m => ?_⟩
    simp only [submit, ht, hp]
    rfl

/-- The outcomes up to the first failure, or all of them if no text failed. -/
def Outcome.upToFailure : List Outcome → List Outcome
  | [] => []
  | o :: rest => if o.failure.isSome then [o] else o :: upToFailure rest

/-- The last outcome; without any, the machine is as it was. -/
def Outcome.last (m : Machine) (os : List Outcome) : Outcome := os.getLast?.getD { failure := none, machine := m }

theorem Outcome.last_cons (m m' : Machine) (os : List Outcome) :
    last m ({ failure := none, machine := m' } :: os) = last m' os := by
  unfold last
  rw [List.getLast?_cons, Option.getD_some]

theorem Beside.output {before : List Text} {m m' : Machine} (h : Beside before m m') :
    m.output = before.reverse.flatten ++ m'.output := by
  unfold Machine.output
  rw [h.printed, List.reverse_append, List.flatten_append]

/-- The statements of all texts run, on a machine with the table and the console, as a session of the texts does up
to the first failure. -/
theorem run_flatMap {codes : List Text} {program : Text → Program}
    (h : ∀ code ∈ codes, Program.ofText code = .ok (program code)) {m m' : Machine} (ht : m.table = m'.table)
    (hc : m.console = m'.console) :
    let told := Outcome.upToFailure (m'.session codes)
    let last := Outcome.last m' told
    let ended := m.run (codes.flatMap program)
    ended.machine.output = m.output ++ told.flatMap (·.machine.output) ∧ ended.fault.map .run = last.failure ∧
      ended.machine.table = last.machine.table ∧ ended.machine.console = last.machine.console := by
  induction codes generalizing m m' with
  | nil => exact ⟨(List.append_nil m.output).symm, rfl, ht, hc⟩
  | cons code codes ih =>
    obtain ⟨hp, hps⟩ := List.forall_mem_cons.1 h
    obtain ⟨events, ho⟩ := submit_of_ofText hp m'.clear
    -- The text starts on a machine that has printed nothing yet.
    have hb : Beside m.printed m { m'.clear with events } := ⟨ht, hc, rfl⟩
    obtain ⟨hf, hb⟩ := run_beside hb (program code)
    simp only [session, ho, List.flatMap_cons, run_append]
    generalize m.run (program code) = ended at hf hb ⊢
    generalize { m'.clear with events }.run (program code) = ended' at hf hb ⊢
    obtain ⟨fault, m₁⟩ := ended
    obtain ⟨fault', m₁'⟩ := ended'
    cases hf
    have hout : m₁.output = m.output ++ m₁'.output := hb.output
    cases fault with
    | some f =>
      refine ⟨?_, rfl, hb.table, hb.console⟩
      rw [hout]
      exact congrArg (m.output ++ ·) (List.append_nil _).symm
    | none =>
      obtain ⟨ho, hlast⟩ := ih hps hb.table hb.console
      constructor
      · rw [ho, hout, List.append_assoc]
        rfl
      · dsimp only at hlast
        rw [← Outcome.last_cons m' m₁'] at hlast
        exact hlast

/-- Texts that are programs, joined by line feeds, print on a new machine what a session of them prints up to the first
failure, fail as it does there, or not at all, and leave the table and the console as they are there. -/
theorem submit_join {codes : List Text} (h : ∀ code ∈ codes, ∃ p, Program.ofText code = .ok p) (console : Console) :
    let told := Outcome.upToFailure ((fresh console).session codes)
    let last := Outcome.last (fresh console) told
    let whole := (fresh console).submit (Text.join "\n" codes)
    whole.machine.output = told.flatMap (·.machine.output) ∧ whole.failure = last.failure ∧
      whole.machine.table = last.machine.table ∧ whole.machine.console = last.machine.console := by
  obtain ⟨program, hp⟩ : ∃ program : Text → Program, ∀ code ∈ codes, Program.ofText code = .ok (program code) := by
    refine ⟨fun code => (Program.ofText code).toOption.getD [], fun code hc => ?_⟩
    obtain ⟨p, hp⟩ := h code hc
    simp only [hp]
    rfl
  obtain ⟨events, hw⟩ := submit_of_ofText (Program.ofText_join hp) (fresh console)
  intro told last whole
  rw [show whole = _ from hw]
  have ht : ({ fresh console with events } : Machine).table = (fresh console).table := rfl
  exact run_flatMap hp ht rfl

/-- The second text ends in a comment that is open, the third fails after it has printed, and the fourth is not
reached. -/
theorem submit_join_comment :
    let codes : List Text := ["var n : int; read n;", "print n; // no line feed", "print n + 1; print 1 / (n - n);",
      "print n;"]
    let whole := (fresh (.ofText "4\n5\n")).submit (Text.join "\n" codes)
    (∀ code ∈ codes, ∃ p, Program.ofText code = .ok p) ∧
      whole.machine.output = "45" ∧ whole.failure = some (.run .divisionByZero) := by
  intro codes whole
  have h : ∀ code ∈ codes, ∃ p, Program.ofText code = .ok p := by
    have hp : ∀ code ∈ codes, (Program.ofText code).toOption.isSome := by decide +kernel
    intro code hc
    have hs := hp code hc
    cases ht : Program.ofText code with
    | ok p => exact ⟨p, rfl⟩
    | error f => rw [ht] at hs; cases hs
  obtain ⟨ho, hf, -⟩ := submit_join h (.ofText "4\n5\n")
  refine ⟨h, ho.trans ?_, hf.trans ?_⟩
  · decide +kernel
  · decide +kernel

end Machine

end MiniPL
