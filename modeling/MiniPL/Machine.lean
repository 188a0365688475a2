import MiniPL.Console
import MiniPL.Event
import MiniPL.NameTable
import MiniPL.Operator.Table
import MiniPL.Program
import MiniPL.Value.Input
/-!
# Running a program

An expression has a value in a table of names, or a fault. A statement changes a machine: the table, the
console, what was printed and what was recorded. A fault stops the run and leaves the machine as it is at
that point.

A loop evaluates its bounds once, before anything else; then its variable must be declared. How often it
runs is settled by then, whatever its body does to the variable.
-/

namespace MiniPL

/-! ## Expressions -/

mutual

/-- The value of an expression. Operands are evaluated from left to right. -/
def Expr.eval (t : NameTable) : Expr → Except Fault Value
  | .simple a => a.eval t
  | .unary op a => do op.applyUnary (← a.eval t)
  | .binary l op r => do
    let v ← l.eval t
    let w ← r.eval t
    op.apply v w

/-- The value of an operand. -/
def Operand.eval (t : NameTable) : Operand → Except Fault Value
  | .literal v => .ok v
  | .variable name => t.lookup name
  | .group e => e.eval t

end

/-! ## The machine -/

/-- Everything that a statement can change. -/
structure Machine where
  table : NameTable
  console : Console
  /-- What was printed, the latest first. -/
  printed : List Text
  /-- What was recorded, the latest first. -/
  events : List Event
  deriving DecidableEq

namespace Machine

/-- A machine that has run nothing. -/
def fresh (console : Console) : Machine := { table := .empty, console, printed := [], events := [] }

/-- All that was printed. -/
def output (m : Machine) : Text := m.printed.reverse.flatten

end Machine

/-- A part of a run, which may stop with a fault. -/
abbrev Run := EStateM Fault Machine

namespace Run

/-- Goes on with a result, or stops with a fault. -/
def ofExcept {α : Type} : Except Fault α → Run α
  | .ok a => pure a
  | .error f => throw f

/-- The value of an expression. -/
def value (e : Expr) : Run Value := do ofExcept (e.eval (← get).table)

/-- The integer that an expression stands for. -/
def integer (e : Expr) : Run Int := do ofExcept (← value e).toInt

/-- Records an event. -/
def record (e : Event) : Run Unit := modify fun m => { m with events := e :: m.events }

/-- Prints a text. -/
def print (t : Text) : Run Unit := modify fun m => { m with printed := t :: m.printed }

/-- Declares a name. -/
def declare (name : Text) (ty : Ty) (v : Value) : Run Unit := do
  let m ← get
  let table ← ofExcept (m.table.declare name ty v)
  if m.table.contains name then record (.redeclared name ty)
  modify fun m => { m with table }

/-- Assigns to a name. -/
def assign (name : Text) (v : Value) : Run Unit := do
  let table ← ofExcept ((← get).table.assign name v)
  modify fun m => { m with table }

/-- Takes a line off the console. -/
def line : Run Text := do
  let (t, console) ← ofExcept (← get).console.takeLine
  modify fun m => { m with console }
  return t

/-- Reads a value of the name's type from the console. The type is looked up first, so that no line is
lost on a name that is not declared. -/
def input (name : Text) : Run Unit := do
  let ty ← ofExcept ((← get).table.typeOf name)
  let v ← ofExcept (Value.ofLine ty (← line))
  assign name v

/-- Stops unless the value is true. -/
def check : Value → Run Unit
  | .bool true => pure ()
  | .bool false => throw .assertionFailed
  | v => throw (.badAssertion v.ty)

/-- Stops unless the name is declared. -/
def need (name : Text) : Run Unit := do
  unless (← get).table.contains name do throw (.notInitialized name)

/-- What a loop does before its first round: the integer of that round, and how many rounds there are. -/
def enter (name : Text) (first last : Expr) : Run (Int × Nat) := do
  let a ← integer first
  let b ← integer last
  need name
  record (.looped name a b)
  return (a, (b + 1 - a).toNat)

/-- Does `body` for each of the `count` integers from `i` on, assigning the integer to the name first. -/
def each (name : Text) (body : Run Unit) (i : Int) : (count : Nat) → Run Unit
  | 0 => pure ()
  | count + 1 => do
    assign name (.int i)
    body
    each name body (i + 1) count

end Run

/-! ## Statements -/

mutual

/-- Runs a statement. -/
def Stmt.run : Stmt → Run Unit
  | .declare name ty none => Run.declare name ty (.default ty)
  | .declare name ty (some e) => do Run.declare name ty (← Run.value e)
  | .assign name e => do Run.assign name (← Run.value e)
  | .loop name first last body => do
    let (i, count) ← Run.enter name first last
    Run.each name (Stmt.runAll body) i count
  | .read name => Run.input name
  | .print e => do Run.print (← Run.value e).display
  | .assert e => do Run.check (← Run.value e)
  | .empty => pure ()

/-- Runs statements one after another. -/
def Stmt.runAll : List Stmt → Run Unit
  | [] => pure ()
  | s :: rest => do
    s.run
    Stmt.runAll rest

end

/-- How a run ended: the fault that stopped it, if any, and the machine it left. -/
structure Machine.Ended where
  fault : Option Fault
  machine : Machine

/-- Runs a program on a machine. -/
def Machine.run (m : Machine) (p : Program) : Machine.Ended :=
  match (Stmt.runAll p).run m with
  | .ok () m => { fault := none, machine := m }
  | .error f m => { fault := some f, machine := m }

end MiniPL
