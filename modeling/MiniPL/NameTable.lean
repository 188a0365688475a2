import MiniPL.Fault
/-!
# The table of names

One flat table for a whole run. Types and values are kept apart: a declaration enters a name with its type
on one side and with its value on the other, or replaces both, and an assignment replaces the value by one
of the same type. Names stand in the order of their first declaration.
-/

namespace MiniPL

/-- What a name stands for: the type it was declared with last, and its value. -/
structure Binding where
  ty : Ty
  value : Value
  deriving DecidableEq

/-- The declared types of names, and their values. -/
structure NameTable where
  types : List (Text × Ty)
  values : List (Text × Value)
  deriving DecidableEq

namespace NameTable

section
variable {α : Type}

/-- What a name stands for in a list of entries. -/
def find? (name : Text) : List (Text × α) → Option α
  | [] => none
  | (x, a) :: rest => if x = name then some a else find? name rest

/-- A list of entries in which the name stands for `a`: in its place if it is there, otherwise at the
end. -/
def put (name : Text) (a : α) : List (Text × α) → List (Text × α)
  | [] => [(name, a)]
  | (x, b) :: rest => if x = name then (x, a) :: rest else (x, b) :: put name a rest

/-- Only the name that is entered changes. -/
@[simp] theorem find?_put (name x : Text) (a : α) (es : List (Text × α)) :
    find? x (put name a es) = if x = name then some a else find? x es := by
  induction es with
  | nil => simp [put, find?, eq_comm]
  | cons e es ih =>
    obtain ⟨y, c⟩ := e
    by_cases hy : y = name
    · by_cases hx : x = name <;> simp_all [put, find?, eq_comm]
    · by_cases hx : y = x <;> simp_all [put, find?]
end

/-- The table of a new run. -/
def empty : NameTable := { types := [], values := [] }

/-- The type that a name was declared with. -/
def type? (t : NameTable) (name : Text) : Option Ty := find? name t.types

/-- The value of a name. -/
def value? (t : NameTable) (name : Text) : Option Value := find? name t.values

/-- Whether a name is declared. -/
def contains (t : NameTable) (name : Text) : Bool := (t.value? name).isSome

/-- The table in which a name has the type and the value. -/
def bind (t : NameTable) (name : Text) (ty : Ty) (value : Value) : NameTable :=
  { types := put name ty t.types, values := put name value t.values }

/-- The table in which a name has the value. -/
def set (t : NameTable) (name : Text) (value : Value) : NameTable :=
  { t with values := put name value t.values }

@[simp] theorem type?_empty (x : Text) : empty.type? x = none := rfl

@[simp] theorem value?_empty (x : Text) : empty.value? x = none := rfl

@[simp] theorem type?_bind (t : NameTable) (name x : Text) (ty : Ty) (v : Value) :
    (t.bind name ty v).type? x = if x = name then some ty else t.type? x :=
  find?_put name x ty t.types

@[simp] theorem value?_bind (t : NameTable) (name x : Text) (ty : Ty) (v : Value) :
    (t.bind name ty v).value? x = if x = name then some v else t.value? x :=
  find?_put name x v t.values

@[simp] theorem type?_set (t : NameTable) (name x : Text) (v : Value) : (t.set name v).type? x = t.type? x := rfl

@[simp] theorem value?_set (t : NameTable) (name x : Text) (v : Value) :
    (t.set name v).value? x = if x = name then some v else t.value? x :=
  find?_put name x v t.values

@[simp] theorem contains_bind (t : NameTable) (name x : Text) (ty : Ty) (v : Value) :
    (t.bind name ty v).contains x = (decide (x = name) || t.contains x) := by
  by_cases hx : x = name <;> simp [contains, hx]

@[simp] theorem contains_set (t : NameTable) (name x : Text) (v : Value) :
    (t.set name v).contains x = (decide (x = name) || t.contains x) := by
  by_cases hx : x = name <;> simp [contains, hx]

/-! ## What a program does with names -/

/-- Declares a name, whether it is new or not. The value must be of the type. -/
def declare (t : NameTable) (name : Text) (ty : Ty) (value : Value) : Except Fault NameTable :=
  if value.ty = ty then .ok (t.bind name ty value) else .error (.badInitializer name ty value)

/-- The type that a name was declared with. -/
def typeOf (t : NameTable) (name : Text) : Except Fault Ty :=
  match t.type? name with
  | some ty => .ok ty
  | none => .error (.notInitialized name)

/-- Gives a name that has a value another value of its type. -/
def assign (t : NameTable) (name : Text) (value : Value) : Except Fault NameTable :=
  match t.value? name with
  | none => .error (.usedBeforeDeclaration name)
  | some _ => do
    let ty ← t.typeOf name
    if value.ty = ty then return t.set name value
    else throw (.badAssignment name ty value.ty)

/-- The value of a name. -/
def lookup (t : NameTable) (name : Text) : Except Fault Value :=
  match t.value? name with
  | some v => .ok v
  | none => .error (.usedBeforeAssignment name)

/-! ## A table as it is shown -/

/-- The names that have a type and a value, with both, in the order of the values. -/
def entries (t : NameTable) : List (Text × Binding) :=
  t.values.filterMap fun (name, value) => (t.type? name).map fun ty => (name, { ty, value })

/-- The entries, sorted by name. -/
def sorted (t : NameTable) : List (Text × Binding) := t.entries.mergeSort fun x y => !decide (y.1 < x.1)

end NameTable

end MiniPL
