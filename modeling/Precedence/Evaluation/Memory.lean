import Precedence.Evaluation.Value

/-!
# Memory

What a program leaves behind: the variables it has assigned, and the values it has given to `echo`, in order.  A name
is looked up among the variables first, then among the functions.
-/

namespace Precedence

/-- The variables and their values. -/
structure Store where
  entries : List (String × Value)

namespace Store

/-- No variables. -/
def empty : Store := ⟨[]⟩

/-- The value of the first entry for the name. -/
def lookupIn (name : String) : List (String × Value) → Option Value
  | [] => none
  | entry :: entries => if entry.1 = name then some entry.2 else lookupIn name entries

/-- The entries with a value for the name, in the place of its old value if it has one. -/
def putIn (name : String) (value : Value) : List (String × Value) → List (String × Value)
  | [] => [(name, value)]
  | entry :: entries =>
    if entry.1 = name then (name, value) :: entries else entry :: putIn name value entries

/-- The value of a variable. -/
def get? (store : Store) (name : String) : Option Value := lookupIn name store.entries

/-- The store with a value for the name. -/
def set (store : Store) (name : String) (value : Value) : Store := ⟨putIn name value store.entries⟩

theorem lookupIn_putIn (name other : String) (value : Value) (entries : List (String × Value)) :
    lookupIn other (putIn name value entries) = if name = other then some value else lookupIn other entries := by
  induction entries with
  | nil => rfl
  | cons entry entries ih => grind [lookupIn, putIn]

@[simp] theorem get?_empty (name : String) : empty.get? name = none := rfl

/-- Setting a name changes its value and no other. -/
theorem get?_set (store : Store) (name other : String) (value : Value) :
    (store.set name value).get? other = if name = other then some value else store.get? other :=
  lookupIn_putIn name other value store.entries

/-- The variables in alphabetical order. -/
def sorted (store : Store) : List (String × Value) := store.entries.mergeSort fun a b => decide (a.1 ≤ b.1)

end Store

/-- What a program has left behind so far. -/
structure Memory where
  store : Store
  echoed : List Value

namespace Memory

/-- Nothing left behind. -/
def empty : Memory := ⟨.empty, []⟩

/-- The name of the function that records its argument. -/
def echoName : String := "echo"

/-- The value that an atom stands for: the number if it is a literal, and else what its name is bound to. -/
def lookup (memory : Memory) (text : String) : Except EvalError Value :=
  let chars := text.toList
  if isIntegerChars chars then
    let digits := (literalDigits chars).length
    if digits ≤ digitLimit then .ok (.int (literalValue chars)) else .error (.literalTooLong digits)
  else match memory.store.get? text with
    | some value => .ok value
    | none => if text = echoName then .ok .echo else .error (.undefined text)

/-- Assign a value to a name. -/
def assign (memory : Memory) (name : String) (value : Value) : Memory :=
  { memory with store := memory.store.set name value }

/-- Record a value. -/
def echo (memory : Memory) (value : Value) : Memory := { memory with echoed := memory.echoed ++ [value] }

end Memory

end Precedence
