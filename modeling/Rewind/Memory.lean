import Rewind.Command
import Rewind.Fault
import Rewind.Options
import Rewind.SortedMap
import Rewind.Value

/-!
# Memory

Cells and registers of the machine.  Registers live at negative addresses; the instruction-address
register `iar` and the accumulator `accu` always hold a value.  A memory starts from the words of
the program, then the given start values, then zeros for the registers (`Memory.ofProgram`), and is
read under a policy for addresses that never received a value (`Memory.get`).
-/

namespace Rewind

/-- A value for every address that ever received one. -/
abbrev Cells : Type := SortedMap Int Int

/-- The address of the instruction-address register. -/
def iar : Int := -1

/-- The address of the accumulator. -/
def accu : Int := -2

/-- Whether an address is that of a register. -/
def isRegister (address : Int) : Bool := address < 0

/-- Cells, with the policy for reads of the others. -/
structure Memory where
  cells : Cells
  policy : MissingCellPolicy
  deriving DecidableEq

namespace Memory

/-- The memory before the first step, except for the start address: the words of the program in
order, the start values, and zero in registers without a value. -/
def ofProgram (commands : List Command) (initialValues : Cells) (policy : MissingCellPolicy) :
    Memory where
  cells :=
    (((SortedMap.ofList (commands.map fun c => (c.address, c.value))).insertAll
      initialValues.entries).insertNew iar 0).insertNew accu 0
  policy := policy

/-- The value at an address. -/
def get (m : Memory) (address : Int) : Except Fault Int :=
  match m.cells.get? address with
  | some v => .ok v
  | none =>
    match m.policy with
    | .zero => .ok 0
    | .raise => .error (.missingCell address)

/-- Writes a value. -/
def set (m : Memory) (address value : Int) : Memory :=
  { m with cells := m.cells.insert address value }

/-- Writes several values in turn. -/
def setAll (m : Memory) (writes : List (Int × Int)) : Memory :=
  { m with cells := m.cells.insertAll writes }

/-- The address that raw data is; only integers are, not even truth values. -/
def address? : Value → Except Fault Int
  | .int n => .ok n
  | v => .error (.badAddress v.sortName)

/-- Start values with addresses given as raw data.  Addresses that are the same key count as one,
with the first spelling and the last value; the first spelling that is no integer is the fault. -/
def cellsOfRaw (es : List (Value × Int)) : Except Fault Cells := do
  let entries ← (Value.distinct es).mapM fun e => (address? e.1).map fun a => (a, e.2)
  return SortedMap.ofList entries

/-- Writes a value at an address given as raw data. -/
def setRaw (m : Memory) (address : Value) (value : Int) : Except Fault Memory :=
  (address? address).map fun a => m.set a value

/-- All addresses with a value, ascending, so registers come first. -/
def addresses (m : Memory) : List Int := m.cells.keys

/-- Whether an address has a value. -/
def contains (m : Memory) (address : Int) : Bool := m.cells.contains address

/-- The number of addresses with a value. -/
def size (m : Memory) : Nat := m.cells.size

/-- A short description. -/
def summary (m : Memory) : String :=
  let start := match m.cells.get? iar with
    | some v => toString v
    | none => "None"
  s!"State(cells={m.size}, iar={start})"

@[ext] theorem ext {m n : Memory} (hcells : m.cells = n.cells) (hpolicy : m.policy = n.policy) :
    m = n := by
  cases m
  cases n
  cases hcells
  cases hpolicy
  rfl

@[simp] theorem cells_set (m : Memory) (a v : Int) : (m.set a v).cells = m.cells.insert a v := rfl

@[simp] theorem policy_set (m : Memory) (a v : Int) : (m.set a v).policy = m.policy := rfl

@[simp] theorem setAll_nil (m : Memory) : m.setAll [] = m := rfl

@[simp] theorem setAll_cons (m : Memory) (w : Int × Int) (ws : List (Int × Int)) :
    m.setAll (w :: ws) = (m.set w.1 w.2).setAll ws := rfl

end Memory

end Rewind
