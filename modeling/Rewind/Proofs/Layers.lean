import Rewind.Proofs.Defined

/-!
# A memory in layers

What a memory holds after writes from outside, whose addresses are raw data.  A write to anything
but an integer is refused and leaves the memory as it was (`Memory.trySet`), so a history of writes
is one of the accepted ones (`trySetAll_eq_setAll`), and these lie over the memory of the program:
`Memory.layered?` names the layers from the top.  `Memory.Describes` says that every view of a
memory shows one and the same finite map.
-/

namespace Rewind.Memory

/-! ## Writes from outside -/

/-- A write from outside: what its caller is told, and the memory that it leaves. -/
def trySet (m : Memory) (write : Value × Int) : Except Fault Unit × Memory :=
  match m.setRaw write.1 write.2 with
  | .ok m' => (.ok (), m')
  | .error e => (.error e, m)

/-- The memory after several writes from outside, whatever their callers are told. -/
def trySetAll (m : Memory) (writes : List (Value × Int)) : Memory :=
  writes.foldl (fun m write => (m.trySet write).2) m

/-- What a write from outside puts where, if it is accepted. -/
def accepted? : Value × Int → Option (Int × Int)
  | (.int a, v) => some (a, v)
  | _ => none

/-- The value of the last accepted write to an address. -/
def lastAccepted? (writes : List (Value × Int)) (a : Int) : Option Int :=
  (writes.filterMap accepted?).reverse.lookup a

/-- What an address holds in the memory of a program after writes from outside: the value of the
last accepted write, else what it holds in the memory of the program. -/
def layered? (commands : List Command) (initialValues : Cells) (writes : List (Value × Int))
    (a : Int) : Option Int :=
  (lastAccepted? writes a).or (programValue? commands initialValues a)

/-- Every view of the memory shows the map `value?`. -/
structure Describes (m : Memory) (policy : MissingCellPolicy) (value? : Int → Option Int) :
    Prop where
  /-- A copy of the cells has an entry for each value. -/
  snapshot : ∀ a v, (a, v) ∈ m.cells.entries ↔ value? a = some v
  distinct : (m.cells.entries.map Prod.fst).Nodup
  contains : ∀ a, m.contains a = (value? a).isSome
  size : m.size = m.addresses.length
  listed : ∀ a, a ∈ m.addresses ↔ (value? a).isSome = true
  ascending : m.addresses.Pairwise (· < ·)
  registersFirst : m.addresses =
    m.addresses.filter isRegister ++ m.addresses.filter fun a => !isRegister a
  get : ∀ a, m.get a =
    match value? a, policy with
    | some v, _ => .ok v
    | none, .zero => .ok 0
    | none, .raise => .error (.missingCell a)

variable {m : Memory}

/-- A write is accepted or refused, and one that is refused leaves the memory as it was. -/
theorem trySet_eq (m : Memory) (write : Value × Int) :
    m.trySet write =
      match accepted? write with
      | some w => (.ok (), m.set w.1 w.2)
      | none => (.error (.badAddress write.1.sortName), m) := by
  obtain ⟨address, v⟩ := write
  cases address <;> rfl

/-- Of a history of writes only the accepted ones count. -/
theorem trySetAll_eq_setAll (m : Memory) (writes : List (Value × Int)) :
    m.trySetAll writes = m.setAll (writes.filterMap accepted?) := by
  induction writes generalizing m with
  | nil => rfl
  | cons write writes ih =>
    rw [trySetAll, List.foldl_cons, ← trySetAll, trySet_eq]
    cases h : accepted? write with
    | some w => rw [ih, List.filterMap_cons_some h, setAll_cons]
    | none => rw [ih, List.filterMap_cons_none h]

/-- An address holds what the last accepted write put there, or what it held before. -/
theorem get?_trySetAll (m : Memory) (writes : List (Value × Int)) (a : Int) :
    (m.trySetAll writes).cells.get? a = (lastAccepted? writes a).or (m.cells.get? a) := by
  rw [trySetAll_eq_setAll, setAll, SortedMap.get?_insertAll, lastAccepted?]

/-! ## Views of a memory -/

theorem registers_append_addresses :
    m.addresses = m.addresses.filter isRegister ++ m.addresses.filter fun a => !isRegister a := by
  have hascending : (m.addresses.filter isRegister ++
      m.addresses.filter fun a => !isRegister a).Pairwise (· < ·) := by
    refine List.pairwise_append.mpr
      ⟨ascending_addresses.filter _, ascending_addresses.filter _, fun a ha b hb => ?_⟩
    have hregister : a < 0 := by simpa [isRegister] using List.of_mem_filter ha
    have hcell : 0 ≤ b := by simpa [isRegister] using List.of_mem_filter hb
    omega
  have hperm := (List.filter_append_perm isRegister m.addresses).symm
  exact hperm.eq_of_pairwise (fun a b _ _ _ _ => by omega) ascending_addresses hascending

/-- The views of a memory agree with each other: they are views of its cells. -/
theorem describes_of_get? {policy : MissingCellPolicy} {value? : Int → Option Int}
    (hpolicy : m.policy = policy) (h : ∀ a, m.cells.get? a = value? a) :
    m.Describes policy value? where
  snapshot a v := by rw [SortedMap.mem_entries_iff, h]
  distinct := m.cells.nodup_keys
  contains a := by rw [Memory.contains, SortedMap.contains, h]
  size := (List.length_map ..).symm
  listed a := by rw [mem_addresses, Memory.contains, SortedMap.contains, h]
  ascending := ascending_addresses
  registersFirst := registers_append_addresses
  get a := by
    rw [Memory.get, h, hpolicy]
    cases value? a with
    | some v => rfl
    | none => cases policy <;> rfl

/-- **A memory after any writes from outside**, over any program: the next write is refused, unless
its address is an integer, and changes nothing then; and the memory is the finite map of its layers,
in all its views. -/
theorem trySetAll_describes (commands : List Command) (initialValues : Cells)
    (policy : MissingCellPolicy) (writes : List (Value × Int)) :
    let m := (ofProgram commands initialValues policy).trySetAll writes
    (∀ write, m.trySet write =
      match write with
      | (.int a, v) => (.ok (), m.set a v)
      | (bad, _) => (.error (.badAddress bad.sortName), m)) ∧
    m.Describes policy (layered? commands initialValues writes) := by
  intro m
  refine ⟨fun ⟨address, v⟩ => ?_, describes_of_get? ?_ fun a => ?_⟩
  · cases address <;> rfl
  · rw [show m = _ from trySetAll_eq_setAll _ writes]
    rfl
  · rw [show m.cells.get? a = _ from get?_trySetAll _ writes a, get?_ofProgram, layered?]

end Rewind.Memory
