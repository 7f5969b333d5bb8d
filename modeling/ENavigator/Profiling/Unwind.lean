import ENavigator.Lib.Bytes

/-!
# Unwind rows, in user space and in the kernel

`ElfUnwindTable.lookup` finds the row that governs an address. The kernel holds the rows of all modules in one pool,
in an encoding of its own (`rowToAbi`), and searches a module's span of it with a bounded number of halvings.
`findUnwindRow_eq` says that the two searches agree.
-/

namespace ENavigator.Profiling

open List

/-! ## Rows -/

inductive CfaRule where
  | spOffset (offset : Int32)
  | fpOffset (offset : Int32)
  | unsupported
  | invalid
  deriving DecidableEq, Repr

inductive RaRule where
  | cfaOffset (offset : Int32)
  | linkRegister
  | undefined
  | unsupported

inductive FpRule where
  | cfaOffset (offset : Int32)
  | preserved
  | unsupported

structure UnwindRow where
  pc : UInt64
  cfa : CfaRule
  ra : RaRule
  fp : FpRule

/-- `binary_search_by` on increasing addresses: where the address is, or where it would be inserted. -/
def searchPc (pc : UInt64) : List UnwindRow → Except Nat Nat
  | [] => .error 0
  | row :: rows =>
    if row.pc < pc then
      match searchPc pc rows with
      | .ok index => .ok (index + 1)
      | .error index => .error (index + 1)
    else if row.pc = pc then .ok 0
    else .error 0

structure ElfUnwindTable where
  rows : List UnwindRow

def ElfUnwindTable.lookup (table : ElfUnwindTable) (pc : UInt64) : Option UnwindRow :=
  let index? := match searchPc pc table.rows with
    | .ok index => some index
    | .error 0 => none
    | .error (index + 1) => some index
  index?.bind fun index => (table.rows[index]?).filter (·.cfa ≠ .invalid)

/-! ## The kernel's side -/

def unwindCfaInvalid : UInt8 := 0
def unwindCfaSp : UInt8 := 1
def unwindCfaFp : UInt8 := 2
def unwindCfaUnsupported : UInt8 := 3
def unwindRaCfaOffset : UInt8 := 0
def unwindRaLinkRegister : UInt8 := 1
def unwindRaUndefined : UInt8 := 2
def unwindRaUnsupported : UInt8 := 3
def unwindFpPreserved : UInt8 := 0
def unwindFpCfaOffset : UInt8 := 1

structure UnwindRowAbi where
  pc : UInt64
  cfaKind : UInt8
  raKind : UInt8
  fpKind : UInt8
  cfaOff : Int32
  raOff : Int32
  fpOff : Int32

def rowToAbi (row : UnwindRow) : UnwindRowAbi :=
  let (cfaKind, cfaOff) := match row.cfa with
    | .spOffset offset => (unwindCfaSp, offset)
    | .fpOffset offset => (unwindCfaFp, offset)
    | .unsupported => (unwindCfaUnsupported, 0)
    | .invalid => (unwindCfaInvalid, 0)
  let (raKind, raOff) := match row.ra with
    | .cfaOffset offset => (unwindRaCfaOffset, offset)
    | .linkRegister => (unwindRaLinkRegister, 0)
    | .undefined => (unwindRaUndefined, 0)
    | .unsupported => (unwindRaUnsupported, 0)
  let (fpKind, fpOff) := match row.fp with
    | .cfaOffset offset => (unwindFpCfaOffset, offset)
    | .preserved | .unsupported => (unwindFpPreserved, 0)
  { pc := row.pc, cfaKind, raKind, fpKind, cfaOff, raOff, fpOff }

def unwindRowPool : Nat := 262144
def unwindRowSearchSteps : Nat := 20

structure UnwindModuleSpan where
  rowStart : UInt32
  rowLen : UInt32

/-- The kernel's maps: the pool of rows and the span of each module in it. -/
structure UnwindMaps where
  rows : Nat → UnwindRowAbi
  modules : UInt32 → Option UnwindModuleSpan

def UnwindMaps.row (maps : UnwindMaps) (index : Nat) : Option UnwindRowAbi :=
  if index < unwindRowPool then some (maps.rows index) else none

/-- The halvings of the window from `low` up to `high`. -/
def searchRow (maps : UnwindMaps) (pc : UInt64) : Nat → Nat → Nat → Nat
  | 0, low, _ => low
  | steps + 1, low, high =>
    if low + 1 ≥ high then low
    else
      let mid := low + (high - low) / 2
      match maps.row mid with
      | none => low
      | some row => if row.pc ≤ pc then searchRow maps pc steps mid high else searchRow maps pc steps low mid

def findUnwindRow (maps : UnwindMaps) (moduleId : UInt32) (pc : UInt64) : Option UnwindRowAbi := do
  let span ← maps.modules moduleId
  let low := span.rowStart.toNat
  if span.rowLen = 0 ∨ low ≥ unwindRowPool then none
  let high := min (min (low + span.rowLen.toNat) (2 ^ 32 - 1)) unwindRowPool
  let first ← maps.row low
  if first.pc > pc then none
  let row ← maps.row (searchRow maps pc unwindRowSearchSteps low high)
  if row.cfaKind = unwindCfaSp ∨ row.cfaKind = unwindCfaFp then some row else none

/-! ## Agreement -/

variable {rows : List UnwindRow} {pc : UInt64} {maps : UnwindMaps} {k : Nat}

/-- The first `k` rows are those that start at or below the address. -/
def Boundary (rows : List UnwindRow) (pc : UInt64) (k : Nat) : Prop :=
  k ≤ rows.length ∧ ∀ i row, rows[i]? = some row → (row.pc ≤ pc ↔ i < k)

theorem Boundary.zero (h : ∀ row ∈ rows, pc < row.pc) : Boundary rows pc 0 := by
  refine ⟨Nat.zero_le _, fun i row hrow => ?_⟩
  have hlt := h row (mem_of_getElem? hrow)
  simp [hlt]

theorem Boundary.cons {row : UnwindRow} (h : Boundary rows pc k) (hrow : row.pc ≤ pc) :
    Boundary (row :: rows) pc (k + 1) := by
  refine ⟨Nat.succ_le_succ h.1, fun i row' hrow' => ?_⟩
  cases i with
  | zero =>
    cases hrow'
    simp [hrow]
  | succ i => rw [h.2 i row' hrow', Nat.succ_lt_succ_iff]

/-- How many rows the search of a table leaves at or below the address. -/
def passed : Except Nat Nat → Nat
  | .ok index => index + 1
  | .error index => index

theorem boundary_searchPc (hrows : rows.Pairwise (·.pc < ·.pc)) : Boundary rows pc (passed (searchPc pc rows)) := by
  induction rows with
  | nil => exact .zero nofun
  | cons row rows ih =>
    obtain ⟨hhead, htail⟩ := pairwise_cons.mp hrows
    rw [searchPc]
    by_cases hlt : row.pc < pc
    · rw [if_pos hlt]
      have hrest := (ih htail).cons (UInt64.le_of_lt hlt)
      cases hs : searchPc pc rows <;> rw [hs] at hrest <;> exact hrest
    by_cases heq : row.pc = pc
    · rw [if_neg hlt, if_pos heq]
      exact (Boundary.zero fun r hr => heq ▸ hhead r hr).cons (UInt64.le_of_eq heq)
    · rw [if_neg hlt, if_neg heq]
      have hgt : pc < row.pc := UInt64.lt_of_le_of_ne (UInt64.not_lt.mp hlt) (Ne.symm heq)
      exact .zero (forall_mem_cons.mpr ⟨hgt, fun r hr => UInt64.lt_trans hgt (hhead r hr)⟩)

theorem lookup_eq (table : ElfUnwindTable) (pc : UInt64) : table.lookup pc =
    if passed (searchPc pc table.rows) = 0 then none
    else (table.rows[passed (searchPc pc table.rows) - 1]?).filter (·.cfa ≠ .invalid) := by
  unfold ElfUnwindTable.lookup
  rcases searchPc pc table.rows with (_ | index) | index <;> rfl

/-- The table of a module as it stands in the pool. -/
structure Written (maps : UnwindMaps) (moduleId : UInt32) (table : ElfUnwindTable) (start : Nat) : Prop where
  nonempty : table.rows ≠ []
  increasing : table.rows.Pairwise (·.pc < ·.pc)
  inside : start + table.rows.length ≤ unwindRowPool
  span : ∃ span, maps.modules moduleId = some span ∧ span.rowStart.toNat = start ∧
    span.rowLen.toNat = table.rows.length
  written : ∀ i row, table.rows[i]? = some row → maps.rows (start + i) = rowToAbi row

variable {table : ElfUnwindTable} {moduleId : UInt32} {start : Nat}

theorem Written.row (h : Written maps moduleId table start) {i : Nat} {row : UnwindRow}
    (hrow : table.rows[i]? = some row) : maps.row (start + i) = some (rowToAbi row) := by
  have hi := (List.getElem?_eq_some_iff.mp hrow).1
  have hinside := h.inside
  rw [UnwindMaps.row, if_pos (by omega), h.written i row hrow]

/-- A window around the boundary that is halved often enough ends in front of it. -/
theorem searchRow_eq (h : Written maps moduleId table start) (hk : Boundary table.rows pc k) :
    ∀ (steps low high : Nat), low < k → k ≤ high → high ≤ table.rows.length → high - low ≤ 2 ^ steps →
      searchRow maps pc steps (start + low) (start + high) = start + (k - 1)
  | 0, low, high, hlow, hhigh, _, hsize => by
    have : low = k - 1 := by omega
    rw [searchRow, this]
  | steps + 1, low, high, hlow, hhigh, hlen, hsize => by
    rw [searchRow]
    split
    next hdone =>
      have : low = k - 1 := by omega
      rw [this]
    next hmore =>
      obtain ⟨row, hrow⟩ : ∃ row, table.rows[low + (high - low) / 2]? = some row :=
        ⟨_, List.getElem?_eq_getElem (by omega)⟩
      have hmid : start + low + (start + high - (start + low)) / 2 = start + (low + (high - low) / 2) := by omega
      rw [Nat.pow_succ] at hsize
      simp only [hmid, h.row hrow]
      -- The middle row says on which side of it the boundary is.
      split
      next hle => exact searchRow_eq h hk steps _ high ((hk.2 _ _ hrow).mp hle) hhigh hlen (by omega)
      next hgt =>
        have hmidk := mt (hk.2 _ _ hrow).mpr hgt
        exact searchRow_eq h hk steps low _ hlow (by omega) (by omega) (by omega)

/-- The rows that the kernel walks over. -/
def UnwindRow.Walkable (row : UnwindRow) : Bool :=
  match row.cfa with
  | .spOffset _ | .fpOffset _ => true
  | .unsupported | .invalid => false

theorem cfaKind_rowToAbi (row : UnwindRow) : ((rowToAbi row).cfaKind = unwindCfaSp ∨
    (rowToAbi row).cfaKind = unwindCfaFp) ↔ row.Walkable = true := by
  unfold rowToAbi UnwindRow.Walkable
  cases row.cfa <;> simp [unwindCfaSp, unwindCfaFp, unwindCfaUnsupported, unwindCfaInvalid]

/-- **The kernel's search agrees with the table's**, but for the rows it cannot walk over. -/
theorem findUnwindRow_eq (h : Written maps moduleId table start) (pc : UInt64) :
    findUnwindRow maps moduleId pc = ((table.lookup pc).filter UnwindRow.Walkable).map rowToAbi := by
  have hk : Boundary table.rows pc _ := boundary_searchPc h.increasing
  rw [lookup_eq]
  generalize passed (searchPc pc table.rows) = k at hk ⊢
  obtain ⟨span, hspan, hstart, hlen⟩ := h.span
  have hpos := length_pos_iff.mpr h.nonempty
  have hinside := h.inside
  have hle := hk.1
  have hpool : unwindRowPool = 262144 := rfl
  have hnonzero : span.rowLen ≠ 0 := by
    rintro hzero
    simp [hzero] at hlen
    omega
  have hhigh : min (min (start + table.rows.length) (2 ^ 32 - 1)) unwindRowPool = start + table.rows.length := by omega
  obtain ⟨first, hfirst⟩ : ∃ row, table.rows[0]? = some row := ⟨_, List.getElem?_eq_getElem hpos⟩
  have hlow : maps.row start = some (rowToAbi first) := h.row hfirst
  have hpc : (rowToAbi first).pc = first.pc := rfl
  simp only [findUnwindRow, hspan, Option.bind_eq_bind, Option.bind_some, hstart, hlen, hhigh, hlow, hpc]
  rw [if_neg (not_or.mpr ⟨hnonzero, by omega⟩)]
  cases k with
  | zero =>
    have hgt : ¬ first.pc ≤ pc := fun hle => absurd ((hk.2 0 first hfirst).mp hle) (Nat.lt_irrefl 0)
    rw [if_pos (UInt64.not_le.mp hgt)]
    rfl
  | succ k =>
    obtain ⟨row, hrow⟩ : ∃ row, table.rows[k]? = some row := ⟨_, List.getElem?_eq_getElem hle⟩
    have hfound : searchRow maps pc unwindRowSearchSteps start (start + table.rows.length) = start + k :=
      searchRow_eq h hk 20 0 _ (Nat.succ_pos k) hle (Nat.le_refl _) (by omega)
    rw [if_neg (UInt64.not_lt.mpr ((hk.2 0 first hfirst).mpr (Nat.succ_pos k))), hfound, h.row hrow, Option.bind_some,
      if_neg (Nat.succ_ne_zero k), Nat.add_sub_cancel, hrow]
    simp only [cfaKind_rowToAbi]
    cases hcfa : row.cfa <;> simp [Option.filter, UnwindRow.Walkable, hcfa]

/-- The table of a leaf function, and what the kernel holds of it at the end of the pool. -/
def leafTable : ElfUnwindTable :=
  ⟨[⟨16, .spOffset 8, .cfaOffset (-8), .preserved⟩, ⟨20, .spOffset 16, .cfaOffset (-8), .cfaOffset (-16)⟩,
    ⟨64, .invalid, .undefined, .preserved⟩]⟩

def leafMaps : UnwindMaps where
  rows index := rowToAbi ((leafTable.rows[index - 262141]?).getD ⟨0, .invalid, .undefined, .preserved⟩)
  modules _ := some ⟨262141, 3⟩

theorem findUnwindRow_eq_leaf : findUnwindRow leafMaps 0 30 =
    ((leafTable.lookup 30).filter UnwindRow.Walkable).map rowToAbi := by
  have h : Written leafMaps 0 leafTable 262141 := by
    refine ⟨by decide, by decide, by decide, ⟨_, rfl, rfl, rfl⟩, fun i row hrow => ?_⟩
    simp [leafMaps, hrow]
  exact findUnwindRow_eq h 30

end ENavigator.Profiling
