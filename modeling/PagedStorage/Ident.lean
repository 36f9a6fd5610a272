import PagedStorage.Fault

/-!
# Identifiers

A page is named by a 32-bit number whose only meaning is the place in the file it maps to: page `p`
of a file with pages of `n` bytes occupies the bytes from `p * n` up to `(p + 1) * n`. A frame is
named by its position in the pool.
-/

namespace PagedStorage

/-- The name of a page slot in the file. -/
structure PageId where
  index : Nat
  index_lt : index < 0x100000000
deriving DecidableEq

namespace PageId

/-- There are pages to number. -/
theorem bound_pos : 0 < 0x100000000 := Nat.succ_pos 0xffffffff

instance : ToString PageId := ⟨fun p => s!"Page({p.index})"⟩

/-- Pages are ordered by their number. -/
instance : Ord PageId := ⟨fun p q => compare p.index q.index⟩

theorem compare_eq (p q : PageId) : compare p q = compare p.index q.index := rfl

theorem ext_index {p q : PageId} (h : p.index = q.index) : p = q := by
  cases p; cases q; cases h; rfl

instance : Std.TransOrd PageId where
  eq_swap {p q} := (Nat.compare_swap q.index p.index).symm
  isLE_trans {p q r} h₁ h₂ := by
    rw [compare_eq, Nat.isLE_compare] at *
    exact Nat.le_trans h₁ h₂

instance : Std.LawfulEqOrd PageId where
  compare_self {p} := Nat.compare_eq_eq.mpr (Eq.refl p.index)
  eq_of_compare h := ext_index (Nat.compare_eq_eq.mp h)

/-- Numbers of 2^32 and above name no page. -/
def ofNat? (n : Nat) : Option PageId :=
  if h : n < 0x100000000 then some ⟨n, h⟩ else none

/-- Where the page begins in a file of pages of this size. -/
def offset (p : PageId) (pageSize : Nat) : Except Fault Nat :=
  Checked.mul p.index pageSize

/-- Where the page ends: the offset of the first byte behind it. -/
def endOffset (p : PageId) (pageSize : Nat) : Except Fault Nat := do
  Checked.add (← p.offset pageSize) pageSize

/-! ### Offsets that fit -/

/-- Pages of less than 4 GiB all end at an offset. -/
theorem end_lt_of_small (p : PageId) {pageSize : Nat} (small : pageSize < 0x100000000) :
    (p.index + 1) * pageSize < 0x10000000000000000 := by
  have numbered := p.index_lt
  calc (p.index + 1) * pageSize ≤ 0x100000000 * 0xffffffff :=
        Nat.mul_le_mul (by omega) (by omega)
    _ < 0x10000000000000000 := by decide

theorem offset_eq_ok {p : PageId} {pageSize : Nat}
    (begins : p.index * pageSize < 0x10000000000000000) :
    p.offset pageSize = .ok (p.index * pageSize) := if_pos begins

theorem endOffset_eq {p : PageId} {pageSize : Nat}
    (begins : p.index * pageSize < 0x10000000000000000) :
    p.endOffset pageSize =
      if (p.index + 1) * pageSize < 0x10000000000000000 then .ok ((p.index + 1) * pageSize)
      else .error .addOverflow := by
  simp only [endOffset, offset_eq_ok begins, bind, Except.bind]
  rw [Checked.add, Nat.succ_mul]

/-- A page that ends at an offset begins at one. -/
theorem begin_lt_of_end_lt {p : PageId} {pageSize : Nat}
    (ends : (p.index + 1) * pageSize < 0x10000000000000000) :
    p.index * pageSize < 0x10000000000000000 :=
  Nat.lt_of_le_of_lt (Nat.mul_le_mul_right pageSize (Nat.le_succ p.index)) ends

theorem endOffset_eq_ok {p : PageId} {pageSize : Nat}
    (ends : (p.index + 1) * pageSize < 0x10000000000000000) :
    p.endOffset pageSize = .ok ((p.index + 1) * pageSize) := by
  rw [endOffset_eq (begin_lt_of_end_lt ends), if_pos ends]

end PageId

/-- The position of a frame in the pool. -/
structure FrameId where
  index : Nat
deriving DecidableEq

instance : ToString FrameId := ⟨fun f => s!"Frame({f.index})"⟩

end PagedStorage
