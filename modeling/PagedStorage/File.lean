import PagedStorage.File.Sectors

/-!
# Files

A file is its size and its bytes. The bytes behind the end are zero: growing a file uncovers zeros,
and shrinking it clears what is cut off.

`byteAt` is the view of a file. Writing changes it inside the written range and nowhere else
(`byteAt_write`), resizing changes it behind the new end only (`byteAt_resize`), and reading a range
is reading its bytes.
-/

namespace PagedStorage

structure File where
  size : Nat
  sectors : Sectors
  /-- Behind the end there are zeros. -/
  clear : ∀ i, size ≤ i → sectors.byteAt i = 0

namespace File

/-- A file of `n` zeros that occupies nothing. -/
def hole (n : Nat) : File := ⟨n, ∅, fun i _ => Sectors.byteAt_empty i⟩

def empty : File := hole 0

/-- The byte at a position; behind the end there are zeros. -/
def byteAt (f : File) (i : Nat) : UInt8 := f.sectors.byteAt i

/-- Bytes behind both the end of the file and the end of what is written are zero. -/
theorem clear_replace (f : File) (offset length : Nat) (byte : Nat → UInt8) :
    ∀ i, max f.size (offset + length) ≤ i →
      (f.sectors.replace offset length byte).byteAt i = 0 := by
  intro i h
  rw [Sectors.byteAt_replace, if_neg (by omega)]
  exact f.clear i (by omega)

theorem clear_truncate (f : File) (n : Nat) :
    ∀ i, n ≤ i → (f.sectors.truncate n).byteAt i = 0 := by
  intro i h
  rw [Sectors.byteAt_truncate, if_neg (by omega)]

/-- Writes bytes from an offset on. A gap between the end of the file and the offset becomes a hole;
writing nothing changes nothing, not even the size. -/
def write (f : File) (offset : Nat) (data : Array UInt8) : File :=
  if data.isEmpty then f
  else
    { size := max f.size (offset + data.size)
      sectors := f.sectors.replace offset data.size fun i => data.getD (i - offset) 0
      clear := f.clear_replace offset data.size _ }

/-- The bytes of a range, unless the file ends inside it. -/
def read? (f : File) (offset length : Nat) : Option (Block length) :=
  if length = 0 ∨ offset + length ≤ f.size then
    some (Vector.ofFn fun j => f.byteAt (offset + j.val))
  else none

/-- Cuts the file off at `n`, or lets it grow to `n` by a hole. -/
def resize (f : File) (n : Nat) : File :=
  if h : f.size ≤ n then ⟨n, f.sectors, fun i hi => f.clear i (Nat.le_trans h hi)⟩
  else ⟨n, f.sectors.truncate n, f.clear_truncate n⟩

def append (f : File) (data : Array UInt8) : File := f.write f.size data

def ofArray (bytes : Array UInt8) : File := empty.write 0 bytes

def toArray (f : File) : Array UInt8 := Array.ofFn fun i : Fin f.size => f.byteAt i.val

/-! ### What the operations do to the bytes -/

theorem byteAt_eq_zero (f : File) {i : Nat} (h : f.size ≤ i) : f.byteAt i = 0 := f.clear i h

theorem byteAt_hole (n i : Nat) : (hole n).byteAt i = 0 := Sectors.byteAt_empty i

theorem size_write (f : File) (offset : Nat) {data : Array UInt8} (h : data.size ≠ 0) :
    (f.write offset data).size = max f.size (offset + data.size) := by
  rw [write, if_neg (fun he => h (Array.isEmpty_iff_size_eq_zero.mp he))]

/-- No write makes a file shorter. -/
theorem size_le_write (f : File) (offset : Nat) (data : Array UInt8) :
    f.size ≤ (f.write offset data).size := by
  rw [write]
  split
  · exact Nat.le_refl _
  · exact Nat.le_max_left ..

theorem byteAt_write (f : File) (offset : Nat) (data : Array UInt8) (i : Nat) :
    (f.write offset data).byteAt i =
      if offset ≤ i ∧ i < offset + data.size then data.getD (i - offset) 0 else f.byteAt i := by
  rw [write]
  split
  · next he =>
    have hs := Array.isEmpty_iff_size_eq_zero.mp he
    rw [if_neg (by omega)]
  · exact Sectors.byteAt_replace ..

theorem size_resize (f : File) (n : Nat) : (f.resize n).size = n := by
  rw [resize]
  split <;> rfl

theorem byteAt_resize (f : File) (n i : Nat) :
    (f.resize n).byteAt i = if i < n then f.byteAt i else 0 := by
  rw [resize]
  split
  · next h =>
    split
    · rfl
    · exact f.clear i (by omega)
  · exact Sectors.byteAt_truncate ..

theorem read?_eq_some_iff {f : File} {offset length : Nat} {block : Block length} :
    f.read? offset length = some block ↔
      (length = 0 ∨ offset + length ≤ f.size) ∧
        block = Vector.ofFn fun j => f.byteAt (offset + j.val) := by
  rw [read?]
  split
  · next h => exact ⟨fun e => ⟨h, (Option.some.inj e).symm⟩, fun e => congrArg some e.2.symm⟩
  · next h => exact ⟨(nomatch ·), fun e => absurd e.1 h⟩

end File

end PagedStorage
