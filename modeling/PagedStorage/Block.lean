/-!
# Blocks of bytes

A block has its length in its type, so the contents of a page, of a frame and of a place in the file
have the same type exactly when they can be copied into each other. Bytes of unknown number become a
block by a check (`ofArray?_eq_some_iff`), and laying bytes over a block changes just the places
where they lie (`getElem_overlay`).
-/

namespace PagedStorage

/-- Bytes of one disk sector; a page is a whole number of sectors. -/
def sectorSize : Nat := 512

theorem sectorSize_pos : 0 < sectorSize := Nat.succ_pos 511

/-- The contents of one page of `n` bytes. -/
abbrev Block (n : Nat) : Type := Vector UInt8 n

namespace Block

variable {n : Nat}

def zero : Block n := Vector.replicate n 0

/-- Bytes of any other number are no block. -/
def ofArray? (bytes : Array UInt8) : Option (Block n) :=
  if h : bytes.size = n then some ⟨bytes, h⟩ else none

/-- The block with `data` laid over it from position `start` on; what is past the end is cut. -/
def overlay (b : Block n) (start : Nat) (data : Array UInt8) : Block n :=
  Vector.ofFn fun i : Fin n =>
    if h : start ≤ i.val ∧ i.val - start < data.size then data[i.val - start] else b[i]

theorem getElem_zero (i : Nat) (h : i < n) : (zero : Block n)[i] = 0 := Vector.getElem_replicate h

theorem ofArray?_eq_some_iff {bytes : Array UInt8} {b : Block n} :
    ofArray? bytes = some b ↔ bytes = b.toArray := by
  rw [ofArray?]
  split
  · next h =>
    exact ⟨fun e => congrArg Vector.toArray (Option.some.inj e),
      fun e => congrArg some (Vector.toArray_inj.mp e)⟩
  · next h => exact ⟨(nomatch ·), fun e => absurd (e ▸ b.size_toArray) h⟩

theorem ofArray?_eq_none_iff {bytes : Array UInt8} :
    (ofArray? bytes : Option (Block n)) = none ↔ bytes.size ≠ n := by
  rw [ofArray?]
  split
  · next h => exact ⟨(nomatch ·), fun e => absurd h e⟩
  · next h => exact ⟨fun _ => h, fun _ => rfl⟩

theorem getElem_overlay (b : Block n) (start : Nat) (data : Array UInt8) (i : Nat) (h : i < n) :
    (b.overlay start data)[i] =
      if hd : start ≤ i ∧ i - start < data.size then data[i - start] else b[i] :=
  Vector.getElem_ofFn h

end Block

end PagedStorage
