import PagedStorage.Action
import PagedStorage.Block

/-!
# Frames

A frame is a slot of the buffer: the bytes of at most one page, the number of pins that keep it in
place, and whether its bytes are newer than the file. Pins are counted in 32 bits. A count that
leaves that range wraps around, and the fault is raised behind the wrapped value.
-/

namespace PagedStorage

structure Frame (pageSize : Nat) where
  bytes : Block pageSize
  page : Option PageId
  pins : Nat
  dirty : Bool

namespace Frame

variable {pageSize : Nat}

/-- One more than the largest pin count. -/
def pinLimit : Nat := 0x100000000

/-- A frame that holds no page. -/
def empty : Frame pageSize := ⟨.zero, none, 0, false⟩

def isPinned (f : Frame pageSize) : Bool := 0 < f.pins

/-- Adds a pin and returns their number. -/
def pin : Action (Frame pageSize) Nat := do
  let f ← get
  if f.pins + 1 < pinLimit then
    set { f with pins := f.pins + 1 }
    return f.pins + 1
  else
    -- The count is kept on 32 bits: it has come round before the fault is met.
    set { f with pins := 0 }
    throw (.fault .addOverflow)

/-- Takes a pin away and returns how many are left. -/
def unpin : Action (Frame pageSize) Nat := do
  let f ← get
  if 0 < f.pins then
    set { f with pins := f.pins - 1 }
    return f.pins - 1
  else
    set { f with pins := pinLimit - 1 }
    throw (.fault .pinUnderflow)

def markDirty (f : Frame pageSize) : Frame pageSize := { f with dirty := true }

def clearDirty (f : Frame pageSize) : Frame pageSize := { f with dirty := false }

def setPage (f : Frame pageSize) (page : Option PageId) : Frame pageSize := { f with page }

def setBytes (f : Frame pageSize) (bytes : Block pageSize) : Frame pageSize := { f with bytes }

/-- Changes one byte. -/
def setByte (i : Nat) (byte : UInt8) : Action (Frame pageSize) Unit := do
  let f ← get
  if h : i < pageSize then
    set (f.setBytes (f.bytes.set i byte))
  else
    throw (.fault (.indexOutOfBounds pageSize i))

/-- Forgets page and bytes. The pins stay: they belong to whoever took them. -/
def reset (f : Frame pageSize) : Frame pageSize :=
  { f with bytes := .zero, page := none, dirty := false }

end Frame

end PagedStorage
