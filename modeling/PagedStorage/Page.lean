import PagedStorage.Action

/-!
# Pages

A page is a value: a name and a copy of bytes. Nothing in it is shared with the store, and its
length is whatever its maker gave it; the store compares the length when the page is written.
-/

namespace PagedStorage

structure Page where
  id : PageId
  bytes : Array UInt8
deriving DecidableEq

namespace Page

def zeroed (id : PageId) (length : Nat) : Page := ⟨id, Array.replicate length 0⟩

def length (p : Page) : Nat := p.bytes.size

def isEmpty (p : Page) : Bool := p.bytes.isEmpty

/-- Changes one byte. -/
def setByte (i : Nat) (byte : UInt8) : Action Page Unit := do
  let p ← get
  if h : i < p.bytes.size then
    set { p with bytes := p.bytes.set i byte }
  else
    throw (.fault (.indexOutOfBounds p.bytes.size i))

end Page

end PagedStorage
