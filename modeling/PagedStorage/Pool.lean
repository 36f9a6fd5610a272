import PagedStorage.Counters
import PagedStorage.Disk
import PagedStorage.Frame
import PagedStorage.Recency

/-!
# The buffer pool

A fixed number of frames stands between callers and the file. A page that is in a frame is resident,
and only there are its bytes read and changed. A request for a page that is not resident takes a
frame: a free one, or that of the page that was used longest ago and is not pinned, whose bytes go
to the file first if they are newer.

A pinned page stays where it is. When every frame is pinned, a request that needs another frame
fails at once. A victim whose bytes cannot be written stays resident and becomes the page that was
used last, so the next request tries another one.

A frame of a pool of `size` frames is a `Fin size`: there is no other.
-/

namespace PagedStorage

structure Pool (size pageSize : Nat) where
  frames : Vector (Frame pageSize) size
  /-- Where each resident page is. -/
  table : Std.ExtTreeMap PageId (Fin size)
  /-- The frames without a page; the first is taken first. -/
  free : List (Fin size)
  recency : Recency (Fin size)
  disk : Disk pageSize
  counters : Counters

namespace Pool

variable {size pageSize : Nat}

/-- A pool with all frames free. A pool needs a frame. -/
def ofDisk (disk : Disk pageSize) : Except Fault (Pool size pageSize) :=
  if size = 0 then .error .emptyPool
  else .ok ⟨Vector.replicate size .empty, ∅, List.finRange size, .empty, disk, {}⟩

/-! ### What can be seen of a pool -/

/-- The frame at a position. -/
def frame (s : Pool size pageSize) (f : Fin size) : Frame pageSize := s.frames.get f

def freeCount (s : Pool size pageSize) : Nat := s.free.length

def residentCount (s : Pool size pageSize) : Nat := s.table.size

/-- The number of pins on a resident page. -/
def pinCount? (s : Pool size pageSize) (page : PageId) : Option Nat :=
  s.table[page]?.map fun f => (s.frame f).pins

/-- The resident pages whose bytes are newer than the file, with their frames. -/
def dirtyFrames (s : Pool size pageSize) : List (PageId × Fin size) :=
  s.table.toList.filter fun entry => (s.frame entry.2).dirty

/-! ### Steps on one part -/

/-- The pool with a frame replaced. -/
def setFrame (s : Pool size pageSize) (f : Fin size) (frame : Frame pageSize) :
    Pool size pageSize :=
  { s with frames := s.frames.set f.val frame f.isLt }

theorem frame_setFrame (s : Pool size pageSize) (f g : Fin size) (frame : Frame pageSize) :
    (s.setFrame f frame).frame g = if f = g then frame else s.frame g := by
  show (s.frames.set f.val frame f.isLt).get g = _
  refine (Vector.getElem_set f.isLt g.isLt).trans ?_
  by_cases h : f = g
  · rw [if_pos h, if_pos (congrArg Fin.val h)]
  · rw [if_neg h, if_neg (fun e => h (Fin.ext e))]
    rfl

/-- Runs an action on the file. -/
def onDisk {α : Type} (act : Action (Disk pageSize) α) : Action (Pool size pageSize) α :=
  Action.within disk (fun disk s => { s with disk }) act

/-- Runs an action on one frame. -/
def onFrame {α : Type} (f : Fin size) (act : Action (Frame pageSize) α) :
    Action (Pool size pageSize) α :=
  Action.within (fun s => s.frame f) (fun frame s => s.setFrame f frame) act

/-- Changes one frame. -/
def editFrame (f : Fin size) (change : Frame pageSize → Frame pageSize) :
    Action (Pool size pageSize) Unit :=
  modify fun s => s.setFrame f (change (s.frame f))

def editRecency (change : Recency (Fin size) → Recency (Fin size)) :
    Action (Pool size pageSize) Unit :=
  modify fun s => { s with recency := change s.recency }

def count (change : Counters → Counters) : Action (Pool size pageSize) Unit :=
  modify fun s => { s with counters := change s.counters }

/-- Returns a frame to the free ones. -/
def giveBack (f : Fin size) : Action (Pool size pageSize) Unit :=
  modify fun s => { s with free := f :: s.free }

/-! ### Pins -/

def pin (f : Fin size) : Action (Pool size pageSize) Unit := do
  let _ ← onFrame f Frame.pin
  editRecency (·.setEvictable f false)

/-- Takes a pin away; with the last one the frame may be evicted again. -/
def unpin (f : Fin size) : Action (Pool size pageSize) Unit := do
  let left ← onFrame f Frame.unpin
  if left = 0 then editRecency (·.setEvictable f true)

/-! ### Frames for pages -/

/-- Writes a frame's bytes to the file if they are newer, and says whether it did. -/
def writeBack (f : Fin size) (page : PageId) : Action (Pool size pageSize) Bool := do
  let held := (← get).frame f
  if held.dirty then
    onDisk (Disk.writeBlock page held.bytes)
    editFrame f Frame.clearDirty
    count fun c => { c with writes := c.writes + 1 }
    return true
  else
    return false

/-- Takes the frame of the unpinned page that was used longest ago. -/
def evict : Action (Pool size pageSize) (Fin size) := do
  match (← get).recency.evict? with
  | none => Action.reject (.poolSaturated size)
  | some (f, recency) =>
    modify fun s => { s with recency }
    if let some victim := ((← get).frame f).page then
      match ← Action.attempt (writeBack f victim) with
      | .ok _ => modify fun s => { s with table := s.table.erase victim }
      | .error e =>
        -- The victim stays. It comes back as the page used last, so the next attempt picks another.
        editRecency fun r => (r.touch f).setEvictable f true
        Action.reject e
    editFrame f Frame.reset
    count fun c => { c with evictions := c.evictions + 1 }
    return f

/-- Takes a free frame, or evicts a page for one. -/
def acquire : Action (Pool size pageSize) (Fin size) := do
  match (← get).free with
  | f :: free =>
    modify fun s => { s with free }
    return f
  | [] => evict

/-- Where the bytes of a page come from when it enters a frame. -/
inductive Fill (pageSize : Nat) where
  | load
  | put (block : Block pageSize)

/-- Runs an action on the file and the bytes of a frame. -/
def onBuffer {α : Type} (f : Fin size) (act : Action (Disk pageSize × Block pageSize) α) :
    Action (Pool size pageSize) α :=
  Action.within (fun s => (s.disk, (s.frame f).bytes))
    (fun (disk, bytes) s => { s.setFrame f ((s.frame f).setBytes bytes) with disk }) act

/-- Brings the block of a page from the file into a frame. If that fails the frame may hold some bytes
of the block. -/
def load (page : PageId) (f : Fin size) : Action (Pool size pageSize) Unit := do
  if (← get).disk.blockCount ≤ page.index then
    Action.reject (.pageNotFound page)
  onBuffer f (Disk.readInto page)
  count fun c => { c with reads := c.reads + 1 }

/-- Gives a page that is not resident a frame. Bytes that do not come from the file are newer than
it. The frame is left unpinned and not evictable. -/
def install (page : PageId) (fill : Fill pageSize) : Action (Pool size pageSize) (Fin size) := do
  let f ← acquire
  match fill with
  | .put block => editFrame f fun frame => (frame.setBytes block).markDirty
  | .load =>
    if let .error e := ← Action.attempt (load page f) then
      -- The page that made room is gone, but the frame is free again and holds no bytes.
      editFrame f Frame.reset
      giveBack f
      Action.reject e
  editFrame f (·.setPage (some page))
  modify fun s => { s with table := s.table.insert page f }
  editRecency (·.touch f)
  return f

/-- Pins a page where it is, or installs it first. Says which of the two it was. -/
def pinPage (page : PageId) (fill : Fill pageSize) :
    Action (Pool size pageSize) (Fin size × Bool) := do
  match (← get).table[page]? with
  | some f =>
    pin f
    editRecency (·.touch f)
    count fun c => { c with hits := c.hits + 1 }
    return (f, true)
  | none =>
    count fun c => { c with misses := c.misses + 1 }
    let f ← install page fill
    pin f
    return (f, false)

/-! ### Requests -/

/-- Pins a page, from the file if need be, and returns its frame. -/
def fetch (page : PageId) : Action (Pool size pageSize) (Fin size) := do
  let (f, _) ← pinPage page .load
  return f

/-- Gives up the pin of a fetch. Whoever could write leaves the frame dirty. -/
def release (f : Fin size) (wrote : Bool) : Action (Pool size pageSize) Unit := do
  if wrote then editFrame f Frame.markDirty
  unpin f

/-- A copy of the bytes of a page. -/
def read (page : PageId) : Action (Pool size pageSize) (Block pageSize) := do
  let f ← fetch page
  let bytes := ((← get).frame f).bytes
  release f false
  return bytes

/-- Replaces the bytes of a page in its frame. What the file holds is not looked at. -/
def writeBlock (page : PageId) (block : Block pageSize) : Action (Pool size pageSize) Unit := do
  let (f, hit) ← pinPage page (.put block)
  if hit then
    editFrame f (·.setBytes block)
    release f true
  else
    -- The page came in with these bytes, and its frame is dirty already.
    unpin f

/-- Replaces the bytes of a page, which must be exactly one page. -/
def write (page : PageId) (bytes : Array UInt8) : Action (Pool size pageSize) Unit :=
  match Block.ofArray? bytes with
  | some block => writeBlock page block
  | none => Action.reject (.pageSizeMismatch pageSize bytes.size)

/-- Makes a page resident with all bytes zero. A frame that it has already is zeroed in place. -/
def create (page : PageId) : Action (Pool size pageSize) Unit := do
  match (← get).table[page]? with
  | some f =>
    if ((← get).frame f).isPinned then Action.reject (.pagePinned page)
    editFrame f fun frame => (frame.setBytes .zero).markDirty
    editRecency (·.touch f)
  | none =>
    let f ← install page (.put .zero)
    -- No pin was taken, so there is none whose end would make the frame evictable.
    editRecency (·.setEvictable f true)

/-- Drops the frame of a page without writing it, and says whether there was one. -/
def invalidate (page : PageId) : Action (Pool size pageSize) Bool := do
  match (← get).table[page]? with
  | none => return false
  | some f =>
    if ((← get).frame f).isPinned then Action.reject (.pagePinned page)
    modify fun s => { s with table := s.table.erase page }
    editRecency (·.remove f)
    editFrame f Frame.reset
    giveBack f
    count fun c => { c with invalidations := c.invalidations + 1 }
    return true

/-! ### Flushing -/

/-- Writes a resident page to the file if its bytes are newer, and says whether it did. -/
def flush (page : PageId) : Action (Pool size pageSize) Bool := do
  match (← get).table[page]? with
  | none => return false
  | some f =>
    -- The pin keeps the frame in place while it is written, and is given up in any case.
    pin f
    let result ← Action.attempt (writeBack f page)
    unpin f
    match result with
    | .ok wrote => return wrote
    | .error e => Action.reject e

/-- Writes pinned frames back in the order of the list and unpins each. After the first error
nothing more is written. Returns how many were written, or that error. -/
def writeBackAll : List (PageId × Fin size) → Nat → Option StoreError →
    Action (Pool size pageSize) (Except StoreError Nat)
  | [], written, none => return .ok written
  | [], _, some e => return .error e
  | (_, f) :: rest, written, some e => do
    unpin f
    writeBackAll rest written (some e)
  | (page, f) :: rest, written, none => do
    match ← Action.attempt (writeBack f page) with
    | .ok wrote =>
      unpin f
      writeBackAll rest (if wrote then written + 1 else written) none
    | .error e =>
      unpin f
      writeBackAll rest written (some e)

/-- Pins the given frames, then writes them back in their order. -/
def flushFrames (order : List (PageId × Fin size)) : Action (Pool size pageSize) Nat := do
  order.forM fun entry => pin entry.2
  match ← writeBackAll order 0 none with
  | .ok written => return written
  | .error e => Action.reject e

/-- Writes every dirty frame to the file and returns their number. -/
def flushAll : Action (Pool size pageSize) Nat := do
  flushFrames (← get).dirtyFrames

def sync : Action (Pool size pageSize) Unit := onDisk Disk.sync

/-- Lets go of the file, in any case. Frames keep their pages. -/
def close : Action (Pool size pageSize) Unit := onDisk Disk.close

end Pool

end PagedStorage
