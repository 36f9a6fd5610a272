import PagedStorage.Action
import PagedStorage.File
import PagedStorage.FileTree

/-!
# The file as a row of blocks

The pages of a file lie back to back without a header, and bytes behind the last whole page are
ignored. A handle counts the whole pages when it is opened and from then on counts what it writes
itself. Only growth is limited: a block that is counted may always be written again. Writing behind
the end leaves a gap, which reads back as zeros where the file had no bytes.

The operating system may fail a call that a handle makes, and may have moved some of the bytes by
then. What it is going to answer is part of the handle (`Device`), so each request is a function of
the handle it is made to.

The page size is part of the handle's type, so a block that is read fits wherever a page is kept.
-/

namespace PagedStorage

/-- A call to the operating system that fails: why, and how many bytes it has moved by then. -/
structure Trouble where
  cause : DeviceError
  moved : Nat

/-- How the operating system takes the calls of a handle. One request makes each of these calls at most
once, so there is one answer for each. The next request may find other answers. -/
structure Device where
  reading : PageId → Option Trouble
  writing : PageId → Option Trouble
  syncing : Option DeviceError
  closing : Option DeviceError

/-- Every call succeeds. -/
def Device.reliable : Device := ⟨fun _ => none, fun _ => none, none, none⟩

structure Disk (pageSize : Nat) where
  maxFileSize : Nat
  /-- The number of whole pages in the file. -/
  blockCount : Nat
  /-- Closing a handle lets go of the file. -/
  isOpen : Bool
  file : File
  device : Device
  blockCount_lt : blockCount < 0x100000000

namespace Disk

variable {pageSize : Nat}

/-- A handle on a file that was just made. -/
def ofNew (maxFileSize : Nat) : Disk pageSize :=
  ⟨maxFileSize, 0, true, .empty, .reliable, PageId.bound_pos⟩

/-- A handle on a file that exists; all its pages must have a number. -/
def ofFile (maxFileSize : Nat) (file : File) : Except Failure (Disk pageSize) :=
  match Checked.div file.size pageSize with
  | .error f => .error (.fault f)
  | .ok blocks =>
    if h : blocks < 0x100000000 then .ok ⟨maxFileSize, blocks, true, file, .reliable, h⟩
    else .error (.error (.invalidConfig (.tooManyPages blocks)))

/-- Makes the file at `path`, which must not be there yet. -/
def create (path : Path) (maxFileSize : Nat) : Action FileTree (Disk pageSize) := do
  match (← get).createFile path with
  | .ok tree => set tree; return ofNew maxFileSize
  | .error e => Action.reject (.device e)

/-- Opens the file at `path`. -/
def openFile (path : Path) (maxFileSize : Nat) : Action FileTree (Disk pageSize) := do
  match (← get).file path with
  | .error e => Action.reject (.device e)
  | .ok file =>
    match ofFile maxFileSize file with
    | .ok disk => return disk
    | .error f => throw f

/-- Opens what is at `path`, or makes a file if nothing can be reached there. -/
def openOrCreate (path : Path) (maxFileSize : Nat) : Action FileTree (Disk pageSize) := do
  if (← get).holds path then openFile path maxFileSize else create path maxFileSize

/-- Refuses bytes that are not one page. -/
def checkLength (length : Nat) : Action (Disk pageSize) Unit :=
  if length = pageSize then pure () else Action.reject (.pageSizeMismatch pageSize length)

def ensureOpen : Action (Disk pageSize) Unit := do
  if (← get).isOpen then pure () else Action.reject .closed

/-- A buffer after its first `n` bytes have come from the file. -/
def arrived (d : Disk pageSize) (offset n : Nat) (buffer : Block pageSize) : Block pageSize :=
  Vector.ofFn fun j => if j.val < n then d.file.byteAt (offset + j.val) else buffer.get j

/-- Reads the block of a page into a buffer. A read that fails has filled the buffer as far as it
came. -/
def readInto (page : PageId) : Action (Disk pageSize × Block pageSize) Unit := do
  let (d, buffer) ← get
  if d.blockCount ≤ page.index then
    Action.reject (.device (.beyondEnd page d.blockCount))
  let offset ← Action.checked (page.offset pageSize)
  if !d.isOpen then
    Action.reject .closed
  match d.device.reading page, d.file.read? offset pageSize with
  | some trouble, _ =>
    set (d, d.arrived offset trouble.moved buffer)
    Action.reject (.device trouble.cause)
  | none, some block => set (d, block)
  | none, none =>
    set (d, d.arrived offset (d.file.size - offset) buffer)
    Action.reject (.device .shortRead)

/-- The block of a page. -/
def readBlock (page : PageId) : Action (Disk pageSize) (Block pageSize) := fun d =>
  match readInto page (d, .zero) with
  | .ok _ (d, block) => .ok block d
  | .error why (d, _) => .error why d

/-- The handle after bytes were written from an offset on; its count has not moved. -/
def wrote (d : Disk pageSize) (offset : Nat) (block : Block pageSize) : Disk pageSize :=
  { d with file := d.file.write offset block.toArray }

/-- The handle after only the first `n` bytes of a block were written. -/
def wroteFirst (d : Disk pageSize) (offset : Nat) (block : Block pageSize) (n : Nat) : Disk pageSize :=
  { d with file := d.file.write offset (block.toArray.take n) }

/-- The handle after its count was moved. -/
def counting (d : Disk pageSize) (blocks : Nat) (h : blocks < 0x100000000) : Disk pageSize :=
  { d with blockCount := blocks, blockCount_lt := h }

/-- Writes the block of a page. The bytes are in the file before the count moves. -/
def writeBlock (page : PageId) (block : Block pageSize) : Action (Disk pageSize) Unit := do
  let d ← get
  let stop ← Action.checked (page.endOffset pageSize)
  -- A block that is counted passes, even in a file that was opened longer than its limit.
  if d.blockCount ≤ page.index ∧ d.maxFileSize < stop then
    Action.reject (.allocationExhausted stop d.maxFileSize)
  let offset ← Action.checked (page.offset pageSize)
  ensureOpen
  if let some trouble := d.device.writing page then
    set (d.wroteFirst offset block trouble.moved)
    Action.reject (.device trouble.cause)
  set (d.wrote offset block)
  if d.blockCount ≤ page.index then
    if h : page.index + 1 < 0x100000000 then
      set ((d.wrote offset block).counting (page.index + 1) h)
    else
      -- The last page of all has no successor to count up to. Its bytes are written by now.
      throw (.fault .addOverflow)

/-- Reads the block of a page into a buffer of `length` bytes. -/
def read (page : PageId) (length : Nat) : Action (Disk pageSize) (Block pageSize) := do
  checkLength length
  readBlock page

/-- Writes bytes as the block of a page. -/
def write (page : PageId) (bytes : Array UInt8) : Action (Disk pageSize) Unit :=
  match Block.ofArray? bytes with
  | some block => writeBlock page block
  | none => Action.reject (.pageSizeMismatch pageSize bytes.size)

/-- Makes every write so far lasting. Files here lose nothing, so this only says whether the operating
system could. -/
def sync : Action (Disk pageSize) Unit := do
  ensureOpen
  if let some cause := (← get).device.syncing then
    Action.reject (.device cause)

/-- Makes every write lasting and lets go of the file, which is let go of even if the writes could not
be made lasting. -/
def close : Action (Disk pageSize) Unit := do
  ensureOpen
  modify fun d => { d with isOpen := false }
  if let some cause := (← get).device.closing then
    Action.reject (.device cause)

end Disk

end PagedStorage
