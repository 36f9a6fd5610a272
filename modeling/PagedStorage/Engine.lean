import PagedStorage.Allocator
import PagedStorage.Config
import PagedStorage.Page
import PagedStorage.Pool

/-!
# The engine

An engine puts the allocator in front of the pool: only live pages are read and written, and a page
that is issued is resident with all bytes zero. Its frames and its page size come from its
configuration, which is part of its type.

Closing is final. The engine is closed before anything is flushed, so it stays closed even if the
last flush fails, and the file is let go of in any case.
-/

namespace PagedStorage

structure Engine (config : Config) where
  allocator : Allocator
  closed : Bool
  pool : Pool config.bufferSize config.pageSize

namespace Engine

variable {config : Config}

/-- An engine over a handle on its data file. Every page of the file is live. -/
def ofDisk (disk : Disk config.pageSize) : Except Fault (Engine config) := do
  let allocator ←
    Allocator.ofExtent disk.blockCount disk.blockCount_lt config.pageSize config.maxFileSize
  return ⟨allocator, false, ← Pool.ofDisk disk⟩

/-- Opens the data file of a configuration, making directory and file where they are missing. -/
def start (config : Config) : Action FileTree (Engine config) := do
  match config.validate with
  | .error flaw => Action.reject (.invalidConfig flaw)
  | .ok () => pure ()
  let (made, tree) := (← get).makeDirectories (Path.parse config.dataDirectory)
  set tree
  if let .error e := made then Action.reject (.device e)
  let disk ← Disk.openOrCreate (Path.parse config.dataFilePath) config.maxFileSize
  Action.checked (ofDisk disk)

/-- Runs an action of the allocator. -/
def onAllocator {α : Type} (act : Action Allocator α) : Action (Engine config) α :=
  Action.within allocator (fun allocator e => { e with allocator }) act

/-- Runs an action of the pool. -/
def onPool {α : Type} (act : Action (Pool config.bufferSize config.pageSize) α) :
    Action (Engine config) α :=
  Action.within pool (fun pool e => { e with pool }) act

/-- Refuses everything once the engine is closed. -/
def ensureOpen : Action (Engine config) Unit := do
  if (← get).closed then Action.reject .closed

/-- Refuses a page that is not live. -/
def ensureLive (page : PageId) : Action (Engine config) Unit := do
  match (← get).allocator.checkLive page with
  | .ok () => pure ()
  | .error e => Action.reject e

/-- Issues a page and makes it resident with all bytes zero. If it cannot be made resident it is not
issued. -/
def allocate : Action (Engine config) PageId := do
  ensureOpen
  let allocation ← onAllocator Allocator.allocate
  match ← Action.attempt (onPool (Pool.create allocation.page)) with
  | .ok () => return allocation.page
  | .error e =>
    onAllocator (Allocator.rollback allocation)
    Action.reject e

/-- Gives a live page back and drops its frame. -/
def deallocate (page : PageId) : Action (Engine config) Unit := do
  ensureOpen
  if !(← get).allocator.isLive page then
    Action.reject (.invalidPageId page)
  -- The frame goes first: where it cannot be dropped, the page stays live.
  let _ ← onPool (Pool.invalidate page)
  onAllocator (Allocator.deallocate page)

/-- Replaces the bytes of a live page. -/
def write (page : Page) : Action (Engine config) Unit := do
  ensureOpen
  if page.length ≠ config.pageSize then
    Action.reject (.pageSizeMismatch config.pageSize page.length)
  ensureLive page.id
  onPool (Pool.write page.id page.bytes)

/-- A copy of a live page. -/
def read (page : PageId) : Action (Engine config) Page := do
  ensureOpen
  ensureLive page
  let block ← onPool (Pool.read page)
  return ⟨page, block.toArray⟩

/-- Writes all dirty frames to the file and makes them lasting. -/
def flushAndSync : Action (Engine config) Unit := do
  let _ ← onPool Pool.flushAll
  onPool Pool.sync

def sync : Action (Engine config) Unit := do
  ensureOpen
  flushAndSync

/-- Syncs as far as possible and lets go of the file. Reports the first of the two that failed. -/
def close : Action (Engine config) Unit := do
  ensureOpen
  -- From here on the engine is closed, however the rest ends.
  modify fun e => { e with closed := true }
  let synced ← Action.attempt flushAndSync
  let released ← Action.attempt (onPool Pool.close)
  if let .error e := synced then Action.reject e
  if let .error e := released then Action.reject e

/-- What happens to an engine that is given up: it is closed if nobody has closed it. Errors have no
one left to go to. -/
def dispose : Action (Engine config) Unit := do
  if !(← get).closed then
    let _ ← Action.attempt close

def stats (e : Engine config) : StorageStats :=
  { total := e.allocator.total
    free := e.allocator.free.size
    hits := e.pool.counters.hits
    misses := e.pool.counters.misses
    evictions := e.pool.counters.evictions
    reads := e.pool.counters.reads
    writes := e.pool.counters.writes
    resident := e.pool.residentCount }

end Engine

end PagedStorage
