import PagedStorage.Allocator
import PagedStorage.Block
import PagedStorage.Config
import PagedStorage.Counters
import PagedStorage.Page

/-!
# The engine without a file

The same store with all pages in memory: the same pages are issued, the same errors are given in the
same order, and every request for a page is a hit. Nothing outlives it.
-/

namespace PagedStorage

structure MemoryEngine (config : Config) where
  allocator : Allocator
  closed : Bool
  pages : Std.ExtTreeMap PageId (Block config.pageSize)
  hits : Nat

namespace MemoryEngine

variable {config : Config}

/-- An empty store. -/
def start (config : Config) : Except Failure (MemoryEngine config) :=
  match config.validate with
  | .error flaw => .error (.error (.invalidConfig flaw))
  | .ok () =>
    match Allocator.ofExtent 0 PageId.bound_pos config.pageSize config.maxFileSize with
    | .error f => .error (.fault f)
    | .ok allocator => .ok ⟨allocator, false, ∅, 0⟩

/-- Runs an action of the allocator. -/
def onAllocator {α : Type} (act : Action Allocator α) : Action (MemoryEngine config) α :=
  Action.within allocator (fun allocator e => { e with allocator }) act

/-- Refuses everything once the engine is closed. -/
def ensureOpen : Action (MemoryEngine config) Unit := do
  if (← get).closed then Action.reject .closed

/-- Refuses a page that is not live. -/
def ensureLive (page : PageId) : Action (MemoryEngine config) Unit := do
  match (← get).allocator.checkLive page with
  | .ok () => pure ()
  | .error e => Action.reject e

/-- Issues a page with all bytes zero. -/
def allocate : Action (MemoryEngine config) PageId := do
  ensureOpen
  let allocation ← onAllocator Allocator.allocate
  modify fun e => { e with pages := e.pages.insert allocation.page .zero }
  return allocation.page

/-- Gives a live page back and forgets its bytes. -/
def deallocate (page : PageId) : Action (MemoryEngine config) Unit := do
  ensureOpen
  onAllocator (Allocator.deallocate page)
  modify fun e => { e with pages := e.pages.erase page }

/-- Replaces the bytes of a live page. -/
def write (page : Page) : Action (MemoryEngine config) Unit := do
  ensureOpen
  match Block.ofArray? page.bytes with
  | none => Action.reject (.pageSizeMismatch config.pageSize page.length)
  | some block =>
    ensureLive page.id
    if (← get).pages.contains page.id then
      modify fun e =>
        { e with pages := e.pages.insert page.id block, hits := e.hits + 1 }
    else
      Action.reject (.pageNotFound page.id)

/-- A copy of a live page. -/
def read (page : PageId) : Action (MemoryEngine config) Page := do
  ensureOpen
  ensureLive page
  match (← get).pages[page]? with
  | none => Action.reject (.pageNotFound page)
  | some block =>
    modify fun e => { e with hits := e.hits + 1 }
    return ⟨page, block.toArray⟩

/-- There is nothing to make lasting. -/
def sync : Action (MemoryEngine config) Unit := ensureOpen

def close : Action (MemoryEngine config) Unit := do
  ensureOpen
  modify fun e => { e with closed := true }

def stats (e : MemoryEngine config) : StorageStats :=
  { total := e.allocator.total
    free := e.allocator.free.size
    hits := e.hits
    resident := e.pages.size }

end MemoryEngine

end PagedStorage
