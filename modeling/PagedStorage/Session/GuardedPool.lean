import PagedStorage.Page
import PagedStorage.Pool
import PagedStorage.Session.Outcome

/-!
# A pool and the guards held on it

A guard is a pin that can be held from one request to the next. Readers share a page; whoever may
write has it alone. The one thread here cannot wait for a guard of its own, so a request that would
have to is turned away (`waitsForItself`):

* a reader of a page, and a flush of it, while a writing guard on it is held;
* a writer of a page while any guard on it is held;
* a flush of all pages that comes to a page while a writing guard on it is held. A flush looks at the
  pages only that are marked dirty, and a guard marks its page when it is given up, so a flush gets
  past a writing guard on a page that was clean when it was fetched. And it looks at no page behind the
  first that cannot be written.

A thread that goes by its guards alone, and does not look into the frames, has to keep away from more
than that (`mightWait`, `ask`).
-/

namespace PagedStorage

inductive Access where
  | shared
  | exclusive
deriving DecidableEq

structure Guard (size : Nat) where
  page : PageId
  frame : Fin size
  access : Access

structure GuardedPool (size pageSize : Nat) where
  pool : Pool size pageSize
  guards : List (String × Guard size)

inductive PoolRequest where
  | fetch (page : PageId) (access : Access) (name : String)
  | release (name : String)
  /-- Looks through a guard. -/
  | peek (name : String)
  /-- Writes through a guard. -/
  | poke (name : String) (start : Nat) (bytes : Array UInt8)
  | read (page : PageId)
  | write (page : PageId) (bytes : Array UInt8)
  | create (page : PageId)
  | invalidate (page : PageId)
  | flush (page : PageId)
  | flushAll
  | sync
  | close
  | info (page : PageId)
  | counters
  | sizes

inductive PoolReply where
  | done
  | pinned (page : Page) (frame : FrameId)
  | page (page : Page)
  | flag (answer : Bool)
  | count (n : Nat)
  /-- The pin count of a page, if it is resident. -/
  | info (pins : Option Nat)
  | counters (counters : Counters)
  | sizes (poolSize pageSize : Nat)
deriving DecidableEq

namespace GuardedPool

variable {size pageSize : Nat}

/-- A guard that may write is held on the page. -/
def isWritten (s : GuardedPool size pageSize) (page : PageId) : Bool :=
  s.guards.any fun entry => entry.2.page = page ∧ entry.2.access = .exclusive

/-- Some guard is held on the page. -/
def isHeld (s : GuardedPool size pageSize) (page : PageId) : Bool :=
  s.guards.any fun entry => entry.2.page = page

/-- Some guard that may write is held. -/
def hasWriter (s : GuardedPool size pageSize) : Bool :=
  s.guards.any fun entry => entry.2.access = .exclusive

/-- A flush that takes the frames in this order comes to one whose page is being written, before it has
failed to write one. -/
def meetsWriter (s : GuardedPool size pageSize) : List (PageId × Fin size) → Bool
  | [] => false
  | (page, f) :: rest =>
    s.isWritten page ||
      match Pool.writeBack f page s.pool with
      | .ok _ pool => meetsWriter { s with pool } rest
      | .error _ _ => false

/-- The thread holds a latch that the request would wait for. Bytes that are not one page are refused
before any latch is asked for. -/
def waitsForItself (s : GuardedPool size pageSize) : PoolRequest → Bool
  | .fetch page .shared _ | .read page | .flush page => s.isWritten page
  | .fetch page .exclusive _ => s.isHeld page
  | .write page bytes => bytes.size = pageSize && s.isHeld page
  | .flushAll => s.meetsWriter s.pool.dirtyFrames
  | _ => false

/-- As far as can be told from the guards alone, the request might wait for a latch that the thread
holds. -/
def mightWait (s : GuardedPool size pageSize) : PoolRequest → Bool
  | .fetch page .shared _ | .read page | .flush page => s.isWritten page
  | .fetch page .exclusive _ | .write page _ => s.isHeld page
  | .flushAll => s.hasWriter
  | _ => false

theorem isWritten_of_unwritten {s : GuardedPool size pageSize} (unwritten : s.hasWriter = false)
    (page : PageId) : s.isWritten page = false := by
  rw [hasWriter, List.any_eq_false] at unwritten
  rw [isWritten, List.any_eq_false]
  intro entry held
  have shared := unwritten entry held
  simp_all

/-- A flush meets no writer where there is none. -/
theorem meetsWriter_of_unwritten {s : GuardedPool size pageSize} (unwritten : s.hasWriter = false)
    (order : List (PageId × Fin size)) : s.meetsWriter order = false := by
  induction order generalizing s with
  | nil => rfl
  | cons entry rest ih =>
    obtain ⟨page, f⟩ := entry
    rw [meetsWriter, isWritten_of_unwritten unwritten page, Bool.false_or]
    split
    · exact ih unwritten
    · rfl

/-- Who goes by the guards does not wait. -/
theorem mightWait_of_waitsForItself {s : GuardedPool size pageSize} {request : PoolRequest}
    (waits : s.waitsForItself request = true) : s.mightWait request = true := by
  cases request with
  | flushAll =>
    cases writer : s.hasWriter with
    | true => exact writer
    | false =>
      have unmet := meetsWriter_of_unwritten writer s.pool.dirtyFrames
      simp [waitsForItself, unmet] at waits
  | fetch page access => cases access <;> exact waits
  | write =>
    simp only [waitsForItself, Bool.and_eq_true] at waits
    exact waits.2
  | _ => exact waits

/-- The page seen through a guard. -/
def view (s : GuardedPool size pageSize) (g : Guard size) : Page :=
  ⟨g.page, (s.pool.frame g.frame).bytes.toArray⟩

/-- Makes a request of the pool itself. -/
def perform {α : Type} (s : GuardedPool size pageSize) (act : Action (Pool size pageSize) α)
    (reply : α → PoolReply) : Outcome PoolReply × GuardedPool size pageSize :=
  let (outcome, pool) := Outcome.ofAction act s.pool
  (outcome.map reply, { s with pool })

def fetch (s : GuardedPool size pageSize) (page : PageId) (access : Access) (name : String) :
    Outcome PoolReply × GuardedPool size pageSize :=
  if (s.guards.lookup name).isSome then (.refused .guardName, s)
  else
    match Pool.fetch page s.pool with
    | .error why pool => (.failed why, { s with pool })
    | .ok frame pool =>
      let guard : Guard size := ⟨page, frame, access⟩
      let s : GuardedPool size pageSize := ⟨pool, (name, guard) :: s.guards⟩
      (.done (.pinned (s.view guard) ⟨frame.val⟩), s)

def release (s : GuardedPool size pageSize) (name : String) :
    Outcome PoolReply × GuardedPool size pageSize :=
  match s.guards.lookup name with
  | none => (.refused .guardName, s)
  | some g =>
    -- The name is free again, even if giving up the pin is a fault.
    let s := { s with guards := s.guards.filter fun entry => entry.1 ≠ name }
    s.perform (Pool.release g.frame (g.access == .exclusive)) fun _ => .done

def poke (s : GuardedPool size pageSize) (name : String) (start : Nat) (bytes : Array UInt8) :
    Outcome PoolReply × GuardedPool size pageSize :=
  match s.guards.lookup name with
  | some ⟨_, frame, .exclusive⟩ =>
    if start + bytes.size ≤ pageSize then
      s.perform (Pool.editFrame frame fun f => f.setBytes (f.bytes.overlay start bytes))
        fun _ => .done
    else (.refused .offset, s)
  | _ => (.refused .guardName, s)

/-- A request that the thread need not wait for. -/
def serve (s : GuardedPool size pageSize) :
    PoolRequest → Outcome PoolReply × GuardedPool size pageSize
  | .fetch page access name => s.fetch page access name
  | .release name => s.release name
  | .peek name =>
    match s.guards.lookup name with
    | none => (.refused .guardName, s)
    | some g => (.done (.page (s.view g)), s)
  | .poke name start bytes => s.poke name start bytes
  | .read page => s.perform (Pool.read page) fun block => .page ⟨page, block.toArray⟩
  | .write page bytes => s.perform (Pool.write page bytes) fun _ => .done
  | .create page => s.perform (Pool.create page) fun _ => .done
  | .invalidate page => s.perform (Pool.invalidate page) .flag
  | .flush page => s.perform (Pool.flush page) .flag
  | .flushAll => s.perform Pool.flushAll .count
  | .sync => s.perform Pool.sync fun _ => .done
  | .close => s.perform Pool.close fun _ => .done
  | .info page => (.done (.info (s.pool.pinCount? page)), s)
  | .counters => (.done (.counters s.pool.counters), s)
  | .sizes => (.done (.sizes size pageSize), s)

def step (s : GuardedPool size pageSize) (request : PoolRequest) :
    Outcome PoolReply × GuardedPool size pageSize :=
  if s.waitsForItself request then (.wouldBlock, s) else s.serve request

/-- A request of a thread that goes by its guards alone. -/
def ask (s : GuardedPool size pageSize) (request : PoolRequest) :
    Outcome PoolReply × GuardedPool size pageSize :=
  if s.mightWait request then (.wouldBlock, s) else s.step request

theorem ask_eq_serve {s : GuardedPool size pageSize} {request : PoolRequest}
    (calm : s.mightWait request = false) : s.ask request = s.serve request := by
  have free : ¬ s.waitsForItself request = true := by
    intro waits
    rw [mightWait_of_waitsForItself waits] at calm
    cases calm
  rw [ask, if_neg (by simp [calm]), step, if_neg free]

/-- The pool over the contents that its file has in the tree. -/
def refresh (s : GuardedPool size pageSize) (tree : FileTree) (path : Path) :
    GuardedPool size pageSize :=
  match tree.file path with
  | .ok file => { s with pool := { s.pool with disk := { s.pool.disk with file } } }
  | .error _ => s

/-- The tree with the contents that the pool has left in its file. -/
def settle (s : GuardedPool size pageSize) (tree : FileTree) (path : Path) : FileTree :=
  tree.setFile path s.pool.disk.file

/-- Gives up all guards. -/
def releaseAll (s : GuardedPool size pageSize) : GuardedPool size pageSize :=
  s.guards.foldl (fun s entry => (s.release entry.1).2) s

end GuardedPool

end PagedStorage
