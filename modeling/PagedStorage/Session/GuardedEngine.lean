import PagedStorage.Engine
import PagedStorage.Session.GuardedPool

/-!
# An engine and the guards held on its pool

The pool of an engine can be reached past the engine, and guards can be held on it. A request to the
engine is turned away just as the request to the pool is that it would make: a read while a writing
guard on the page is held, a write while any guard on it is held, and whatever flushes all pages if
the flush would come to a page that is being written. A request that the engine refuses by itself,
because it is closed or the page is not live, asks the pool nothing and waits for nobody.
-/

namespace PagedStorage

inductive EngineRequest where
  | allocate
  | deallocate (page : PageId)
  | write (page : Page)
  | read (page : PageId)
  | sync
  | close
  | stats
  | pageSize
  | isClosed
  | config
  | pool (request : PoolRequest)

inductive EngineReply where
  | done
  | allocated (page : PageId)
  | page (page : Page)
  | stats (stats : StorageStats)
  | pageSize (n : Nat)
  | isClosed (answer : Bool)
  | config (config : Config)
  | pool (reply : PoolReply)
deriving DecidableEq

structure GuardedEngine (config : Config) where
  engine : Engine config
  guards : List (String × Guard config.bufferSize)

namespace GuardedEngine

variable {config : Config}

/-- The pool with the guards held on it. -/
def held (s : GuardedEngine config) : GuardedPool config.bufferSize config.pageSize :=
  ⟨s.engine.pool, s.guards⟩

/-- The engine after something happened to its pool and the guards. -/
def withHeld (s : GuardedEngine config)
    (held : GuardedPool config.bufferSize config.pageSize) : GuardedEngine config :=
  ⟨{ s.engine with pool := held.pool }, held.guards⟩

/-- The engine lets a request for the page pass to the pool. -/
def lets (s : GuardedEngine config) (page : PageId) : Bool :=
  !s.engine.closed && s.engine.allocator.isLive page

/-- The thread holds a latch that the request would wait for. -/
def waitsForItself (s : GuardedEngine config) : EngineRequest → Bool
  | .read page => s.lets page && s.held.waitsForItself (.read page)
  | .write page => s.lets page.id && s.held.waitsForItself (.write page.id page.bytes)
  | .sync | .close => !s.engine.closed && s.held.waitsForItself .flushAll
  | _ => false

/-- As far as can be told from the guards alone, the request might wait for a latch that the thread
holds. -/
def mightWait (s : GuardedEngine config) : EngineRequest → Bool
  | .read page => s.held.mightWait (.read page)
  | .write page => s.held.mightWait (.write page.id page.bytes)
  | .sync | .close => s.held.mightWait .flushAll
  | .pool request => s.held.mightWait request
  | _ => false

/-- Who goes by the guards does not wait. -/
theorem mightWait_of_waitsForItself {s : GuardedEngine config} {request : EngineRequest}
    (waits : s.waitsForItself request = true) : s.mightWait request = true := by
  cases request with
  | read | write | sync | close =>
    simp only [waitsForItself, Bool.and_eq_true] at waits
    exact GuardedPool.mightWait_of_waitsForItself waits.2
  | _ => cases waits

/-- Makes a request of the engine itself. -/
def perform {α β : Type} (s : GuardedEngine config) (act : Action (Engine config) α)
    (reply : α → β) : Outcome β × GuardedEngine config :=
  let (outcome, engine) := Outcome.ofAction act s.engine
  (outcome.map reply, { s with engine })

/-- A request that the thread need not wait for. -/
def serve (s : GuardedEngine config) : EngineRequest → Outcome EngineReply × GuardedEngine config
  | .allocate => s.perform Engine.allocate .allocated
  | .deallocate page => s.perform (Engine.deallocate page) fun _ => .done
  | .write page => s.perform (Engine.write page) fun _ => .done
  | .read page => s.perform (Engine.read page) .page
  | .sync => s.perform Engine.sync fun _ => .done
  | .close => s.perform Engine.close fun _ => .done
  | .stats => (.done (.stats s.engine.stats), s)
  | .pageSize => (.done (.pageSize config.pageSize), s)
  | .isClosed => (.done (.isClosed s.engine.closed), s)
  | .config => (.done (.config config), s)
  | .pool request =>
    let (outcome, held) := s.held.step request
    (outcome.map .pool, s.withHeld held)

def step (s : GuardedEngine config) (request : EngineRequest) :
    Outcome EngineReply × GuardedEngine config :=
  if s.waitsForItself request then (.wouldBlock, s) else s.serve request

/-- A request of a thread that goes by its guards alone. -/
def ask (s : GuardedEngine config) (request : EngineRequest) :
    Outcome EngineReply × GuardedEngine config :=
  if s.mightWait request then (.wouldBlock, s) else s.step request

theorem ask_eq_serve {s : GuardedEngine config} {request : EngineRequest}
    (calm : s.mightWait request = false) : s.ask request = s.serve request := by
  have free : ¬ s.waitsForItself request = true := by
    intro waits
    rw [mightWait_of_waitsForItself waits] at calm
    cases calm
  rw [ask, if_neg (by simp [calm]), step, if_neg free]

/-- The engine over the contents that its file has in the tree. -/
def refresh (s : GuardedEngine config) (tree : FileTree) (path : Path) : GuardedEngine config :=
  s.withHeld (s.held.refresh tree path)

/-- The tree with the contents that the engine has left in its file. -/
def settle (s : GuardedEngine config) (tree : FileTree) (path : Path) : FileTree :=
  s.held.settle tree path

/-- Gives up the guards and then the engine, which closes itself if it is still open. -/
def dispose (s : GuardedEngine config) : Outcome Unit × GuardedEngine config :=
  (s.withHeld s.held.releaseAll).perform Engine.dispose id

end GuardedEngine

end PagedStorage
