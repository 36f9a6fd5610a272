import PagedStorage.MemoryEngine
import PagedStorage.Session.GuardedEngine

/-!
# A session with an engine

The engine keeps its pages in a file or in memory, and may be given up and opened again. Giving it
up in good order closes it. A crash forgets it: only what it has written to the file stays. A file
may be changed behind the engine's back, so each request is made on the contents as they are in the
tree, and leaves them there. The thread goes by the guards it holds.
-/

namespace PagedStorage

/-- Where an engine keeps its pages. -/
inductive Backing where
  | file
  | memory
deriving DecidableEq

/-- An engine in use, of whatever configuration it was opened with. -/
inductive LiveEngine where
  | file (config : Config) (engine : GuardedEngine config)
  | memory (config : Config) (engine : MemoryEngine config)

/-- Options that replace those in force. -/
structure Override where
  pageSize : Option Nat
  bufferSize : Option Nat
  maxFileSize : Option Nat

def Override.apply (o : Override) (c : Config) : Config :=
  { c with
    pageSize := o.pageSize.getD c.pageSize
    bufferSize := o.bufferSize.getD c.bufferSize
    maxFileSize := o.maxFileSize.getD c.maxFileSize }

structure EngineSession where
  backing : Backing
  tree : FileTree
  /-- The options of the next opening. -/
  config : Config
  current : Option LiveEngine

namespace LiveEngine

def stats : LiveEngine → StorageStats
  | file _ guarded => guarded.engine.stats
  | memory _ engine => engine.stats

def config : LiveEngine → Config
  | file config _ => config
  | memory config _ => config

end LiveEngine

namespace MemoryEngine

variable {config : Config}

def perform {α : Type} (e : MemoryEngine config) (act : Action (MemoryEngine config) α)
    (reply : α → EngineReply) : Outcome EngineReply × MemoryEngine config :=
  let (outcome, e) := Outcome.ofAction act e
  (outcome.map reply, e)

/-- Makes a request of an engine in memory. It has no pool, and tells less about itself. -/
def step (e : MemoryEngine config) : EngineRequest → Outcome EngineReply × MemoryEngine config
  | .allocate => e.perform allocate .allocated
  | .deallocate page => e.perform (deallocate page) fun _ => .done
  | .write page => e.perform (write page) fun _ => .done
  | .read page => e.perform (read page) .page
  | .sync => e.perform sync fun _ => .done
  | .close => e.perform close fun _ => .done
  | .stats => (.done (.stats e.stats), e)
  | .pageSize => (.done (.pageSize config.pageSize), e)
  | .isClosed | .config => (.refused .request, e)
  | .pool _ => (.refused .noPool, e)

end MemoryEngine

namespace EngineSession

/-- Where the data file is. -/
def dataPath (s : EngineSession) : Path := Path.parse s.config.dataFilePath

/-- Makes a request of the engine. -/
def step (s : EngineSession) (request : EngineRequest) : Outcome EngineReply × EngineSession :=
  match s.current with
  | none => (.refused .noEngine, s)
  | some (.memory config engine) =>
    let (outcome, engine) := engine.step request
    (outcome, { s with current := some (.memory config engine) })
  | some (.file config guarded) =>
    -- The tree owns the contents of the file, and lends them out for one request.
    let (outcome, guarded) := (guarded.refresh s.tree s.dataPath).ask request
    (outcome,
      { s with tree := guarded.settle s.tree s.dataPath, current := some (.file config guarded) })

/-- Opens an engine with the options in force. -/
def start (s : EngineSession) : Outcome Unit × EngineSession :=
  match s.backing with
  | .memory =>
    match MemoryEngine.start s.config with
    | .error why => (.failed why, { s with current := none })
    | .ok engine => (.done (), { s with current := some (.memory s.config engine) })
  | .file =>
    match Engine.start s.config s.tree with
    | .error why tree => (.failed why, { s with tree, current := none })
    | .ok engine tree => (.done (), { s with tree, current := some (.file s.config ⟨engine, []⟩) })

/-- Gives up the engine and the guards held on its pool. -/
def drop (s : EngineSession) : Outcome Unit × EngineSession :=
  match s.current with
  | some (.file _ guarded) =>
    let (outcome, guarded) := (guarded.refresh s.tree s.dataPath).dispose
    (outcome, { s with tree := guarded.settle s.tree s.dataPath, current := none })
  | _ => (.done (), { s with current := none })

/-- Gives the engine up and opens it with other options, which stay in force. -/
def reopen (s : EngineSession) (o : Override) : Outcome Unit × EngineSession :=
  match s.drop with
  | (.done (), s) => { s with config := o.apply s.config }.start
  | (outcome, s) => (outcome, s)

/-- Forgets the engine and opens it with other options, which stay in force. -/
def crash (s : EngineSession) (o : Override) : Outcome Unit × EngineSession :=
  { s with config := o.apply s.config, current := none }.start

end EngineSession

end PagedStorage
