import PagedStorage.Session.GuardedPool

/-!
# A session with a pool

The pool stands over one file of the tree. The file may be changed behind its back, so each request
is made on the contents as they are in the tree, and leaves them there. The thread goes by the guards
it holds.
-/

namespace PagedStorage

/-- A pool in use, of whatever dimensions it was opened with. -/
structure LivePool where
  size : Nat
  pageSize : Nat
  held : GuardedPool size pageSize

structure PoolSession where
  tree : FileTree
  path : Path
  current : Option LivePool

namespace PoolSession

/-- Opens a pool over the file, in place of the one before. Nothing of that one is flushed. -/
def start (s : PoolSession) (size pageSize maxFileSize : Nat) : Outcome Unit × PoolSession :=
  let opening : Action FileTree (Disk pageSize) := Disk.openOrCreate s.path maxFileSize
  match opening s.tree with
  | .error why tree => (.failed why, { s with tree, current := none })
  | .ok disk tree =>
    match (Pool.ofDisk disk : Except Fault (Pool size pageSize)) with
    | .error f => (.failed (.fault f), { s with tree, current := none })
    | .ok pool => (.done (), { s with tree, current := some ⟨size, pageSize, pool, []⟩ })

/-- Makes a request of the pool. -/
def step (s : PoolSession) (request : PoolRequest) : Outcome PoolReply × PoolSession :=
  match s.current with
  | none => (.refused .noPool, s)
  | some live =>
    let (outcome, held) := (live.held.refresh s.tree s.path).ask request
    (outcome, { s with tree := held.settle s.tree s.path, current := some { live with held } })

end PoolSession

end PagedStorage
