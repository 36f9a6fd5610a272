import PagedStorage.Proofs.EngineAnswers
import PagedStorage.Proofs.Representation

/-!
# Engines whose pool is used past them

Guards may be held on the pool of an engine, and the pool may be asked directly. Then frames may hold
pages that are not live, and a request to the engine may fail in the pool or in the file. All the
same no request to the engine touches a frame that is pinned (`Engine.Rests`), and if a page that was
issued cannot be made resident the allocator is as it was. So a run may mix requests to the engine
with requests to its pool (`GuardedEngine.Runs`), and all that guards rely on is kept.
-/

namespace PagedStorage

open PagedStorage.Action (Settles)

theorem Pool.RestsAt.full {size pageSize n : Nat} {s t : Pool size pageSize} {why : Fault}
    (rests : s.RestsAt n t) (full : t.FullAt n why) : s.FullAt n why := by
  intro fits
  obtain ⟨rfl, f, most⟩ := full fits
  exact ⟨rfl, f, by rwa [← rests.spares.pins f]⟩

namespace Engine

variable {config : Config} {e f : Engine config} {page : PageId}
  {order : List (PageId × Fin config.bufferSize)}

/-- What an engine relies on, whoever else uses its pool. -/
structure Grounded (e : Engine config) : Prop where
  sound : e.pool.Sound
  issued : e.allocator.Sound
  pageSize_eq : e.allocator.pageSize = config.pageSize

/-- The pinned frames of an engine are left as they are. -/
structure Rests (e f : Engine config) : Prop where
  pool : e.pool.Rests f.pool
  grounded : f.Grounded

theorem Rests.refl (h : e.Grounded) : e.Rests e := ⟨.refl h.sound, h⟩

/-- A live page has a successor. -/
theorem numbered_of_live (live : e.allocator.isLive page = true) : page.index + 1 < 0x100000000 :=
  Nat.lt_of_le_of_lt (Sound.index_lt live) e.allocator.total_lt

/-- What a request to the pool makes of an engine that came from another one. -/
theorem Rests.onPool {α : Type} {act : Action (Pool config.bufferSize config.pageSize) α}
    (rests : e.Rests f) (settles : Settles act f.pool f.pool.Rests f.pool.Full) :
    Settles (Engine.onPool act) f e.Rests e.pool.Full := by
  apply Settles.within
  apply settles.mono
  · intro pool after
    exact ⟨rests.pool.trans after, after.sound, rests.grounded.issued, rests.grounded.pageSize_eq⟩
  · exact fun why => rests.pool.full

/-- A page is given back or refused, whatever became of the pool. -/
theorem Rests.returned (rests : e.Rests f) (page : PageId) :
    Settles (onAllocator (Allocator.deallocate page)) f e.Rests e.pool.Full := by
  have ran := Allocator.deallocate_eq f.allocator page
  apply Settles.within
  by_cases live : f.allocator.isLive page = true
  · rw [if_pos live] at ran
    exact .of_ok ran ⟨rests.pool, rests.grounded.sound, rests.grounded.issued.returned live,
      rests.grounded.pageSize_eq⟩
  · rw [if_neg live] at ran
    exact .of_error ran rests

theorem Rests.flushAndSyncIn (rests : e.Rests f) (listed : order.Perm f.pool.dirtyFrames) :
    Settles (flushAndSyncIn order) f e.Rests e.pool.Full := by
  apply Settles.bind
  · exact rests.onPool (Pool.flushFrames_settles rests.grounded.sound listed)
  · exact fun _ g rests => rests.onPool (Pool.sync_settles rests.grounded.sound)

section Requests

section Checks

variable {α : Type} {next : Action (Engine config) α} {good : Engine config → Prop}
  {broken : Fault → Prop} (here : good e)
include here

/-- Only an open engine goes on. -/
theorem ensureOpen_settles (rest : e.closed = false → Settles next e good broken) :
    Settles (do ensureOpen; next) e good broken := by
  cases closed : e.closed with
  | true =>
    apply Settles.of_error
    · simp only [Action.run_bind, ensureOpen_eq, closed, if_true]
      rfl
    · exact here
  | false =>
    apply Settles.congr _ (rest closed)
    simp [ensureOpen_eq, closed]

theorem ensureLive_settles (rest : e.allocator.isLive page = true → Settles next e good broken) :
    Settles (do ensureLive page; next) e good broken := by
  cases checked : e.allocator.checkLive page with
  | error why =>
    apply Settles.of_error
    · simp only [Action.run_bind, ensureLive_eq, checked]
      rfl
    · exact here
  | ok =>
    apply Settles.congr _ (rest (Allocator.checkLive_eq_ok_iff.mp checked))
    simp [ensureLive_eq, checked]

end Checks

/-- A close leaves what is left by letting go of the file, after whatever the flush has left. -/
theorem settles_closeIn {good fine : Engine config → Prop} {broken : Fault → Prop}
    (done : e.closed = true → good e)
    (flushed : e.closed = false →
      Settles (flushAndSyncIn order) { e with closed := true } fine broken)
    (released : ∀ f, fine f → Settles (onPool Pool.close) f good broken) :
    Settles (closeIn order) e good broken := by
  cases closed : e.closed with
  | true => exact .of_error (closeIn_of_closed closed order) (done closed)
  | false =>
    have opened : ensureOpen e = .ok () e := by simp [ensureOpen_eq, closed]
    refine .congr ((Action.bind_of_ok opened).trans (Action.bind_of_ok rfl)) ?_
    refine .bind_attempt (flushed closed) fun synced f left => ?_
    refine .bind (released f left).attempt fun closed g left => ?_
    -- The file is let go of even if the flush has failed, which is then reported.
    cases synced with
    | error why => exact .reject left
    | ok =>
      cases closed with
      | error why => exact .reject left
      | ok => exact .pure left

variable (h : e.Grounded)
include h

theorem read_settles (small : config.pageSize < 0x100000000) (page : PageId) :
    Settles (read page) e e.Rests e.pool.Full := by
  refine ensureOpen_settles (.refl h) fun _ => ensureLive_settles (.refl h) fun live => ?_
  apply Settles.bind
  · apply (Rests.refl h).onPool
    exact Pool.read_settles h.sound (.of_small (numbered_of_live live) small)
  · exact fun _ _ => Settles.pure

theorem write_settles (small : config.pageSize < 0x100000000) {page : Page}
    (unheld : e.closed = false → e.allocator.isLive page.id = true →
      page.bytes.size = config.pageSize →
      ∀ f, e.pool.table[page.id]? = some f → (e.pool.frame f).pins = 0) :
    Settles (write page) e e.Rests e.pool.Full := by
  refine ensureOpen_settles (.refl h) fun opened => ?_
  -- The length is checked before the page is looked up.
  dsimp only
  split
  · exact .of_error rfl (.refl h)
  · refine ensureLive_settles (.refl h) fun live => (Rests.refl h).onPool ?_
    exact Pool.write_settles h.sound (.of_small (numbered_of_live live) small) page.bytes
      (unheld opened live)

theorem deallocate_settles (page : PageId) :
    Settles (deallocate page) e e.Rests e.pool.Full := by
  refine ensureOpen_settles (.refl h) fun _ => .get ?_
  dsimp only
  split
  · exact .of_error rfl (.refl h)
  · apply Settles.bind
    · exact (Rests.refl h).onPool (Pool.invalidate_settles h.sound page)
    · exact fun _ f rests => rests.returned page

theorem allocate_settles (small : config.pageSize < 0x100000000) :
    Settles allocate e e.Rests e.pool.Full := by
  refine ensureOpen_settles (.refl h) fun _ => ?_
  rcases e.allocator.allocate_cases with ⟨issued, b, issues, ran⟩ | ⟨none, full, ran⟩
  · have addressable := PageId.Addressable.of_small (issues.index_succ_lt h.issued) small
    have created := Pool.create_settles h.sound addressable
    refine .congr (Action.bind_of_ok (Action.within_of_ok ran)) ?_
    unfold Settles at created
    cases made : Pool.create issued.page e.pool with
    | ok u pool =>
      rw [made] at created
      refine .congr (Action.bind_of_ok (Action.attempt_of_ok (Action.within_of_ok made))) ?_
      exact .pure ⟨created, created.sound, issues.sound h.issued,
        issues.pageSize_eq.trans h.pageSize_eq⟩
    | error why pool =>
      rw [made] at created
      cases why with
      | error why =>
        -- The page is not made, so the allocator takes it back.
        refine .congr (Action.bind_of_ok (Action.attempt_of_error (Action.within_of_error made))) ?_
        refine .congr (Action.bind_of_ok (Action.within_of_ok issues.rollback_eq)) ?_
        exact .reject ⟨created, created.sound, h.issued, h.pageSize_eq⟩
      | fault why =>
        refine .of_fault (t := ⟨b, e.closed, pool⟩) ?_ created
        exact Action.bind_of_error (Action.attempt_of_fault (Action.within_of_error made))
  · rw [e.allocator.exhausted_eq h.pageSize_eq small] at ran
    exact .of_error (Action.bind_of_error (Action.within_of_error ran)) (.refl h)

/-! ### Requests that flush -/

theorem syncIn_settles (listed : order.Perm e.pool.dirtyFrames) :
    Settles (syncIn order) e e.Rests e.pool.Full :=
  ensureOpen_settles (.refl h) fun _ => (Rests.refl h).flushAndSyncIn listed

theorem closeIn_settles (listed : order.Perm e.pool.dirtyFrames) :
    Settles (closeIn order) e e.Rests e.pool.Full := by
  have rests : e.Rests { e with closed := true } :=
    ⟨.refl h.sound, h.sound, h.issued, h.pageSize_eq⟩
  apply settles_closeIn
  · exact fun _ => .refl h
  · exact fun _ => rests.flushAndSyncIn listed
  · exact fun f rests => rests.onPool (Pool.close_settles rests.grounded.sound)

end Requests

end Engine

/-! ### Moves -/

/-- The request names no page without a successor, unless the engine turns it away by itself. -/
def EngineRequest.Numbered : EngineRequest → Prop
  | .pool request => request.Numbered
  | _ => True

namespace GuardedEngine

variable {config : Config} {s t : GuardedEngine config} {request : EngineRequest}
  {outcome : Outcome EngineReply}

structure Latched (s : GuardedEngine config) : Prop where
  held : s.held.Latched
  issued : s.engine.allocator.Sound
  pageSize_eq : s.engine.allocator.pageSize = config.pageSize

/-- The bytes seen through the guard of a name, after a request was answered. -/
def poked (name : String) (block : Block config.pageSize) :
    EngineRequest × Outcome EngineReply → Block config.pageSize
  | (.pool request, outcome) => GuardedPool.poked name block request outcome
  | _ => block

/-- What a request makes of an engine and the guards held on its pool. -/
inductive Moves (s : GuardedEngine config) :
    EngineRequest → Outcome EngineReply → GuardedEngine config → Prop
  | rests {request : EngineRequest} {outcome : Outcome EngineReply} {engine : Engine config}
      (rests : s.engine.Rests engine)
      (unpoked : ∀ name (block : Block config.pageSize),
        poked name block (request, outcome) = block) :
      Moves s request outcome { s with engine }
  | pool {request : PoolRequest} {outcome : Outcome PoolReply}
      {held : GuardedPool config.bufferSize config.pageSize}
      (moves : s.held.Moves request outcome held) :
      Moves s (.pool request) (outcome.map .pool) (s.withHeld held)

/-- A request makes a move, unless it meets the fault of a page with all the pins it can have. -/
def Advances (s : GuardedEngine config) (request : EngineRequest) (outcome : Outcome EngineReply)
    (t : GuardedEngine config) : Prop :=
  outcome.Leaves s.engine.pool.Full (s.Moves request outcome t)

theorem perform_advances {α : Type} {act : Action (Engine config) α} {reply : α → EngineReply}
    (settles : Settles act s.engine s.engine.Rests s.engine.pool.Full)
    (unpoked : ∀ outcome name (block : Block config.pageSize),
      poked name block (request, outcome) = block) :
    s.Advances request (s.perform act reply).1 (s.perform act reply).2 := by
  have left := Outcome.leaves_ofAction settles
  exact (Outcome.leaves_map reply).mpr (left.imp fun rests => Moves.rests rests (unpoked _))

/-- What is asked of the pool past the engine leaves the engine as it is. -/
theorem pool_advances {request : PoolRequest} {outcome : Outcome PoolReply}
    {held : GuardedPool config.bufferSize config.pageSize}
    (advances : s.held.AdvancesAt config.pageSize request outcome held) :
    s.Advances (.pool request) (outcome.map .pool) (s.withHeld held) :=
  (Outcome.leaves_map _).mpr (advances.imp .pool)

/-! ### Runs -/

/-- A request and how it ends. Whatever flushes all pages may take them in any order in which it comes to
none that the thread is writing. -/
inductive Steps (s : GuardedEngine config) :
    EngineRequest → Outcome EngineReply → GuardedEngine config → Prop
  | made (request : EngineRequest) : Steps s request (s.step request).1 (s.step request).2
  | pool {request : PoolRequest} {outcome : Outcome PoolReply}
      {held : GuardedPool config.bufferSize config.pageSize}
      (steps : s.held.Steps request outcome held) :
      Steps s (.pool request) (outcome.map .pool) (s.withHeld held)
  | synced {order : List (PageId × Fin config.bufferSize)} (unmet : s.held.meetsWriter order = false)
      (listed : order.Perm s.engine.pool.dirtyFrames) :
      Steps s .sync (s.perform (Engine.syncIn order) fun _ => EngineReply.done).1
        (s.perform (Engine.syncIn order) fun _ => EngineReply.done).2
  | closed {order : List (PageId × Fin config.bufferSize)} (unmet : s.held.meetsWriter order = false)
      (listed : order.Perm s.engine.pool.dirtyFrames) :
      Steps s .close (s.perform (Engine.closeIn order) fun _ => EngineReply.done).1
        (s.perform (Engine.closeIn order) fun _ => EngineReply.done).2

/-- Requests to an engine and to its pool with their outcomes, none of them a fault, and what they
make of both. -/
inductive Runs : GuardedEngine config → List (EngineRequest × Outcome EngineReply) →
    GuardedEngine config → Prop
  | nil (s : GuardedEngine config) : Runs s [] s
  | cons {s t u : GuardedEngine config} {request : EngineRequest} {outcome : Outcome EngineReply}
      {history : List (EngineRequest × Outcome EngineReply)} (numbered : request.Numbered)
      (steps : s.Steps request outcome t) (unbroken : ∀ why, outcome ≠ .failed (.fault why))
      (rest : Runs t history u) : Runs s ((request, outcome) :: history) u
  | meanwhile {s t : GuardedEngine config} {history : List (EngineRequest × Outcome EngineReply)}
      (disk : Disk config.pageSize) (rest : Runs (s.withHeld (s.held.rebased disk)) history t) :
      Runs s history t

namespace Latched

theorem grounded (h : s.Latched) : s.engine.Grounded := ⟨h.held.sound, h.issued, h.pageSize_eq⟩

theorem idle (h : s.Latched)
    (unpoked : ∀ name (block : Block config.pageSize),
      poked name block (request, outcome) = block) :
    s.Moves request outcome s := .rests (.refl h.grounded) unpoked

theorem moved (h : s.Latched) (moves : s.Moves request outcome t) : t.Latched := by
  cases moves with
  | rests rests =>
    exact ⟨h.held.spared rests.pool, rests.grounded.issued, rests.grounded.pageSize_eq⟩
  | pool moves => exact ⟨h.held.moved moves, h.issued, h.pageSize_eq⟩

theorem serve (h : s.Latched) (small : config.pageSize < 0x100000000) (numbered : request.Numbered)
    (free : s.waitsForItself request = false) :
    s.Advances request (s.serve request).1 (s.serve request).2 := by
  have grounded := h.grounded
  cases request with
  | allocate => exact perform_advances (Engine.allocate_settles grounded small) fun _ _ _ => rfl
  | deallocate page =>
    exact perform_advances (Engine.deallocate_settles grounded page) fun _ _ _ => rfl
  | write page =>
    refine perform_advances (Engine.write_settles grounded small ?_) fun _ _ _ => rfl
    intro opened live fits f
    apply h.held.unpinned
    simpa [waitsForItself, lets, GuardedPool.waitsForItself, opened, live, fits] using free
  | read page => exact perform_advances (Engine.read_settles grounded small page) fun _ _ _ => rfl
  | sync =>
    have synced := Engine.syncIn_settles grounded (List.Perm.refl _)
    exact perform_advances (.congr (Engine.sync_eq s.engine) synced) fun _ _ _ => rfl
  | close =>
    have closed := Engine.closeIn_settles grounded (List.Perm.refl _)
    exact perform_advances (.congr (Engine.close_eq s.engine) closed) fun _ _ _ => rfl
  | stats | pageSize | isClosed | config => exact h.idle fun _ _ => rfl
  | pool request => exact pool_advances (h.held.steps small numbered (.made request))

/-- One step, with the dirty frames of a flush in any order. -/
theorem steps (h : s.Latched) (small : config.pageSize < 0x100000000) (numbered : request.Numbered)
    (steps : s.Steps request outcome t) : s.Advances request outcome t := by
  cases steps with
  | made =>
    unfold step
    split
    · next waits =>
      refine h.idle fun name block => ?_
      cases request with
      | pool => cases waits
      | _ => rfl
    · next free => exact h.serve small numbered (by simpa using free)
  | pool steps => exact pool_advances (h.held.steps small numbered steps)
  | synced unmet listed =>
    exact perform_advances (Engine.syncIn_settles h.grounded listed) fun _ _ _ => rfl
  | closed unmet listed =>
    exact perform_advances (Engine.closeIn_settles h.grounded listed) fun _ _ _ => rfl

theorem rebased (h : s.Latched) (disk : Disk config.pageSize) :
    (s.withHeld (s.held.rebased disk)).Latched :=
  ⟨h.held.rebased disk, h.issued, h.pageSize_eq⟩

end Latched

theorem Runs.latched {history : List (EngineRequest × Outcome EngineReply)}
    (runs : Runs s history t) (h : s.Latched) (small : config.pageSize < 0x100000000) :
    t.Latched := by
  -- `Latched.steps` is one request, and nothing is asked of the file behind the pool.
  induction runs with
  | nil => exact h
  | cons numbered steps unbroken _ ih =>
    exact ih (h.moved ((h.steps small numbered steps).unbroken unbroken))
  | meanwhile disk _ ih => exact ih (h.rebased disk)

end GuardedEngine

end PagedStorage
