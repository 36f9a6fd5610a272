import Mathlib.Data.List.Nodup
import PagedStorage.Proofs.GuardedEngines

/-!
# What the holder of a guard may rely on

As long as a guard is held its page stays in the same frame, with one pin for each guard on it, and
the bytes that are seen through the guard change only when they are written through it
(`GuardedEngine.Holds`). Meanwhile neither the pool nor an engine over it makes the page anew, drops
it or gives it back.

This is shown for a guard in a run of any length. Everything else may happen in it: other pages are
brought in and pushed out, all pages are flushed in any order, also past a guard that may write to a
clean page, the engine is closed, the file is lost, and requests fail. The run begins with a pool that
was just made, which is that of an engine that was just opened (`Engine.Fresh`,
`GuardedEngine.Runs.holds_of_held`) or one that is used without an engine (`GuardedPool.Runs.holds`).
-/

namespace PagedStorage

/-! ### Pools refuse to give up pinned pages -/

namespace Pool

variable {size pageSize : Nat} {s : Pool size pageSize} {f : Fin size} {page : PageId}

theorem create_refused (there : s.table[page]? = some f) (pinned : 0 < (s.frame f).pins) :
    create page s = .error (.error (.pagePinned page)) s := by
  have busy : (s.frame f).isPinned = true := by simpa [Frame.isPinned] using pinned
  rw [create_hit there, if_pos busy]

theorem invalidate_refused (there : s.table[page]? = some f) (pinned : 0 < (s.frame f).pins) :
    invalidate page s = .error (.error (.pagePinned page)) s := by
  have busy : (s.frame f).isPinned = true := by simpa [Frame.isPinned] using pinned
  simp only [invalidate_eq, there, busy, if_true]

end Pool

/-- The frame of a page is dropped before the page is given back, so a pinned page stays live. -/
theorem Engine.deallocate_of_pinned {config : Config} {e : Engine config} {page : PageId}
    {f : Fin config.bufferSize} (there : e.pool.table[page]? = some f)
    (pinned : 0 < (e.pool.frame f).pins) (opened : e.closed = false)
    (live : e.allocator.isLive page = true) :
    deallocate page e = .error (.error (.pagePinned page)) e := by
  have passed : ensureOpen e = .ok () e := by simp [ensureOpen_eq, opened]
  have refused : onPool (Pool.invalidate page) e = .error (.error (.pagePinned page)) e :=
    Action.within_of_error (Pool.invalidate_refused there pinned)
  simp [deallocate, passed, live, refused]

/-! ### Guards stay until they are given up -/

namespace GuardedPool

variable {size pageSize : Nat} {s t : GuardedPool size pageSize} {request : PoolRequest}
  {outcome : Outcome PoolReply} {past history : List (PoolRequest × Outcome PoolReply)}
  {name : String} {g : Guard size}

theorem Moves.mem_guards (moves : s.Moves request outcome t) (held : (name, g) ∈ s.guards)
    (kept : request ≠ .release name) : (name, g) ∈ t.guards := by
  cases moves with
  | rests | poked => exact held
  | taken => exact List.mem_cons_of_mem _ held
  | @released used _ found =>
    have other : name ≠ used := by
      rintro rfl
      exact kept rfl
    exact List.mem_filter.mpr ⟨held, by simpa using other⟩

theorem poked_map {α β : Type} (name : String) (block : Block pageSize) (request : PoolRequest)
    (outcome : Outcome α) (reply : α → β) :
    poked name block request (outcome.map reply) = poked name block request outcome := by
  cases request <;> cases outcome <;> rfl

theorem perform_of_error {α : Type} {act : Action (Pool size pageSize) α} {why : Failure}
    {pool : Pool size pageSize} (ran : act s.pool = .error why pool) (reply : α → PoolReply) :
    s.perform act reply = (.failed why, { s with pool }) := by
  simp [perform, Outcome.ofAction, ran, Outcome.map]

/-- What is seen through a guard changes only when it is written through the guard. -/
theorem Latched.bytes_eq (h : s.Latched) (moves : s.Moves request outcome t)
    (held : (name, g) ∈ s.guards) :
    (t.pool.frame g.frame).bytes = poked name (s.pool.frame g.frame).bytes request outcome := by
  have pinned := h.matched.pinned held
  cases moves with
  | rests rests unpoked => rw [unpoked, rests.bytes g.frame pinned]
  | @taken page access used _ pool f rests =>
    exact (Pool.bytes_pinned pool f g.frame).trans (rests.bytes g.frame pinned)
  | released => exact (s.frame_poolAfter _ g.frame).2.1
  | @poked used start bytes other found writes =>
    have listed := h.matched.mem_of_lookup found
    rw [Pool.filled, Pool.frame_reframed, GuardedPool.poked]
    by_cases same : used = name
    · -- There is one guard of a name.
      obtain ⟨-, rfl⟩ :=
        Prod.ext_iff.mp (List.inj_on_of_nodup_map h.matched.names listed held same)
      simp [same]
    · -- A guard that may write has its page alone, so this one is on another page.
      have apart : other.frame ≠ g.frame := by
        intro also
        have paged := (h.frame_eq_iff (h.resident listed) held).mp also.symm
        exact same (congrArg Prod.fst (h.alone _ listed writes _ held paged)).symm
      rw [if_neg apart, if_neg same]

/-- What the holder of a guard relies on, and the bytes that it sees. -/
structure Holds (s : GuardedPool size pageSize) (name : String) (g : Guard size)
    (block : Block pageSize) : Prop where
  held : (name, g) ∈ s.guards
  resident : s.pool.table[g.page]? = some g.frame
  pinCount?_eq : s.pool.pinCount? g.page =
    some (s.guards.countP fun entry => entry.2.page = g.page)
  view_eq : s.view g = ⟨g.page, block.toArray⟩
  /-- The page is not made anew. -/
  create_eq : s.step (.create g.page) = (.failed (.error (.pagePinned g.page)), s)
  invalidate_eq : s.step (.invalidate g.page) = (.failed (.error (.pagePinned g.page)), s)

theorem Latched.holds (h : s.Latched) (held : (name, g) ∈ s.guards) :
    s.Holds name g (s.pool.frame g.frame).bytes := by
  have there : s.pool.table[g.page]? = some g.frame := h.resident held
  have pinned : 0 < (s.pool.frame g.frame).pins := h.matched.pinned held
  constructor
  case held => exact held
  case resident => exact there
  case pinCount?_eq =>
    rw [Pool.pinCount?, there, Option.map_some]
    exact congrArg some (h.pins_eq there)
  case view_eq => rfl
  case create_eq => exact perform_of_error (Pool.create_refused there pinned) _
  case invalidate_eq => exact perform_of_error (Pool.invalidate_refused there pinned) _

/-- A run: what was written through the guard adds up. -/
theorem Runs.steady (runs : Runs s history t) (h : s.Latched) (small : pageSize < 0x100000000)
    (held : (name, g) ∈ s.guards) (kept : ∀ entry ∈ history, entry.1 ≠ .release name) :
    (name, g) ∈ t.guards ∧ (t.pool.frame g.frame).bytes =
      history.foldl (fun block entry => poked name block entry.1 entry.2)
        (s.pool.frame g.frame).bytes := by
  -- The first request leaves the guard where it is, and the rest of the run begins with its bytes.
  induction runs with
  | nil => exact ⟨held, rfl⟩
  | cons numbered steps unbroken _ ih =>
    obtain ⟨first, others⟩ := List.forall_mem_cons.mp kept
    have moves := (h.steps small numbered steps).unbroken unbroken
    rw [List.foldl_cons, ← h.bytes_eq moves held]
    exact ih (h.moved moves) (Moves.mem_guards moves held first) others
  | meanwhile disk _ ih => exact ih (h.rebased disk) held kept

/-- Whatever was asked of a pool, from then on a guard that is held keeps its page where it is until it
is given up, and shows what it showed but for what is written through it. -/
theorem Runs.holds (small : pageSize < 0x100000000) {disk : Disk pageSize}
    {pool : Pool size pageSize} (made : Pool.ofDisk disk = .ok pool)
    (before : Runs ⟨pool, []⟩ past s) (held : (name, g) ∈ s.guards) (after : Runs s history t)
    (kept : ∀ entry ∈ history, entry.1 ≠ .release name) :
    t.Holds name g (history.foldl (fun block entry => poked name block entry.1 entry.2)
      (s.pool.frame g.frame).bytes) := by
  have latched := before.latched (latched_ofDisk made) small
  obtain ⟨still, seen⟩ := after.steady latched small held kept
  rw [← seen]
  exact (after.latched latched small).holds still

end GuardedPool

namespace GuardedEngine

variable {config : Config} {s t : GuardedEngine config} {request : EngineRequest}
  {outcome : Outcome EngineReply} {history : List (EngineRequest × Outcome EngineReply)}
  {name : String} {g : Guard config.bufferSize}

/-- One request: a guard that is not given up is still held, and shows what it showed unless it is
written through. -/
theorem Latched.steady (h : s.Latched) (moves : s.Moves request outcome t)
    (held : (name, g) ∈ s.guards) (kept : request ≠ .pool (.release name)) :
    (name, g) ∈ t.guards ∧ (t.engine.pool.frame g.frame).bytes =
      poked name (s.engine.pool.frame g.frame).bytes (request, outcome) := by
  cases moves with
  | rests rests unpoked =>
    refine ⟨held, ?_⟩
    rw [unpoked, rests.pool.bytes g.frame (h.held.matched.pinned held)]
  | @pool request outcome after moves =>
    have unreleased : request ≠ .release name := by
      rintro rfl
      exact kept rfl
    refine ⟨moves.mem_guards held unreleased, ?_⟩
    rw [poked, GuardedPool.poked_map]
    exact h.held.bytes_eq moves held

/-! ### Requests for the page of a guard -/

theorem perform_of_error {α β : Type} {act : Action (Engine config) α} {why : Failure}
    {engine : Engine config} (ran : act s.engine = .error why engine) (reply : α → β) :
    s.perform act reply = (.failed why, { s with engine }) := by
  simp [perform, Outcome.ofAction, ran, Outcome.map]

theorem step_pool_of_failed {request : PoolRequest} {why : Failure}
    (failed : s.held.step request = (.failed why, s.held)) :
    s.step (.pool request) = (.failed why, s) := by
  show ((s.held.step request).1.map EngineReply.pool, s.withHeld (s.held.step request).2) = _
  rw [failed]
  rfl

/-- What the holder of a guard relies on, and the bytes that it sees. -/
structure Holds (s : GuardedEngine config) (name : String) (g : Guard config.bufferSize)
    (block : Block config.pageSize) : Prop where
  held : (name, g) ∈ s.guards
  resident : s.engine.pool.table[g.page]? = some g.frame
  pinCount?_eq : s.engine.pool.pinCount? g.page =
    some (s.guards.countP fun entry => entry.2.page = g.page)
  view_eq : s.held.view g = ⟨g.page, block.toArray⟩
  /-- The page is not made anew. -/
  create_eq : s.step (.pool (.create g.page)) = (.failed (.error (.pagePinned g.page)), s)
  invalidate_eq : s.step (.pool (.invalidate g.page)) = (.failed (.error (.pagePinned g.page)), s)
  /-- The engine does not give the page back, so it stays live. -/
  deallocate_eq : s.engine.closed = false → s.engine.allocator.isLive g.page = true →
    s.step (.deallocate g.page) = (.failed (.error (.pagePinned g.page)), s)

theorem Latched.holds (h : s.Latched) (held : (name, g) ∈ s.guards) :
    s.Holds name g (s.engine.pool.frame g.frame).bytes := by
  -- The engine adds to the pool only that it does not give the page back.
  have pool := h.held.holds held
  constructor
  case held => exact held
  case resident => exact pool.resident
  case pinCount?_eq => exact pool.pinCount?_eq
  case view_eq => exact pool.view_eq
  case create_eq => exact step_pool_of_failed pool.create_eq
  case invalidate_eq => exact step_pool_of_failed pool.invalidate_eq
  case deallocate_eq =>
    intro opened live
    have pinned := h.held.matched.pinned held
    exact perform_of_error (Engine.deallocate_of_pinned pool.resident pinned opened live) _

/-! ### Runs -/

/-- A run: what one request keeps holds through all of them, and what was written through the guard
adds up. -/
theorem Runs.steady (runs : Runs s history t) (h : s.Latched)
    (small : config.pageSize < 0x100000000) (held : (name, g) ∈ s.guards)
    (kept : ∀ entry ∈ history, entry.1 ≠ .pool (.release name)) :
    (name, g) ∈ t.guards ∧ (t.engine.pool.frame g.frame).bytes =
      history.foldl (poked name) (s.engine.pool.frame g.frame).bytes := by
  -- `Latched.steady` is what one request keeps, with what it has poked.
  induction runs with
  | nil => exact ⟨held, rfl⟩
  | cons numbered steps unbroken _ ih =>
    obtain ⟨first, others⟩ := List.forall_mem_cons.mp kept
    have moves := (h.steps small numbered steps).unbroken unbroken
    obtain ⟨still, seen⟩ := h.steady moves held first
    rw [List.foldl_cons, ← seen]
    exact ih (h.moved moves) still others
  | meanwhile disk _ ih => exact ih (h.rebased disk) held kept

/-- A request that was done, and then others. -/
theorem Runs.made {reply : EngineReply} (numbered : request.Numbered)
    (done : (s.step request).1 = .done reply) (rest : Runs (s.step request).2 history t) :
    Runs s ((request, .done reply) :: history) t :=
  .cons numbered (done ▸ .made request) nofun rest

theorem latched_ofDisk {disk : Disk config.pageSize} {pool : Pool config.bufferSize config.pageSize}
    {allocator : Allocator} (made : Pool.ofDisk disk = .ok pool) (issued : allocator.Sound)
    (long : allocator.pageSize = config.pageSize) (closed : Bool) :
    Latched ⟨⟨allocator, closed, pool⟩, []⟩ :=
  ⟨GuardedPool.latched_ofDisk made, issued, long⟩

/-- Whatever was asked of a pool and of an engine over it, from then on a guard that is held keeps
its page where it is until it is given up, and shows what it showed but for what is written through
it. The next request can meet no fault but that of a page that has all the guards it can have. -/
theorem Runs.holds_of_held (small : config.pageSize < 0x100000000) {disk : Disk config.pageSize}
    {pool : Pool config.bufferSize config.pageSize} {allocator : Allocator} {closed : Bool}
    {past : List (EngineRequest × Outcome EngineReply)} (made : Pool.ofDisk disk = .ok pool)
    (issued : allocator.Sound) (long : allocator.pageSize = config.pageSize)
    (before : Runs ⟨⟨allocator, closed, pool⟩, []⟩ past s) (held : (name, g) ∈ s.guards)
    (after : Runs s history t) (kept : ∀ entry ∈ history, entry.1 ≠ .pool (.release name)) :
    t.Holds name g (history.foldl (poked name) (s.engine.pool.frame g.frame).bytes) ∧
      ∀ request outcome u why, request.Numbered → t.Steps request outcome u →
        outcome = .failed (.fault why) →
          why = .addOverflow ∧ ∃ page, (t.guards.countP fun entry => entry.2.page = page) + 1 =
            Frame.pinLimit := by
  have latched := before.latched (latched_ofDisk made issued long closed) small
  have last := after.latched latched small
  obtain ⟨still, seen⟩ := after.steady latched small held kept
  rw [← seen]
  refine ⟨last.holds still, ?_⟩
  rintro request outcome u why numbered steps rfl
  exact last.held.of_full (last.steps small numbered steps)

/-- A page of the file is held for writing. Its frame is clean, so a sync does not wait for the guard. Then
the page is written through the guard. -/
theorem holds_of_held_poked :
    let config : Config := ⟨"", 2, 1, 8⟩
    let page : PageId := ⟨0, by decide⟩
    let disk : Disk 2 := ⟨8, 1, true, .hole 2, .reliable, by decide⟩
    let pool : Pool 1 2 := ⟨Vector.replicate 1 .empty, ∅, List.finRange 1, .empty, disk, {}⟩
    let start : GuardedEngine config := ⟨⟨⟨2, 4, 1, ∅, by decide, by decide⟩, false, pool⟩, []⟩
    let s := (start.step (.pool (.fetch page .exclusive "w"))).2
    let t := ((s.step .sync).2.step (.pool (.poke "w" 1 #[9]))).2
    Runs start
        [(.pool (.fetch page .exclusive "w"), .done (.pool (.pinned ⟨page, #[0, 0]⟩ ⟨0⟩)))] s ∧
      Runs s [(.sync, .done .done), (.pool (.poke "w" 1 #[9]), .done (.pool .done))] t ∧
      t.Holds "w" ⟨page, 0, .exclusive⟩ ⟨#[0, 9], rfl⟩ := by
  intro config page disk pool start s t
  have fetch : (EngineRequest.pool (.fetch page .exclusive "w")).Numbered :=
    show page.index + 1 < 0x100000000 by decide
  have sync : EngineRequest.sync.Numbered := trivial
  have poke : (EngineRequest.pool (.poke "w" 1 #[9])).Numbered := trivial
  have issued : start.engine.allocator.Sound := by
    intro q free
    simp [start] at free
  have small : config.pageSize < 0x100000000 := by decide
  have fetched : (start.step (.pool (.fetch page .exclusive "w"))).1 =
      .done (.pool (.pinned ⟨page, #[0, 0]⟩ ⟨0⟩)) := by rfl
  have synced : (s.step .sync).1 = .done .done := by rfl
  have written : ((s.step .sync).2.step (.pool (.poke "w" 1 #[9]))).1 = .done (.pool .done) := by rfl
  have before := Runs.made fetch fetched (.nil s)
  have after := Runs.made sync synced (.made poke written (.nil t))
  have guards : s.guards = [("w", ⟨page, 0, .exclusive⟩)] := by rfl
  have held : ("w", ⟨page, 0, .exclusive⟩) ∈ s.guards := by simp [guards]
  have bytes : (s.engine.pool.frame 0).bytes = ⟨#[0, 0], rfl⟩ := by rfl
  have holds := (Runs.holds_of_held small rfl issued rfl before held after (by simp)).1
  rw [bytes] at holds
  exact ⟨before, after, holds⟩

end GuardedEngine

end PagedStorage
