import PagedStorage.Proofs.Durability
import PagedStorage.Proofs.InMemory
import PagedStorage.Proofs.LostFile
import PagedStorage.Proofs.PinnedViews

/-!
# Closing is final

A close may fail midway, at a page that cannot be written or because the operating system fails it, and
leave pages dirty in a pool that can still be reached. But it closes the engine before anything else,
and it lets go of the file in any case (`Engine.closeIn_finishes`). From there on the engine refuses
every request, and requests to its pool do not reach the file. So nothing that is done later changes
the file (`closing_is_final`), whatever was done before and whatever guards are held.

Only a close that meets a fault, and so does not return, leaves the engine closed and its file open.
-/

namespace PagedStorage

open PagedStorage.Action (Preserves Settles)

/-- A request is one for pages, one to the pool, or one that asks the engine about itself. -/
theorem EngineRequest.kinds (request : EngineRequest) :
    (∃ asked : StoreRequest, request = asked.toEngine) ∨
      (∃ asked : PoolRequest, request = .pool asked) ∨
      request = .stats ∨ request = .pageSize ∨ request = .isClosed ∨ request = .config := by
  cases request with
  | allocate => exact .inl ⟨.allocate, rfl⟩
  | deallocate page => exact .inl ⟨.deallocate page, rfl⟩
  | write page => exact .inl ⟨.write page, rfl⟩
  | read page => exact .inl ⟨.read page, rfl⟩
  | sync => exact .inl ⟨.sync, rfl⟩
  | close => exact .inl ⟨.close, rfl⟩
  | pool asked => exact .inr (.inl ⟨asked, rfl⟩)
  | stats | pageSize | isClosed | config => simp

/-- A pool that is closed has let go of its file, even if it had done so before. -/
theorem Pool.close_lets_go {size pageSize : Nat} (s : Pool size pageSize) :
    Settles Pool.close s (·.disk.isOpen = false) fun _ => True := by
  apply Pool.close_settles_of
  rfl

namespace Engine

variable {config : Config} {e : Engine config} {b : Bool} {page : PageId}
  {order : List (PageId × Fin config.bufferSize)}

theorem closed_of_ofDisk {disk : Disk config.pageSize} (opened : ofDisk disk = .ok e) :
    e.closed = false := by
  unfold ofDisk at opened
  cases extent : Allocator.ofExtent disk.blockCount disk.blockCount_lt config.pageSize
      config.maxFileSize with
  | error why =>
    rw [extent] at opened
    cases opened
  | ok allocator =>
    cases made : (Pool.ofDisk disk : Except Fault (Pool config.bufferSize config.pageSize)) with
    | error why =>
      rw [extent, made] at opened
      cases opened
    | ok pool =>
      rw [extent, made] at opened
      cases opened
      rfl

/-! ### Requests that do not close -/

/-- The action neither closes the engine nor opens it again, however it ends. -/
abbrev Steady {α : Type} (b : Bool) (act : Action (Engine config) α) : Prop :=
  act.Preserves fun e => e.closed = b

theorem onPool_steady {α : Type} (act : Action (Pool config.bufferSize config.pageSize) α) :
    Steady b (onPool act) := by
  intro e h
  unfold onPool Action.within
  cases act e.pool <;> exact h

theorem onAllocator_steady {α : Type} (act : Action Allocator α) :
    Steady b (onAllocator act : Action (Engine config) α) := by
  intro e h
  unfold onAllocator Action.within
  cases act e.allocator <;> exact h

theorem ensureOpen_steady : Steady b (ensureOpen : Action (Engine config) Unit) := by
  refine .get fun e _ => ?_
  split
  · exact .reject _
  · exact .pure _

theorem ensureLive_steady : Steady b (ensureLive page : Action (Engine config) Unit) := by
  refine .get fun e _ => ?_
  split
  · exact .pure _
  · exact .reject _

theorem allocate_steady : Steady b (allocate : Action (Engine config) PageId) := by
  refine .bind ensureOpen_steady fun _ => .bind (onAllocator_steady _) fun issued => ?_
  refine .bind (.attempt (onPool_steady _)) fun made => ?_
  cases made with
  | ok => exact .pure _
  | error e => exact .bind (onAllocator_steady _) fun _ => .reject e

theorem deallocate_steady : Steady b (deallocate page : Action (Engine config) Unit) := by
  refine .bind ensureOpen_steady fun _ => .get fun e _ => .rejectIf ?_
  exact .bind (onPool_steady _) fun _ => onAllocator_steady _

theorem write_steady {page : Page} : Steady b (write page : Action (Engine config) Unit) := by
  refine .bind ensureOpen_steady fun _ => .rejectIf ?_
  exact .bind ensureLive_steady fun _ => onPool_steady _

theorem read_steady : Steady b (read page : Action (Engine config) Page) := by
  refine .bind ensureOpen_steady fun _ => .bind ensureLive_steady fun _ => ?_
  exact .bind (onPool_steady _) fun _ => .pure _

theorem flushAndSyncIn_steady : Steady b (flushAndSyncIn order) :=
  .bind (onPool_steady _) fun _ => onPool_steady _

theorem syncIn_steady : Steady b (syncIn order) :=
  .bind ensureOpen_steady fun _ => flushAndSyncIn_steady

theorem sync_steady : Steady b (sync : Action (Engine config) Unit) := by
  intro e h
  rw [sync_eq]
  exact syncIn_steady e h

/-! ### Closing -/

/-- The engine is closed and has let go of its file. -/
structure Finished (e : Engine config) : Prop where
  closed_eq : e.closed = true
  isOpen_eq : e.pool.disk.isOpen = false

/-- A close that returns leaves the engine closed, whatever went wrong in it. -/
theorem closeIn_finishes (done : e.closed = true → e.Finished) :
    Settles (closeIn order) e Finished fun _ => True := by
  apply settles_closeIn
  · exact done
  -- The flush may fail anywhere, but it does not open the engine again.
  · exact fun _ => flushAndSyncIn_steady.settles rfl
  · exact fun f shut =>
      .within ((Pool.close_lets_go f.pool).mono (fun _ lost => ⟨shut, lost⟩) fun _ h => h)

/-- A flush that fails is what the close reports, and the pages that it has not written stay dirty. -/
theorem closeIn_of_failed {why : StoreError} {pool : Pool config.bufferSize config.pageSize}
    (opened : e.closed = false) (failed : Pool.flushFrames order e.pool = .error (.error why) pool)
    (held : pool.disk.isOpen = true) :
    closeIn order e = .error (.error why) { e with closed := true, pool := pool.shut } := by
  have synced : flushAndSyncIn order { e with closed := true } =
      .error (.error why) { e with closed := true, pool := pool } := by
    simp [flushAndSyncIn, onPool, failed]
  -- Whether letting go of the file fails too does not matter any more.
  cases answer : pool.disk.device.closing <;>
    simp [closeIn, ensureOpen_eq, opened, synced, onPool, Pool.close_eq, held, answer]

end Engine

namespace GuardedEngine

variable {config : Config} {s t u : GuardedEngine config} {request : EngineRequest}
  {outcome : Outcome EngineReply} {left : File}

/-! ### A closed engine -/

/-- What an engine answers for itself, whatever guards are held. -/
theorem serve_toEngine (s : GuardedEngine config) (request : StoreRequest) :
    s.serve request.toEngine =
      ((s.engine.step request).1, { s with engine := (s.engine.step request).2 }) := by
  cases request <;> rfl

theorem serve_of_closed (closed : s.engine.closed = true) (request : StoreRequest) :
    s.serve request.toEngine = (.failed (.error .closed), s) := by
  rw [serve_toEngine, Engine.step_of_closed closed]

/-- Nothing changes, in whatever order a flush would have taken the frames. -/
theorem steps_of_closed (closed : s.engine.closed = true) {asked : StoreRequest}
    (steps : s.Steps asked.toEngine outcome t) :
    t = s ∧ (outcome = .failed (.error .closed) ∨ outcome = .wouldBlock) := by
  generalize same : asked.toEngine = request at steps
  cases steps with
  | made =>
    subst same
    unfold step
    split
    · exact ⟨rfl, .inr rfl⟩
    · rw [serve_of_closed closed]
      exact ⟨rfl, .inl rfl⟩
  | pool => cases asked <;> cases same
  | @synced order _ _ =>
    rw [perform_of_error (Engine.syncIn_of_closed closed order)]
    exact ⟨rfl, .inl rfl⟩
  | @closed order _ _ =>
    rw [perform_of_error (Engine.closeIn_of_closed closed order)]
    exact ⟨rfl, .inl rfl⟩

/-- One step: a closed engine stays closed, and its file stays out of reach. -/
theorem steps_of_finished (h : s.engine.Finished) (steps : s.Steps request outcome t) :
    t.engine.Finished ∧ t.engine.pool.disk = s.engine.pool.disk := by
  rcases request.kinds with ⟨asked, rfl⟩ | ⟨asked, rfl⟩ | rfl | rfl | rfl | rfl
  · obtain ⟨rfl, -⟩ := steps_of_closed h.closed_eq steps
    exact ⟨h, rfl⟩
  · have same : t.engine.pool.disk = s.engine.pool.disk := by
      cases steps with
      | made => exact GuardedPool.steps_disk h.isOpen_eq (.made asked)
      | pool steps => exact GuardedPool.steps_disk h.isOpen_eq steps
    have closed : t.engine.closed = s.engine.closed := by cases steps <;> rfl
    exact ⟨⟨closed.trans h.closed_eq, same ▸ h.isOpen_eq⟩, same⟩
  -- What an engine tells of itself changes nothing.
  all_goals
    cases steps
    exact ⟨h, rfl⟩

/-- The engine refuses all requests and leaves its file alone, also when it is given up. -/
structure Final (s : GuardedEngine config) (left : File) : Prop where
  /-- No request is looked at, whatever it asks for and whatever guards are held. -/
  refuses : ∀ request : StoreRequest, s.serve request.toEngine = (.failed (.error .closed), s)
  /-- Allocator, frames and counters are as before, also where the request would wait for a guard. -/
  unmoved : ∀ (request : StoreRequest) outcome t, s.Steps request.toEngine outcome t →
    t = s ∧ (outcome = .failed (.error .closed) ∨ outcome = .wouldBlock)
  file_eq : s.engine.pool.disk.file = left
  file_disposed : s.dispose.2.engine.pool.disk.file = left

theorem final_of_finished (h : s.engine.Finished) : s.Final s.engine.pool.disk.file := by
  constructor
  case refuses => exact serve_of_closed h.closed_eq
  case unmoved => exact fun request outcome t => steps_of_closed h.closed_eq
  case file_eq => rfl
  case file_disposed =>
    have given : s.held.releaseAll.pool.disk = s.engine.pool.disk := s.held.releaseAll_disk
    have ignored : Engine.dispose (s.withHeld s.held.releaseAll).engine =
        .ok () (s.withHeld s.held.releaseAll).engine := Engine.dispose_of_closed h.closed_eq
    simp only [dispose, perform, Outcome.ofAction, ignored]
    exact congrArg Disk.file given

/-! ### Runs -/

/-- Only a close closes the engine. -/
theorem closed_eq_of_steps (working : request ≠ .close) (steps : s.Steps request outcome t) :
    t.engine.closed = s.engine.closed := by
  cases steps with
  | made =>
    unfold step
    split
    · rfl
    · cases request with
      | allocate => exact Outcome.ofAction_preserves Engine.allocate_steady rfl
      | deallocate => exact Outcome.ofAction_preserves Engine.deallocate_steady rfl
      | write => exact Outcome.ofAction_preserves Engine.write_steady rfl
      | read => exact Outcome.ofAction_preserves Engine.read_steady rfl
      | sync => exact Outcome.ofAction_preserves Engine.sync_steady rfl
      | close => exact absurd rfl working
      | stats | pageSize | isClosed | config | pool => rfl
  | pool => rfl
  | synced => exact Outcome.ofAction_preserves Engine.syncIn_steady rfl
  | closed => exact absurd rfl working

/-- If the engine is closed it has let go of its file. -/
def Sealed (s : GuardedEngine config) : Prop := s.engine.closed = true → s.engine.Finished

/-- A close has finished the engine when it returns. -/
theorem Sealed.close (h : s.Sealed) (steps : s.Steps .close outcome t) :
    (outcome = .wouldBlock ∧ t = s) ∨ outcome.Leaves (fun _ => True) t.engine.Finished := by
  have finishes (order : List (PageId × Fin config.bufferSize)) :
      (s.perform (Engine.closeIn order) fun _ => EngineReply.done).1.Leaves (fun _ => True)
        (s.perform (Engine.closeIn order) fun _ => EngineReply.done).2.engine.Finished :=
    (Outcome.leaves_map _).mpr (Outcome.leaves_ofAction (Engine.closeIn_finishes h))
  cases steps with
  | made =>
    unfold step
    split
    · exact .inl ⟨rfl, rfl⟩
    · have same : s.serve .close =
          s.perform (Engine.closeIn s.engine.pool.dirtyFrames) fun _ => .done := by
        simp only [serve, perform, Outcome.ofAction, Engine.close_eq]
      rw [same]
      exact .inr (finishes _)
  | closed => exact .inr (finishes _)

/-- One step: no engine is closed by halves, unless a close meets a fault. -/
theorem Sealed.steps (h : s.Sealed) (steps : s.Steps request outcome t)
    (returns : request = .close → ∀ why, outcome ≠ .failed (.fault why)) : t.Sealed := by
  by_cases closing : request = .close
  · subst closing
    rcases h.close steps with ⟨-, rfl⟩ | left
    · exact h
    · exact fun _ => left.unbroken (returns rfl)
  · intro closed
    -- Nothing but a close closes the engine, so it was closed before.
    rw [closed_eq_of_steps closing steps] at closed
    exact (steps_of_finished (h closed) steps).1

/-- The engine after its file was changed behind its back, and with what the operating system is going to
answer from now on. -/
def refiled (s : GuardedEngine config) (file : File) (device : Device) : GuardedEngine config :=
  s.withHeld (s.held.rebased { s.engine.pool.disk with file, device })

/-- What can become of an engine from its opening on. A close that meets a fault does not return, and
what would be left of the engine then is not counted. -/
inductive Reached : GuardedEngine config → Prop
  | opened {disk : Disk config.pageSize} {engine : Engine config}
      (opened : Engine.ofDisk disk = .ok engine) : Reached ⟨engine, []⟩
  | step {s t : GuardedEngine config} {request : EngineRequest} {outcome : Outcome EngineReply}
      (reached : Reached s) (steps : s.Steps request outcome t)
      (returns : request = .close → ∀ why, outcome ≠ .failed (.fault why)) : Reached t
  | meanwhile {s : GuardedEngine config} (reached : Reached s) (file : File) (device : Device) :
      Reached (s.refiled file device)

theorem Reached.is_sealed (reached : s.Reached) : s.Sealed := by
  -- An engine is open when it starts, and `Sealed.steps` is what one request keeps.
  induction reached with
  | opened opened =>
    intro closed
    rw [Engine.closed_of_ofDisk opened] at closed
    cases closed
  | step _ steps returns ih => exact ih.steps steps returns
  | meanwhile _ _ _ ih => exact fun closed => ⟨closed, (ih closed).isOpen_eq⟩

/-- What can become of an engine from some moment on, with the file as it would be if only others had
changed it since. -/
inductive Later (s : GuardedEngine config) : File → GuardedEngine config → Prop
  | now : Later s s.engine.pool.disk.file s
  | step {left : File} {t u : GuardedEngine config} {request : EngineRequest}
      {outcome : Outcome EngineReply} (later : Later s left t) (steps : t.Steps request outcome u) :
      Later s left u
  | meanwhile {left : File} {t : GuardedEngine config} (later : Later s left t) (file : File)
      (device : Device) : Later s file (t.refiled file device)

theorem Later.finished (later : s.Later left t) (h : s.engine.Finished) :
    t.engine.Finished ∧ t.engine.pool.disk.file = left := by
  -- The engine does not reach its file any more, so only others change what is left.
  induction later with
  | now => exact ⟨h, rfl⟩
  | step _ steps ih =>
    obtain ⟨finished, same⟩ := ih
    obtain ⟨still, kept⟩ := steps_of_finished finished steps
    exact ⟨still, by rw [kept, same]⟩
  | meanwhile _ _ _ ih => exact ⟨⟨ih.1.closed_eq, ih.1.isOpen_eq⟩, rfl⟩

end GuardedEngine

/-! ### Engines in memory -/

namespace MemoryEngine

variable {config : Config} {m : MemoryEngine config}

/-- The engine refuses all requests, and what it tells of itself is known. -/
structure Final (m : MemoryEngine config) (stats : StorageStats) : Prop where
  refuses : ∀ request : StoreRequest, m.step request.toEngine = (.failed (.error .closed), m)
  stats_eq : m.stats = stats

theorem closed_step_close (m : MemoryEngine config) :
    (m.step .close).2.closed = true ∧ (m.step .close).2.stats = m.stats := by
  cases closed : m.closed with
  | true =>
    have refused : m.step .close = (.failed (.error .closed), m) := step_of_closed closed .close
    rw [refused]
    exact ⟨closed, rfl⟩
  | false =>
    have ran : close m = .ok () { m with closed := true } := by simp [close, ensureOpen_eq, closed]
    rw [step, perform_of_ok ran]
    exact ⟨rfl, rfl⟩

theorem step_eq_of_closed (closed : m.closed = true) (request : EngineRequest) :
    (m.step request).2 = m := by
  rcases request.kinds with ⟨asked, rfl⟩ | ⟨asked, rfl⟩ | rfl | rfl | rfl | rfl
  · rw [step_of_closed closed]
  all_goals rfl

theorem after_of_closed (closed : m.closed = true) (requests : List EngineRequest) :
    Run.after step m requests = m := by
  induction requests with
  | nil => rfl
  | cons request rest ih => rw [Run.after, step_eq_of_closed closed, ih]

end MemoryEngine

/-! ### Closing is final -/

/-- Whatever was done with an engine, its pool and the guards on it: once a close has returned, the
engine refuses everything for good, and its file stays as it is or as others leave it. An engine in
memory refuses everything too, and keeps telling what it told before. -/
theorem closing_is_final (config : Config) :
    (∀ (s t u : GuardedEngine config) (outcome : Outcome EngineReply) (left : File), s.Reached →
      s.Steps .close outcome t → (outcome = .done .done ∨ ∃ e, outcome = .failed (.error e)) →
      t.Later left u → u.Final left) ∧
    ∀ (m : MemoryEngine config) (requests : List EngineRequest),
      (Run.after MemoryEngine.step (m.step .close).2 requests).Final m.stats := by
  constructor
  · intro s t u outcome left reached steps returned later
    have finished : t.engine.Finished := by
      -- A close that has returned neither waits for a guard nor has met a fault.
      rcases reached.is_sealed.close steps with ⟨rfl, -⟩ | ended
      · simp at returned
      · apply ended.unbroken
        rintro why rfl
        simp at returned
    obtain ⟨still, rfl⟩ := later.finished finished
    exact GuardedEngine.final_of_finished still
  · intro m requests
    obtain ⟨closed, same⟩ := m.closed_step_close
    rw [MemoryEngine.after_of_closed closed]
    exact ⟨MemoryEngine.step_of_closed closed, same⟩

/-- An engine with two frames, on a new file that may have four pages of two bytes. -/
def newEngine : GuardedEngine ⟨"", 2, 2, 8⟩ :=
  ⟨⟨⟨2, 4, 0, ∅, by decide, PageId.bound_pos⟩, false,
    ⟨Vector.replicate 2 .empty, ∅, List.finRange 2, .empty, .ofNew 8, {}⟩⟩, []⟩

/-- The engine after two pages were made past it, the second of which has no room in the file. -/
def crowdedEngine : GuardedEngine ⟨"", 2, 2, 8⟩ :=
  ((newEngine.step (.pool (.create ⟨3, by decide⟩))).2.step (.pool (.create ⟨7, by decide⟩))).2

/-- Its dirty frames, the one without room first. -/
def crowdedOrder : List (PageId × Fin 2) :=
  [(⟨7, by decide⟩, ⟨1, by decide⟩), (⟨3, by decide⟩, ⟨0, by decide⟩)]

/-- Its pool after it was flushed in that order. -/
def crowdedPool : Pool 2 2 :=
  (Outcome.ofAction (Pool.flushFrames crowdedOrder) crowdedEngine.engine.pool).2

/-- The engine after it was closed in that order. -/
def crowdedClosed : GuardedEngine ⟨"", 2, 2, 8⟩ :=
  { crowdedEngine with
    engine := { crowdedEngine.engine with closed := true, pool := crowdedPool.shut } }

/-- What comes of flushing the page that has room after all. -/
def crowdedFlush : Outcome EngineReply × GuardedEngine ⟨"", 2, 2, 8⟩ :=
  crowdedClosed.step (.pool (.flush ⟨3, by decide⟩))

/-- What comes of making a third page, for which that page would have to leave. -/
def crowdedMaking : Outcome EngineReply × GuardedEngine ⟨"", 2, 2, 8⟩ :=
  crowdedFlush.2.step (.pool (.create ⟨5, by decide⟩))

theorem reached_crowdedEngine : crowdedEngine.Reached := by
  have opened : Engine.ofDisk (.ofNew 8) = .ok newEngine.engine := rfl
  have made {s : GuardedEngine ⟨"", 2, 2, 8⟩} (reached : s.Reached) (page : PageId) :
      (s.step (.pool (.create page))).2.Reached := by
    apply reached.step (.made _)
    intro closing
    cases closing
  exact made (made (.opened opened) ⟨3, by decide⟩) ⟨7, by decide⟩

theorem crowdedEngine_steps_close :
    crowdedEngine.Steps .close (.failed (.error (.allocationExhausted 16 8))) crowdedClosed := by
  have opened : crowdedEngine.engine.closed = false := by decide +kernel
  have failed : Pool.flushFrames crowdedOrder crowdedEngine.engine.pool =
      .error (.error (.allocationExhausted 16 8)) crowdedPool := by rfl
  have held : crowdedPool.disk.isOpen = true := by decide +kernel
  have dirty : crowdedEngine.engine.pool.dirtyFrames =
      [(⟨3, by decide⟩, 0), (⟨7, by decide⟩, 1)] := by decide +kernel
  have listed : crowdedOrder.Perm crowdedEngine.engine.pool.dirtyFrames := by
    rw [dirty]
    exact .swap ..
  have unwritten : crowdedEngine.held.hasWriter = false := by decide +kernel
  have unmet := GuardedPool.meetsWriter_of_unwritten unwritten crowdedOrder
  have closed := GuardedEngine.Steps.closed unmet listed
  rwa [GuardedEngine.perform_of_error (Engine.closeIn_of_failed opened failed held)] at closed

/-- The close fails at the page without room, and leaves the other one dirty, which would have room.
But that page can be neither flushed nor evicted any more. -/
theorem closing_is_final_crowded :
    crowdedEngine.Reached ∧
      crowdedEngine.Steps .close (.failed (.error (.allocationExhausted 16 8))) crowdedClosed ∧
      crowdedFlush.1 = .failed (.error .closed) ∧ crowdedMaking.1 = .failed (.error .closed) ∧
      crowdedMaking.2.Final crowdedClosed.engine.pool.disk.file := by
  have later : crowdedClosed.Later crowdedClosed.engine.pool.disk.file crowdedMaking.2 :=
    .step (.step .now (.made _)) (.made _)
  have final := (closing_is_final _).1 _ _ _ _ _ reached_crowdedEngine crowdedEngine_steps_close
    (.inr ⟨_, rfl⟩) later
  exact ⟨reached_crowdedEngine, crowdedEngine_steps_close, by decide +kernel, by decide +kernel, final⟩

end PagedStorage
