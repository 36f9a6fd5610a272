import PagedStorage.Proofs.PinnedViews
import PagedStorage.Proofs.SessionRuns

/-!
# Requests to an engine that fail

A request to an engine runs in two parts of it, and the second may fail when the first has already
changed. What was done is then undone, or was nothing that a caller could see: an allocator that has
issued a page takes it back, a frame is dropped before its page is given back, and a page that has
left the pool to make room is in the file as it was. So a request that fails leaves the allocator,
the pins and the contents of all pages as they were (`Engine.Restores`), whatever guards are held and
whatever was asked of the pool past the engine.
-/

namespace PagedStorage

open PagedStorage.Action (Settles)

namespace Pool

variable {size pageSize : Nat} {s t : Pool size pageSize} {f : Fin size} {page : PageId}

theorem Spares.symm (spares : s.Spares t) : t.Spares s := by
  constructor
  case pins => exact fun f => (spares.pins f).symm
  case page =>
    intro f pinned
    rw [spares.pins f] at pinned
    exact (spares.page f pinned).symm

/-- A page that is pinned is where it was, with as many pins. -/
theorem Spares.pinCount_of_pinned (spares : s.Spares t) (h : t.Sound)
    (held : (s.frame f).page = some page) (pinned : 0 < (s.frame f).pins) :
    t.pinCount? page = some (s.frame f).pins := by
  have there : (t.frame f).page = some page := (spares.page f pinned).trans held
  rw [pinCount?, (h.table_iff page f).mpr there, Option.map_some, spares.pins]

/-- A page without pins may have left the pool or come into it, but no pin is taken or given up. -/
theorem Spares.pinCount_eq (spares : s.Spares t) (h : s.Sound) (h' : t.Sound) (page : PageId) :
    (t.pinCount? page).getD 0 = (s.pinCount? page).getD 0 := by
  by_cases before : ∃ f, (s.frame f).page = some page ∧ 0 < (s.frame f).pins
  · obtain ⟨f, held, pinned⟩ := before
    rw [spares.pinCount_of_pinned h' held pinned, pinCount?, (h.table_iff page f).mpr held]
    rfl
  · by_cases after : ∃ f, (t.frame f).page = some page ∧ 0 < (t.frame f).pins
    · obtain ⟨f, held, pinned⟩ := after
      rw [spares.symm.pinCount_of_pinned h held pinned, pinCount?, (h'.table_iff page f).mpr held]
      rfl
    · -- Wherever the page is, it has no pin.
      have none {u : Pool size pageSize} (sound : u.Sound)
          (loose : ¬ ∃ f, (u.frame f).page = some page ∧ 0 < (u.frame f).pins) :
          (u.pinCount? page).getD 0 = 0 := by
        cases found : u.table[page]? with
        | none => simp [pinCount?, found]
        | some f =>
          have held := (sound.table_iff page f).mp found
          simpa [pinCount?, found] using fun pinned => loose ⟨f, held, pinned⟩
      rw [none h before, none h' after]

end Pool

namespace Engine

variable {config : Config} {e f g : Engine config} {page : PageId} {written : PageId → Prop}
  {order : List (PageId × Fin config.bufferSize)}

/-! ### What requests leave -/

/-- An engine between requests, with the pages that are being written through a guard. -/
structure InOrder (written : PageId → Prop) (e : Engine config) : Prop where
  proper : e.pool.Proper written
  issued : e.allocator.Sound
  pageSize_eq : e.allocator.pageSize = config.pageSize

/-- What every request leaves: the engine is in order, and no pin has moved. -/
structure Upholds (written : PageId → Prop) (e f : Engine config) : Prop where
  inOrder : f.InOrder written
  spares : e.pool.Spares f.pool

/-- What a request leaves that fails: the allocator is as it was, and so is every page. -/
structure Restores (written : PageId → Prop) (e f : Engine config) : Prop where
  allocator_eq : f.allocator = e.allocator
  closed_eq : f.closed = e.closed
  leads : Pool.Leads written e.pool f.pool e.pool.bytesOf

theorem InOrder.restores_refl (h : e.InOrder written) : Restores written e e :=
  ⟨rfl, rfl, h.proper.leads_refl⟩

theorem InOrder.upholds_refl (h : e.InOrder written) : Upholds written e e :=
  ⟨h, .refl e.pool⟩

theorem InOrder.upholds (h : e.InOrder written) (restores : Restores written e f) :
    Upholds written e f := by
  constructor
  · exact ⟨restores.leads.proper, restores.allocator_eq ▸ h.issued,
      restores.allocator_eq ▸ h.pageSize_eq⟩
  · exact restores.leads.spares

/-- A request upholds the order, and if it fails it restores what it changed. Faults are left out. -/
def Behaves {α : Type} (written : PageId → Prop) (act : Action (Engine config) α)
    (e : Engine config) : Prop :=
  match act e with
  | .ok _ f => Upholds written e f
  | .error (.error _) f => Restores written e f
  | .error (.fault _) _ => True

namespace Behaves

variable {α β : Type} {act : Action (Engine config) α}

theorem of_ok {a : α} (ran : act e = .ok a f) (upholds : Upholds written e f) :
    Behaves written act e := by
  rwa [Behaves, ran]

theorem of_error {why : StoreError} (ran : act e = .error (.error why) f)
    (restores : Restores written e f) : Behaves written act e := by
  rwa [Behaves, ran]

theorem of_fault {why : Fault} (ran : act e = .error (.fault why) f) : Behaves written act e := by
  rw [Behaves, ran]
  trivial

theorem congr {other : Action (Engine config) α} (same : act e = other e)
    (behaves : Behaves written other e) : Behaves written act e := by
  rwa [Behaves, same]

theorem restores {why : StoreError} (behaves : Behaves written act e)
    (ran : act e = .error (.error why) f) : Restores written e f := by
  rwa [Behaves, ran] at behaves

theorem map (behaves : Behaves written act e) (reply : α → β) :
    Behaves written (do return reply (← act)) e := by
  unfold Behaves at *
  cases ran : act e with
  | ok a f =>
    rw [ran] at behaves
    simpa [ran] using behaves
  | error why f =>
    rw [ran] at behaves
    cases why with
    | error why => simpa [ran] using behaves
    | fault why => simp [ran]

theorem settles (behaves : Behaves written act e) (h : e.InOrder written) :
    Settles act e (Upholds written e) fun _ => True := by
  unfold Behaves at behaves
  cases ran : act e with
  | ok a f => exact .of_ok ran (by simpa [ran] using behaves)
  | error why f =>
    cases why with
    | error why => exact .of_error ran (h.upholds (by simpa [ran] using behaves))
    | fault why => exact .of_fault ran trivial

end Behaves

/-! ### Requests for pages -/

/-- A live page is given back if its frame can be dropped. -/
theorem deallocate_eq (opened : e.closed = false) (live : e.allocator.isLive page = true) :
    deallocate page e =
      match Pool.invalidate page e.pool with
      | .ok _ t => .ok () ⟨e.allocator.returned page, e.closed, t⟩
      | .error why t => .error why { e with pool := t } := by
  cases ran : Pool.invalidate page e.pool <;>
    simp [deallocate, ensureOpen_eq, opened, live, Engine.onPool, ran, onAllocator,
      Allocator.deallocate_eq]

section Requests

variable (h : e.InOrder written)
include h

/-- A request to the pool that keeps it in order and changes no page if it fails. -/
theorem InOrder.onPool {α : Type} {act : Action (Pool config.bufferSize config.pageSize) α}
    (spec : match act e.pool with
      | .ok _ t => t.Proper written ∧ e.pool.Spares t
      | .error why t => Pool.Fails written e.pool why t) :
    Behaves written (Engine.onPool act) e := by
  cases ran : act e.pool with
  | ok a t =>
    rw [ran] at spec
    refine .of_ok (f := { e with pool := t }) (Action.within_of_ok ran) ?_
    exact ⟨⟨spec.1, h.issued, h.pageSize_eq⟩, spec.2⟩
  | error why t =>
    rw [ran] at spec
    cases why with
    | error why =>
      refine .of_error (f := { e with pool := t }) (Action.within_of_error ran) ?_
      exact ⟨rfl, rfl, spec⟩
    | fault why => exact .of_fault (Action.within_of_error ran)

theorem ensureOpen_behaves {α : Type} {next : Action (Engine config) α}
    (rest : e.closed = false → Behaves written next e) :
    Behaves written (do ensureOpen; next) e := by
  cases closed : e.closed with
  | true =>
    have refused : (do ensureOpen; next) e = .error (.error .closed) e := by
      simp [ensureOpen_eq, closed]
    exact .of_error refused h.restores_refl
  | false =>
    refine .congr ?_ (rest closed)
    simp [ensureOpen_eq, closed]

theorem ensureLive_behaves {α : Type} {next : Action (Engine config) α}
    (rest : e.allocator.isLive page = true → Behaves written next e) :
    Behaves written (do ensureLive page; next) e := by
  cases checked : e.allocator.checkLive page with
  | error why =>
    have refused : (do ensureLive page; next) e = .error (.error why) e := by
      simp [ensureLive_eq, checked]
    exact .of_error refused h.restores_refl
  | ok =>
    refine .congr ?_ (rest (Allocator.checkLive_eq_ok_iff.mp checked))
    simp [ensureLive_eq, checked]

theorem read_behaves (small : config.pageSize < 0x100000000) (page : PageId) :
    Behaves written (read page) e := by
  refine ensureOpen_behaves h fun _ => ensureLive_behaves h fun live => ?_
  refine .map (h.onPool ?_) fun block : Block config.pageSize => (⟨page, block.toArray⟩ : Page)
  have spec := Pool.read_spec h.proper (.of_small (numbered_of_live live) small)
  cases ran : Pool.read page e.pool with
  | ok block t =>
    rw [ran] at spec
    exact ⟨spec.1.proper, spec.1.spares⟩
  | error why t =>
    rw [ran] at spec
    exact spec

theorem write_behaves (small : config.pageSize < 0x100000000) (page : Page) :
    Behaves written (write page) e := by
  refine ensureOpen_behaves h fun _ => ?_
  -- The length is looked at before the page is.
  dsimp only
  split
  · exact .of_error rfl h.restores_refl
  · refine ensureLive_behaves h fun live => h.onPool ?_
    have spec := Pool.write_spec h.proper (.of_small (numbered_of_live live) small) page.bytes
    cases ran : Pool.write page.id page.bytes e.pool with
    | ok _ t =>
      rw [ran] at spec
      obtain ⟨block, -, leads, -⟩ := spec
      exact ⟨leads.proper, leads.spares⟩
    | error why t =>
      rw [ran] at spec
      exact spec

/-- The frame goes first, and where it cannot be dropped the page is not given back. -/
theorem deallocate_behaves (page : PageId) : Behaves written (deallocate page) e := by
  cases closed : e.closed with
  | true =>
    have refused : deallocate page e = .error (.error .closed) e := by
      simp [deallocate, ensureOpen_eq, closed]
    exact .of_error refused h.restores_refl
  | false =>
    cases live : e.allocator.isLive page with
    | false => exact .of_error (deallocate_refused closed live) h.restores_refl
    | true =>
      -- From here on it ends as the dropping of the frame does.
      have spec := Pool.invalidate_spec h.proper page
      have ended := deallocate_eq closed live
      cases ran : Pool.invalidate page e.pool with
      | ok dropped t =>
        rw [ran] at spec ended
        have kept : t.Proper written ∧ e.pool.Spares t := by
          cases dropped with
          | true => exact ⟨spec.proper, spec.spares⟩
          | false =>
            obtain ⟨rfl, -⟩ := spec
            exact ⟨h.proper, .refl _⟩
        exact .of_ok ended ⟨⟨kept.1, h.issued.returned live, h.pageSize_eq⟩, kept.2⟩
      | error why t =>
        rw [ran] at spec ended
        cases why with
        | error why => exact .of_error ended ⟨rfl, rfl, spec⟩
        | fault why => exact .of_fault ended

/-- A page that was issued and could not be made resident is taken back. -/
theorem allocate_behaves (small : config.pageSize < 0x100000000) : Behaves written allocate e := by
  cases closed : e.closed with
  | true =>
    have refused : allocate e = .error (.error .closed) e := by
      simp [allocate, ensureOpen_eq, closed]
    exact .of_error refused h.restores_refl
  | false =>
    rcases e.allocator.allocate_cases with ⟨issued, b, issues, ran⟩ | ⟨none, full, ran⟩
    · have addressable := PageId.Addressable.of_small (issues.index_succ_lt h.issued) small
      have spec := Pool.create_spec h.proper addressable
      cases made : Pool.create issued.page e.pool with
      | ok _ t =>
        have done : allocate e = .ok issued.page ⟨b, e.closed, t⟩ := by
          simp [allocate, ensureOpen_eq, closed, onAllocator, ran, Engine.onPool, made]
        rw [made] at spec
        have inOrder : InOrder written (⟨b, e.closed, t⟩ : Engine config) :=
          ⟨spec.1.proper, issues.sound h.issued, issues.pageSize_eq.trans h.pageSize_eq⟩
        exact .of_ok done ⟨inOrder, spec.1.spares⟩
      | error why t =>
        rw [made] at spec
        cases why with
        | error why =>
          -- The allocator is the one from before, whether the page was new or had been free.
          have refused : allocate e = .error (.error why) { e with pool := t } := by
            simp [allocate, ensureOpen_eq, closed, onAllocator, ran, Engine.onPool, made,
              issues.rollback_eq]
          exact .of_error refused ⟨rfl, rfl, spec⟩
        | fault why =>
          have broken : allocate e = .error (.fault why) ⟨b, e.closed, t⟩ := by
            simp [allocate, ensureOpen_eq, closed, onAllocator, ran, Engine.onPool, made]
          exact .of_fault broken
    · rw [e.allocator.exhausted_eq h.pageSize_eq small] at ran
      exact .of_error (allocate_refused closed ran) h.restores_refl

/-! ### Requests that flush -/

/-- Pages that were saved before the flush failed are in the file as they were in their frames. -/
theorem flushAndSyncIn_behaves (listed : order.Perm e.pool.dirtyFrames) :
    Behaves written (flushAndSyncIn order) e := by
  have spec := Pool.flushFrames_spec h.proper listed
  cases ran : Pool.flushFrames order e.pool with
  | ok n t =>
    rw [ran] at spec
    have leads := spec.1
    -- All pages may be clean, and then only the sync meets a file that was let go of.
    by_cases opened : t.disk.isOpen = true
    · refine .of_ok (flushAndSyncIn_eq ran opened leads.proper.reliable) ⟨?_, leads.spares⟩
      exact ⟨leads.proper, h.issued, h.pageSize_eq⟩
    · have refused : flushAndSyncIn order e = .error (.error .closed) { e with pool := t } := by
        simp [flushAndSyncIn, Engine.onPool, ran, Pool.sync_eq, opened]
      exact .of_error refused ⟨rfl, rfl, leads⟩
  | error why t =>
    have refused : flushAndSyncIn order e = .error why { e with pool := t } := by
      simp [flushAndSyncIn, Engine.onPool, ran]
    rw [ran] at spec
    cases why with
    | error why => exact .of_error refused ⟨rfl, rfl, spec⟩
    | fault why => exact .of_fault refused

theorem syncIn_behaves (listed : order.Perm e.pool.dirtyFrames) :
    Behaves written (syncIn order) e :=
  ensureOpen_behaves h fun _ => flushAndSyncIn_behaves h listed

/-- A close that fails does not leave the engine as it was, but in order. -/
theorem closeIn_upholds (listed : order.Perm e.pool.dirtyFrames) :
    Settles (closeIn order) e (Upholds written e) fun _ => True := by
  have shut : InOrder written { e with closed := true } := ⟨h.proper, h.issued, h.pageSize_eq⟩
  have flushed : Settles (flushAndSyncIn order) { e with closed := true } (Upholds written e)
      fun _ => True :=
    ((flushAndSyncIn_behaves shut listed).settles shut).mono
      (fun _ upholds => ⟨upholds.inOrder, upholds.spares⟩) fun _ h => h
  refine settles_closeIn (fun _ => h.upholds_refl) (fun _ => flushed) fun f upholds => ?_
  obtain ⟨proper, spares, -⟩ := upholds.inOrder.proper.shut
  refine .within (Pool.close_settles_of ⟨⟨proper, ?_, ?_⟩, upholds.spares.trans spares⟩)
  · exact upholds.inOrder.issued
  · exact upholds.inOrder.pageSize_eq

end Requests

/-! ### Requests that touch nothing -/

/-- A page whose frame is pinned is not given back, and stays where it is. -/
theorem deallocate_pinned {other : PageId}
    (ran : deallocate page e = .error (.error (.pagePinned other)) f) :
    f = e ∧ other = page ∧ e.allocator.isLive page = true ∧
      (e.pool.table[page]?).isSome = true := by
  cases closed : e.closed with
  | true => simp [deallocate, ensureOpen_eq, closed] at ran
  | false =>
    cases live : e.allocator.isLive page with
    | false => simp [deallocate_refused closed live] at ran
    | true =>
      rw [deallocate_eq closed live, Pool.invalidate_eq] at ran
      cases resident : e.pool.table[page]? with
      | none => simp [resident] at ran
      | some g =>
        by_cases busy : (e.pool.frame g).isPinned = true
        · simp only [resident, busy, if_true, EStateM.Result.error.injEq, Failure.error.injEq,
            StoreError.pagePinned.injEq] at ran
          obtain ⟨rfl, rfl⟩ := ran
          exact ⟨rfl, rfl, rfl, rfl⟩
        · simp [resident, busy] at ran

/-- Bytes of a wrong length are refused whether the engine is open or not. -/
theorem write_of_length {page : Page} (length : page.length ≠ config.pageSize) :
    ∃ why, write page e = .error (.error why) e := by
  cases closed : e.closed with
  | true => exact ⟨.closed, by simp [write, ensureOpen_eq, closed]⟩
  | false => exact ⟨_, write_mismatch closed length⟩

end Engine

namespace GuardedEngine

variable {config : Config} {s t : GuardedEngine config} {request : EngineRequest}
  {outcome : Outcome EngineReply}

/-! ### Runs -/

/-- An engine whose pool is in order, with the guards that are held on it. -/
structure Sound (s : GuardedEngine config) : Prop where
  held : s.held.Sound
  issued : s.engine.allocator.Sound
  pageSize_eq : s.engine.allocator.pageSize = config.pageSize

/-- What becomes of an engine while nobody else changes its file. Nothing is asked of it after a
fault. -/
inductive Undisturbed : GuardedEngine config → Prop
  | started {tree tree' : FileTree} {engine : Engine config}
      (started : Engine.start config tree = .ok engine tree') : Undisturbed ⟨engine, []⟩
  | step {s t : GuardedEngine config} {request : EngineRequest} {outcome : Outcome EngineReply}
      (undisturbed : Undisturbed s) (numbered : request.Numbered)
      (steps : s.Steps request outcome t)
      (unbroken : ∀ why, outcome ≠ .failed (.fault why)) : Undisturbed t

/-- A page that a guard may write to has bytes of its own. -/
abbrev Writes (s : GuardedEngine config) (page : PageId) : Prop := s.held.isWritten page = true

namespace Sound

theorem inOrder (h : s.Sound) : s.engine.InOrder s.Writes :=
  ⟨h.held.proper, h.issued, h.pageSize_eq⟩

theorem upheld (h : s.Sound) {engine : Engine config}
    (upholds : Engine.Upholds s.Writes s.engine engine) : Sound { s with engine } := by
  obtain ⟨⟨proper, issued, pageSize_eq⟩, spares⟩ := upholds
  exact ⟨h.held.performed proper spares, issued, pageSize_eq⟩

theorem performed (h : s.Sound) {α : Type} {act : Action (Engine config) α}
    {reply : α → EngineReply}
    (settles : Settles act s.engine (Engine.Upholds s.Writes s.engine) fun _ => True) :
    (s.perform act reply).1.Leaves (fun _ => True) (s.perform act reply).2.Sound :=
  (Outcome.leaves_map reply).mpr ((Outcome.leaves_ofAction settles).imp h.upheld)

theorem pool (h : s.Sound) {asked : PoolRequest} {answer : Outcome PoolReply}
    {held : GuardedPool config.bufferSize config.pageSize}
    (small : config.pageSize < 0x100000000) (numbered : asked.Numbered)
    (steps : s.held.Steps asked answer held) :
    (answer.map EngineReply.pool).Leaves (fun _ => True) (s.withHeld held).Sound := by
  have ends := (h.held.steps small numbered steps).1
  have sound (still : held.Sound) : (s.withHeld held).Sound := ⟨still, h.issued, h.pageSize_eq⟩
  apply (Outcome.leaves_map _).mpr
  cases answer with
  | failed why =>
    cases why with
    | error => exact sound ends
    | fault => trivial
  | done | wouldBlock | refused => exact sound ends

theorem serve (h : s.Sound) (small : config.pageSize < 0x100000000) (numbered : request.Numbered) :
    (s.serve request).1.Leaves (fun _ => True) (s.serve request).2.Sound := by
  have inOrder := h.inOrder
  cases request with
  | allocate => exact h.performed ((Engine.allocate_behaves inOrder small).settles inOrder)
  | deallocate page => exact h.performed ((Engine.deallocate_behaves inOrder page).settles inOrder)
  | write page => exact h.performed ((Engine.write_behaves inOrder small page).settles inOrder)
  | read page => exact h.performed ((Engine.read_behaves inOrder small page).settles inOrder)
  | sync =>
    have synced := (Engine.syncIn_behaves inOrder (List.Perm.refl _)).settles inOrder
    exact h.performed (.congr (Engine.sync_eq s.engine) synced)
  | close =>
    have closed := Engine.closeIn_upholds inOrder (List.Perm.refl _)
    exact h.performed (.congr (Engine.close_eq s.engine) closed)
  | stats | pageSize | isClosed | config => exact h
  | pool asked => exact h.pool small numbered (.made asked)

/-- One step, with the dirty frames of a flush in any order. -/
theorem steps (h : s.Sound) (small : config.pageSize < 0x100000000) (numbered : request.Numbered)
    (steps : s.Steps request outcome t) : outcome.Leaves (fun _ => True) t.Sound := by
  have inOrder := h.inOrder
  cases steps with
  | made =>
    unfold step
    split
    · exact h
    · exact h.serve small numbered
  | pool steps => exact h.pool small numbered steps
  | synced unmet listed =>
    exact h.performed ((Engine.syncIn_behaves inOrder listed).settles inOrder)
  | closed unmet listed => exact h.performed (Engine.closeIn_upholds inOrder listed)

end Sound

theorem sound_of_started {tree tree' : FileTree} {engine : Engine config}
    (started : Engine.start config tree = .ok engine tree') : Sound ⟨engine, []⟩ := by
  obtain ⟨-, opens⟩ := Engine.opens_of_start started
  have fresh := opens.fresh
  constructor
  case held =>
    exact GuardedPool.sound_ofPool (Pool.proper_ofDisk opens.counted opens.reliable fresh.made)
      (Pool.frame_ofDisk fresh.made)
  case issued =>
    intro page free
    simp [fresh.free_eq] at free
  case pageSize_eq => exact fresh.pageSize_eq

/-- A run: pins and guards are always the same, and pages are issued once. -/
theorem Undisturbed.sound (small : config.pageSize < 0x100000000) (undisturbed : s.Undisturbed) :
    s.Sound := by
  -- A run begins without guards, and `Sound.steps` is what one request keeps.
  induction undisturbed with
  | started started => exact sound_of_started started
  | step _ numbered steps unbroken ih => exact (ih.steps small numbered steps).unbroken unbroken

/-- Only that the request was done counts, not what was answered. -/
theorem Undisturbed.made (undisturbed : s.Undisturbed) (request : EngineRequest)
    (done : ((s.step request).1.map fun _ => ()) = .done ()) (numbered : request.Numbered) :
    (s.step request).2.Undisturbed := by
  refine undisturbed.step numbered (.made request) fun why broken => ?_
  simp [broken, Outcome.map] at done

/-! ### Requests that fail -/

/-- A request that is made even where it would have to wait for a guard, and how it ends. Whatever flushes
all pages may take them in any order. -/
inductive Insists (s : GuardedEngine config) :
    EngineRequest → Outcome EngineReply → GuardedEngine config → Prop
  | served (request : EngineRequest) : Insists s request (s.serve request).1 (s.serve request).2
  | synced {order : List (PageId × Fin config.bufferSize)}
      (listed : order.Perm s.engine.pool.dirtyFrames) :
      Insists s .sync (s.perform (Engine.syncIn order) fun _ => EngineReply.done).1
        (s.perform (Engine.syncIn order) fun _ => EngineReply.done).2
  | closed {order : List (PageId × Fin config.bufferSize)}
      (listed : order.Perm s.engine.pool.dirtyFrames) :
      Insists s .close (s.perform (Engine.closeIn order) fun _ => EngineReply.done).1
        (s.perform (Engine.closeIn order) fun _ => EngineReply.done).2

/-- A request that has failed did not wait, so it would have ended like this in any case. -/
theorem insists_of_failed {asked : StoreRequest} {why : Failure}
    (steps : s.Steps asked.toEngine (.failed why) t) : s.Insists asked.toEngine (.failed why) t := by
  generalize made : asked.toEngine = request at steps ⊢
  generalize ended : Outcome.failed why = outcome at steps ⊢
  cases steps with
  | made =>
    unfold step at *
    split at ended
    · cases ended
    · next free =>
      rw [if_neg free]
      exact .served request
  | pool => cases asked <;> cases made
  | synced unmet listed => exact .synced listed
  | closed unmet listed => exact .closed listed

/-- The guards are as they were, and the engine has restored what it changed. -/
structure Recovers (s t : GuardedEngine config) : Prop where
  guards_eq : t.guards = s.guards
  restores : Engine.Restores s.Writes s.engine t.engine

theorem recovers_of_perform {α : Type} {act : Action (Engine config) α} {reply : α → EngineReply}
    {why : StoreError} (behaves : Engine.Behaves s.Writes act s.engine)
    (failed : s.perform act reply = (.failed (.error why), t)) : s.Recovers t := by
  cases ran : act s.engine with
  | ok a engine => simp [perform, Outcome.ofAction, ran, Outcome.map] at failed
  | error cause engine =>
    rw [perform_of_error ran] at failed
    cases failed
    exact ⟨rfl, behaves.restores ran⟩

/-- What is asked of an engine either succeeds or changes nothing that can be seen, unless it is to
close. -/
theorem Sound.recovers (h : s.Sound) (small : config.pageSize < 0x100000000)
    {asked : StoreRequest} {why : StoreError} (working : asked ≠ .close)
    (insists : s.Insists asked.toEngine (.failed (.error why)) t) : s.Recovers t := by
  have inOrder := h.inOrder
  generalize made : asked.toEngine = request at insists
  generalize ended : Outcome.failed (.error why) = outcome at insists
  cases insists with
  | served =>
    subst made
    have served : s.serve asked.toEngine = (.failed (.error why), (s.serve asked.toEngine).2) :=
      Prod.ext ended.symm rfl
    cases asked with
    | allocate => exact recovers_of_perform (Engine.allocate_behaves inOrder small) served
    | deallocate page => exact recovers_of_perform (Engine.deallocate_behaves inOrder page) served
    | write page => exact recovers_of_perform (Engine.write_behaves inOrder small page) served
    | read page => exact recovers_of_perform (Engine.read_behaves inOrder small page) served
    | sync =>
      have synced := Engine.syncIn_behaves inOrder (List.Perm.refl _)
      exact recovers_of_perform (.congr (Engine.sync_eq s.engine) synced) served
    | close => exact absurd rfl working
  | synced listed =>
    exact recovers_of_perform (Engine.syncIn_behaves inOrder listed) (Prod.ext ended.symm rfl)
  | closed => cases asked <;> cases made; exact absurd rfl working

/-- Nothing that can be seen has changed. -/
structure Unharmed (s t : GuardedEngine config) : Prop where
  /-- The extent and the free pages are the same, also where a page was issued and taken back. -/
  allocator_eq : t.engine.allocator = s.engine.allocator
  closed_eq : t.engine.closed = s.engine.closed
  guards_eq : t.guards = s.guards
  /-- A page that is not resident has no pins. -/
  pins_eq : ∀ page,
    (t.engine.pool.pinCount? page).getD 0 = (s.engine.pool.pinCount? page).getD 0
  view_eq : ∀ page block, s.engine.pool.view page = some block →
    t.engine.pool.view page = some block

theorem Sound.unharmed (h : s.Sound) (recovers : s.Recovers t) : s.Unharmed t := by
  obtain ⟨guards_eq, allocator_eq, closed_eq, leads⟩ := recovers
  constructor
  case allocator_eq => exact allocator_eq
  case closed_eq => exact closed_eq
  case guards_eq => exact guards_eq
  case pins_eq => exact leads.spares.pinCount_eq h.held.proper.sound leads.proper.sound
  case view_eq => exact fun page block => leads.turns.keeps.seen page block id

/-- A page that cannot be given back because it is pinned stays live and where it is. -/
theorem steps_of_pinned {page other : PageId} (steps : s.Steps (.deallocate page) outcome t)
    (ended : outcome = .failed (.error (.pagePinned other))) :
    t = s ∧ other = page ∧ s.engine.allocator.isLive page = true ∧
      (s.engine.pool.table[page]?).isSome = true := by
  cases steps with
  | made =>
    have served : s.step (.deallocate page) =
        s.perform (Engine.deallocate page) fun _ => .done := if_neg nofun
    rw [served] at ended ⊢
    cases ran : Engine.deallocate page s.engine with
    | ok _ engine => simp [perform, Outcome.ofAction, ran, Outcome.map] at ended
    | error why engine =>
      rw [perform_of_error ran] at ended ⊢
      cases ended
      obtain ⟨rfl, same, there⟩ := Engine.deallocate_pinned ran
      exact ⟨rfl, same, there⟩

/-- Bytes of a wrong length are refused by the engine itself, whatever guards are held. -/
theorem serve_of_length {page : Page} (length : page.length ≠ config.pageSize) :
    ∃ why, s.serve (.write page) = (.failed (.error why), s) := by
  obtain ⟨why, ran⟩ := Engine.write_of_length (e := s.engine) length
  exact ⟨why, by rw [serve, perform_of_error ran]⟩

theorem steps_of_length {page : Page} (length : page.length ≠ config.pageSize)
    (steps : s.Steps (.write page) outcome t) : t = s := by
  cases steps with
  | made =>
    obtain ⟨why, served⟩ := serve_of_length (s := s) length
    unfold step
    split
    · rfl
    · rw [served]

/-- Whatever was done with an engine, its pool and the guards on it: a request that fails leaves no
trace that can be seen, also one that would have to wait for a guard and is made all the same. A page
that cannot be given back because it is pinned is still live and resident, and bytes of a wrong length
change nothing at all. -/
theorem Undisturbed.unharmed_of_failed (small : config.pageSize < 0x100000000)
    (undisturbed : s.Undisturbed) :
    (∀ (asked : StoreRequest) why t, asked ≠ .close →
        s.Steps asked.toEngine (.failed (.error why)) t ∨
          s.Insists asked.toEngine (.failed (.error why)) t → s.Unharmed t) ∧
      (∀ page other t, s.Steps (.deallocate page) (.failed (.error (.pagePinned other))) t →
        t = s ∧ other = page ∧ s.engine.allocator.isLive page = true ∧
          (s.engine.pool.table[page]?).isSome = true) ∧
      ∀ page : Page, page.length ≠ config.pageSize →
        (∃ why, s.serve (.write page) = (.failed (.error why), s)) ∧
          ∀ outcome t, s.Steps (.write page) outcome t → t = s := by
  have h := undisturbed.sound small
  refine ⟨?failed, ?pinned, ?mismatched⟩
  case failed =>
    intro asked why t working ended
    exact h.unharmed (h.recovers small working (ended.elim insists_of_failed id))
  case pinned => exact fun page other t steps => steps_of_pinned steps rfl
  case mismatched =>
    exact fun page length => ⟨serve_of_length length, fun outcome t => steps_of_length length⟩

/-- An engine with one frame, on a new file that may have sixteen pages. -/
def newSolo : GuardedEngine ⟨"", 512, 1, 8192⟩ :=
  ⟨⟨⟨512, 16, 0, ∅, by decide, PageId.bound_pos⟩, false,
    ⟨Vector.replicate 1 .empty, ∅, List.finRange 1, .empty, .ofNew 8192, {}⟩⟩, []⟩

theorem undisturbed_newSolo : newSolo.Undisturbed := by
  have valid : Config.validate ⟨"", 512, 1, 8192⟩ = .ok () :=
    Config.validate_eq_ok_iff.mpr (by decide)
  have opened : Engine.ofDisk (.ofNew 8192) = .ok newSolo.engine := by rfl
  exact .started (FileTree.start_empty_eq rfl valid opened)

/-- A page is given back, and then made and pinned past the engine. The engine cannot issue it again,
and takes it back among the free pages. -/
theorem unharmed_of_recycled :
    let page : PageId := ⟨0, by decide⟩
    let returned := ((newSolo.step .allocate).2.step (.deallocate page)).2
    let s := ((returned.step (.pool (.create page))).2.step (.pool (.fetch page .shared "r"))).2
    s.Undisturbed ∧ s.engine.allocator.free.toList = [page] ∧
      (s.step .allocate).1 = .failed (.error (.pagePinned page)) ∧ s.Unharmed (s.step .allocate).2 := by
  intro page returned s
  have next : page.index + 1 < 0x100000000 := by decide
  have failed : (s.step .allocate).1 = .failed (.error (.pagePinned page)) := by decide +kernel
  have allocated := undisturbed_newSolo.made .allocate (by decide +kernel) trivial
  have given : returned.Undisturbed := allocated.made (.deallocate page) (by decide +kernel) trivial
  have created := given.made (.pool (.create page)) (by decide +kernel) next
  have undisturbed : s.Undisturbed :=
    created.made (.pool (.fetch page .shared "r")) (by decide +kernel) next
  have steps : s.Steps .allocate (.failed (.error (.pagePinned page))) (s.step .allocate).2 :=
    failed ▸ .made _
  exact ⟨undisturbed, by decide +kernel, failed,
    (undisturbed.unharmed_of_failed (by decide)).1 .allocate _ _ (by simp) (.inl steps)⟩

end GuardedEngine

end PagedStorage
