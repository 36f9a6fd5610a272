import PagedStorage.Proofs.PassedPages

/-!
# Pages that are issued are blank

A page that is issued may have been someone else's before. The file may still have the old block, and a
request past the engine may have brought it back into a frame. In either case the page is given a frame
of zeros, and this frame is newer than the file: were it clean, the next eviction would bring the old
block back. So from then on zeros are what is read of the page, wherever it goes, and what a sync leaves
in the file, until the page is changed (`Undisturbed.reads_zero_of_issued`).
-/

namespace PagedStorage

namespace Pool

variable {size pageSize : Nat} {s t : Pool size pageSize} {f : Fin size} {page : PageId}
  {written : PageId → Prop} {block : Block pageSize}

/-- A page that is made has a frame of zeros, whether or not it had one before. -/
theorem frame_of_create (h : s.Sound) (addressable : page.Addressable pageSize)
    (ran : create page s = .ok () t) :
    ∃ f, t.table[page]? = some f ∧ t.frame f = ⟨.zero, some page, 0, true⟩ := by
  cases resident : s.table[page]? with
  | some f =>
    -- Whatever the frame held is overwritten in its place.
    have held := (h.table_iff page f).mp resident
    rw [create_hit resident] at ran
    split at ran
    · cases ran
    · next unpinned =>
      cases ran
      have pins : (s.frame f).pins = 0 := by simpa [Frame.isPinned] using unpinned
      refine ⟨f, resident, ?_⟩
      rw [filled, frame_reframed_self, frame_touched, ← held, ← pins]
  | none =>
    -- The page takes a frame that was emptied for it, so no pin is left on it.
    obtain ⟨r, u, admits, made⟩ := (create_miss h resident addressable).sure
    rw [made] at ran
    cases admits with
    | full | unread => cases ran
    | @enters f u _ _ room source =>
      cases ran
      cases source
      have empty := (room.sound h).head_free room.head
      refine ⟨f, (table_admitted u f page page .zero true).trans (if_pos rfl), ?_⟩
      refine (frame_admitted u f f page .zero true).trans ?_
      rw [if_pos rfl, empty]
      rfl

/-- A page that is seen has a successor. -/
theorem Proper.numbered_of_view (h : s.Proper written) (seen : s.view page = some block) :
    page.index + 1 < 0x100000000 := by
  rcases (view_eq_some_iff.mp seen).1 with resident | counted
  · obtain ⟨f, there⟩ := Option.isSome_iff_exists.mp resident
    exact (h.sound.addressable f page ((h.sound.table_iff page f).mp there)).1
  · exact Nat.lt_of_le_of_lt counted s.disk.blockCount_lt

section Seen

variable (h : s.Proper written) (small : pageSize < 0x100000000) (seen : s.view page = some block)
include h small seen

theorem read_of_view {bytes : Block pageSize} (ran : read page s = .ok bytes t) : bytes = block := by
  have spec := read_spec h (.of_small (h.numbered_of_view seen) small)
  rw [ran] at spec
  obtain ⟨leads, shown, -⟩ := spec
  have kept := leads.turns.keeps.seen page block id seen
  exact Option.some.inj (shown.symm.trans kept)

theorem fetch_of_view (ran : fetch page s = .ok f t) : (t.frame f).bytes = block := by
  have spec := fetch_spec h (.of_small (h.numbered_of_view seen) small)
  rw [ran] at spec
  obtain ⟨u, rfl, leads, held, -⟩ := spec
  have kept := leads.turns.keeps.seen page block id seen
  rw [view_of_frame leads.proper.sound held] at kept
  rw [bytes_pinned]
  exact Option.some.inj kept

end Seen

/-- Where no frame is dirty, the file has the bytes. -/
theorem Backed.stores (backed : s.Backed page block) (clean : ∀ f, (s.frame f).dirty = false) :
    s.disk.Stores page block := by
  rcases backed with ⟨f, -, newer⟩ | stores
  · simp [clean f] at newer
  · exact stores

end Pool

namespace GuardedPool

variable {size pageSize : Nat} {s t : GuardedPool size pageSize} {page : PageId}
  {block : Block pageSize} {reply : PoolReply}

theorem Shown.read (h : s.Shown page block) (small : pageSize < 0x100000000)
    (steps : s.Steps (.read page) (.done reply) t) : reply = .page ⟨page, block.toArray⟩ := by
  generalize ended : Outcome.done reply = outcome at steps
  cases steps with
  | made =>
    unfold step at ended
    split at ended
    · cases ended
    · cases ran : Pool.read page s.pool with
      | ok bytes pool =>
        obtain rfl := Pool.read_of_view h.sound.proper small h.view_eq ran
        rw [GuardedPool.serve, perform_of_ok ran] at ended
        cases ended
        rfl
      | error why pool =>
        rw [GuardedPool.serve, perform_of_error ran] at ended
        cases ended

theorem Shown.fetch {access : Access} {name : String} (h : s.Shown page block)
    (small : pageSize < 0x100000000) (steps : s.Steps (.fetch page access name) (.done reply) t) :
    ∃ frame, reply = .pinned ⟨page, block.toArray⟩ frame := by
  generalize ended : Outcome.done reply = outcome at steps
  cases steps with
  | made =>
    unfold step at ended
    split at ended
    · cases ended
    · rw [GuardedPool.serve, GuardedPool.fetch] at ended
      split at ended
      · cases ended
      · cases ran : Pool.fetch page s.pool with
        | ok f pool =>
          have bytes := Pool.fetch_of_view h.sound.proper small h.view_eq ran
          rw [ran] at ended
          cases ended
          exact ⟨⟨f.val⟩, by rw [view, bytes]⟩
        | error why pool =>
          rw [ran] at ended
          cases ended

end GuardedPool

/-- A sync that succeeds has flushed all pages. -/
theorem Engine.flushed_of_syncIn {config : Config} {e f : Engine config}
    {order : List (PageId × Fin config.bufferSize)} (ran : syncIn order e = .ok () f) :
    ∃ n pool, Pool.flushFrames order e.pool = .ok n pool ∧ f = { e with pool } := by
  cases closed : e.closed with
  | true => simp [syncIn_of_closed closed] at ran
  | false =>
    cases flushed : Pool.flushFrames order e.pool with
    | error why pool => simp [syncIn, ensureOpen_eq, closed, flushAndSyncIn, onPool, flushed] at ran
    | ok n pool =>
      have same : Action.Settles Pool.sync pool (· = pool) fun _ => False := Pool.sync_settles_of rfl
      unfold Action.Settles at same
      cases synced : Pool.sync pool with
      | error why left =>
        simp [syncIn, ensureOpen_eq, closed, flushAndSyncIn, onPool, flushed, synced] at ran
      | ok _ left =>
        obtain rfl : left = pool := by simpa [synced] using same
        refine ⟨n, left, rfl, ?_⟩
        simpa [syncIn, ensureOpen_eq, closed, flushAndSyncIn, onPool, flushed, synced] using ran.symm

namespace GuardedEngine

variable {config : Config} {s t u : GuardedEngine config} {request : EngineRequest}
  {outcome : Outcome EngineReply} {page : PageId} {block : Block config.pageSize}

/-! ### Pages that are seen -/

/-- What is asked of the pool past the engine is answered by the pool. -/
theorem steps_pool {asked : PoolRequest} (steps : s.Steps (.pool asked) outcome t) :
    ∃ answer held, s.held.Steps asked answer held ∧ outcome = answer.map .pool := by
  cases steps with
  | made => exact ⟨_, _, .made asked, rfl⟩
  | pool steps => exact ⟨_, _, steps, rfl⟩

/-- A sync takes the dirty frames in some order. -/
theorem steps_sync (steps : s.Steps .sync outcome t) :
    outcome = .wouldBlock ∨ ∃ order, order.Perm s.engine.pool.dirtyFrames ∧
      s.perform (Engine.syncIn order) (fun _ => EngineReply.done) = (outcome, t) := by
  cases steps with
  | made =>
    unfold step
    split
    · exact .inl rfl
    · refine .inr ⟨_, .refl _, ?_⟩
      simp only [serve, perform, Outcome.ofAction, Engine.sync_eq]
  | synced _ listed => exact .inr ⟨_, listed, rfl⟩

theorem step_of_read (steps : s.Steps (.read page) outcome t) :
    s.step (.read page) = (outcome, t) := by
  cases steps
  rfl

theorem step_of_allocate (steps : s.Steps .allocate outcome t) :
    s.step .allocate = (outcome, t) := by
  cases steps
  rfl

theorem serve_of_done {reply : EngineReply} (done : s.step request = (.done reply, t)) :
    s.serve request = (.done reply, t) := by
  unfold step at done
  split at done
  · cases done
  · exact done

theorem perform_eq_done_iff {α β : Type} {act : Action (Engine config) α} {reply : α → β} {b : β} :
    s.perform act reply = (.done b, t) ↔
      ∃ a engine, act s.engine = .ok a engine ∧ reply a = b ∧ { s with engine } = t := by
  cases ran : act s.engine with
  | ok a engine => simp [perform_of_ok ran]
  | error why engine => simp [perform_of_error ran]

/-- Whoever asks for the page is told these bytes, and a sync leaves them in the file until the page is
changed. -/
structure Reads (s : GuardedEngine config) (page : PageId) (block : Block config.pageSize) :
    Prop where
  read : ∀ reply t, s.Steps (.read page) (.done reply) t → reply = .page ⟨page, block.toArray⟩
  /-- A read past the engine. -/
  direct : ∀ reply t, s.Steps (.pool (.read page)) (.done reply) t →
    reply = .pool (.page ⟨page, block.toArray⟩)
  fetched : ∀ access name reply t, s.Steps (.pool (.fetch page access name)) (.done reply) t →
    ∃ frame, reply = .pool (.pinned ⟨page, block.toArray⟩ frame)
  synced : ∀ reply t u, s.Steps .sync (.done reply) t → t.PassesBy page u →
    u.engine.pool.disk.Stores page block

namespace Shown

variable (h : s.Shown page block) (small : config.pageSize < 0x100000000)
include h small

theorem read {reply : EngineReply} (steps : s.Steps (.read page) (.done reply) t) :
    reply = .page ⟨page, block.toArray⟩ := by
  have served : s.perform (Engine.read page) EngineReply.page = (.done reply, t) :=
    serve_of_done (step_of_read steps)
  obtain ⟨answer, engine, ran, rfl, -⟩ := perform_eq_done_iff.mp served
  -- The engine refuses the read by itself, or has the pool answer it.
  rcases s.engine.read_cases page with ⟨why, refused⟩ | ⟨-, delegates⟩
  · rw [refused] at ran
    cases ran
  · obtain ⟨bytes, found, rfl⟩ := delegates.of_ok ran
    rw [Pool.read_of_view h.sound.held.proper small h.view_eq found]

/-- A sync leaves the bytes that are seen in the file. -/
theorem synced {reply : EngineReply} (steps : s.Steps .sync (.done reply) t) :
    t.Shown page block ∧ t.engine.pool.disk.Stores page block := by
  obtain ⟨shown, -⟩ := h.steps small (show EngineRequest.sync.Numbered from trivial) steps nofun id
  rcases steps_sync steps with blocks | ⟨order, listed, done⟩
  · cases blocks
  · obtain ⟨_, engine, ran, -, rfl⟩ := perform_eq_done_iff.mp done
    obtain ⟨n, pool, flushed, rfl⟩ := Engine.flushed_of_syncIn ran
    -- No frame is left dirty, whoever may be writing to it.
    have spec := Pool.flushFrames_spec h.sound.held.proper listed
    rw [show s.held.pool = s.engine.pool from rfl, flushed] at spec
    exact ⟨shown, shown.backed.stores spec.2⟩

theorem reads : s.Reads page block := by
  constructor
  case read => exact fun reply t steps => h.read small steps
  case direct =>
    intro reply t steps
    obtain ⟨answer, held, asked, same⟩ := steps_pool steps
    cases answer with
    | done given =>
      cases same
      rw [h.held.read small asked]
    | _ => cases same
  case fetched =>
    intro access name reply t steps
    obtain ⟨answer, held, asked, same⟩ := steps_pool steps
    cases answer with
    | done given =>
      cases same
      obtain ⟨frame, rfl⟩ := h.held.fetch small asked
      exact ⟨frame, rfl⟩
    | _ => cases same
  case synced =>
    intro reply t u steps passes
    obtain ⟨shown, stores⟩ := h.synced small steps
    exact (passes.shown shown small).2 stores

end Shown

/-! ### Pages that are issued -/

/-- The page is live and has a frame of zeros, which is not pinned and newer than the file. -/
structure Issued (s : GuardedEngine config) (page : PageId) : Prop where
  live : s.engine.allocator.isLive page = true
  blank : ∃ f, s.engine.pool.table[page]? = some f ∧
    s.engine.pool.frame f = ⟨.zero, some page, 0, true⟩

theorem Sound.issued_of_allocated (h : s.Sound) (small : config.pageSize < 0x100000000)
    (steps : s.Steps .allocate (.done (.allocated page)) t) :
    s.engine.allocator.isLive page = false ∧ t.Issued page := by
  have served : s.perform Engine.allocate EngineReply.allocated = (.done (.allocated page), t) :=
    serve_of_done (step_of_allocate steps)
  obtain ⟨issued, engine, ran, same, rfl⟩ := perform_eq_done_iff.mp served
  obtain rfl : issued = page := EngineReply.allocated.inj same
  rcases s.engine.issue_cases with ⟨why, refused⟩ | ⟨issued, b, issues, done, delegates⟩
  · rw [refused] at ran
    cases ran
  · obtain ⟨_, made, rfl⟩ := delegates.of_ok ran
    -- The engine that is left has the page issued.
    have left := done engine.pool made
    rw [ran] at left
    injection left with _ left
    rw [left]
    refine ⟨issues.not_live, (issues.isLive_iff h.issued _).mpr (.inr rfl), ?_⟩
    -- The page's frame is what the pool has made of it.
    have addressable := PageId.Addressable.of_small (issues.index_succ_lt h.issued) small
    exact Pool.frame_of_create h.held.proper.sound addressable made

theorem latched_of_started {tree tree' : FileTree} {engine : Engine config}
    (started : Engine.start config tree = .ok engine tree') : Latched ⟨engine, []⟩ := by
  have sound := sound_of_started started
  exact ⟨⟨sound.held.proper.sound, sound.held.matched, nofun⟩, sound.issued, sound.pageSize_eq⟩

namespace Undisturbed

theorem latched (small : config.pageSize < 0x100000000) (undisturbed : s.Undisturbed) :
    s.Latched := by
  -- A run begins without guards, and `Latched.steps` is what one request keeps.
  induction undisturbed with
  | started started => exact latched_of_started started
  | step _ numbered steps unbroken ih =>
    exact ih.moved ((ih.steps small numbered steps).unbroken unbroken)

/-- Whatever has been done with an engine, its pool and the guards on it: a page that is issued was not
live, and has now a frame of zeros that is newer than the file. Until the page is changed, zeros are
what is read of it, and what a sync leaves in the file. -/
theorem reads_zero_of_issued (small : config.pageSize < 0x100000000) (undisturbed : s.Undisturbed)
    (steps : s.Steps .allocate (.done (.allocated page)) t) :
    s.engine.allocator.isLive page = false ∧ t.Issued page ∧
      ∀ u, t.PassesBy page u → u.Reads page .zero := by
  obtain ⟨fresh, issued⟩ := (undisturbed.sound small).issued_of_allocated small steps
  refine ⟨fresh, issued, fun u passes => ?_⟩
  have after : t.Undisturbed :=
    undisturbed.step (show EngineRequest.allocate.Numbered from trivial) steps nofun
  obtain ⟨f, resident, frame⟩ := issued.blank
  have seen : t.engine.pool.view page = some .zero := by
    rw [Pool.view, resident]
    exact congrArg (fun frame => some frame.bytes) frame
  -- The frame is dirty, so the zeros are not lost when it is given to another page.
  have held := ((after.sound small).held.proper.sound.table_iff page f).mp resident
  have newer : (t.engine.pool.frame f).dirty = true := by rw [frame]
  have shown : t.Shown page .zero :=
    ⟨after.sound small, after.latched small, seen, .inl ⟨f, held, newer⟩⟩
  exact (passes.shown shown small).1.reads small

/-- A page is given back, and then written past the engine. So the only frame has these bytes when the
page is issued again. -/
theorem reads_zero_of_recycled :
    let page : PageId := ⟨0, by decide⟩
    let old := Array.replicate 512 (238 : UInt8)
    let returned := ((newSolo.step .allocate).2.step (.deallocate page)).2
    let s := (returned.step (.pool (.write page old))).2
    let t := (s.step .allocate).2
    let u := (t.step (.read page)).2
    s.Undisturbed ∧ s.engine.pool.table[page]? = some 0 ∧
      (s.engine.pool.frame 0).bytes.toArray = old ∧
      (s.step .allocate).1 = .done (.allocated page) ∧ t.PassesBy page u ∧
      s.engine.allocator.isLive page = false ∧ t.Issued page ∧ u.Reads page .zero := by
  intro page old returned s t u
  have next : page.index + 1 < 0x100000000 := by decide
  have again : (s.step .allocate).1 = .done (.allocated page) := by decide +kernel
  have read : ((t.step (.read page)).1.map fun _ => ()) = .done () := by decide +kernel
  have allocated := undisturbed_newSolo.made .allocate (by decide +kernel) trivial
  have given : returned.Undisturbed := allocated.made (.deallocate page) (by decide +kernel) trivial
  have undisturbed : s.Undisturbed := given.made (.pool (.write page old)) (by decide +kernel) next
  have bytes : (s.engine.pool.frame 0).bytes.toArray = old :=
    Array.toList_inj.mp (by decide +kernel)
  have steps : s.Steps .allocate (.done (.allocated page)) t := again ▸ .made _
  have passes : t.PassesBy page u := by
    refine (PassesBy.refl t).step (show (EngineRequest.read page).Numbered from trivial) (.made _) ?_ id
    intro why broken
    simp [broken, Outcome.map] at read
  obtain ⟨fresh, issued, reads⟩ := undisturbed.reads_zero_of_issued (by decide) steps
  exact ⟨undisturbed, by decide +kernel, bytes, again, passes, fresh, issued, reads u passes⟩

end Undisturbed

end GuardedEngine

end PagedStorage
