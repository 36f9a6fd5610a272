import PagedStorage.Engine
import PagedStorage.Proofs.Issuing
import PagedStorage.Proofs.PoolService

/-!
# What requests do to an engine

An engine that is used by itself holds all its live pages and has no other page in a frame, and its
file has room for every page that was ever issued (`Sound`). Its pool therefore refuses nothing: no
request saturates it, no page that makes room is refused by the file, and no page is missing. All
that can be refused is refused by the allocator, or because the engine is closed.

`Turns` tells what a request leaves behind. The file only ever gets bytes that a live page had.
-/

namespace PagedStorage

/-- The number of pages that fit the file's limit, as far as pages have numbers. -/
def Config.pageLimit (c : Config) : Nat := min (c.maxFileSize / c.pageSize) 0xffffffff

theorem Config.pageLimit_mul_le (c : Config) : c.pageLimit * c.pageSize ≤ c.maxFileSize :=
  calc c.pageLimit * c.pageSize ≤ c.maxFileSize / c.pageSize * c.pageSize :=
        Nat.mul_le_mul_right _ (Nat.min_le_left ..)
    _ ≤ c.maxFileSize := Nat.div_mul_le_self ..

/-- The file's limit is an offset, as far as it is reached by pages. -/
def Config.Spans (c : Config) : Prop := c.pageLimit * c.pageSize < 0x10000000000000000

theorem Config.spans_of_pageSize {c : Config} (small : c.pageSize < 0x100000000) : c.Spans := by
  have numbered : c.pageLimit ≤ 0xffffffff := Nat.min_le_right ..
  calc c.pageLimit * c.pageSize ≤ 0xffffffff * 0xffffffff := Nat.mul_le_mul numbered (by omega)
    _ < 0x10000000000000000 := by decide

theorem Config.spans_of_maxFileSize {c : Config} (small : c.maxFileSize < 0x10000000000000000) :
    c.Spans :=
  Nat.lt_of_le_of_lt c.pageLimit_mul_le small

namespace Engine

variable {config : Config} {e f : Engine config} {page : PageId}
  {after : PageId → Block config.pageSize} {asked : Nat}

structure Sound (e : Engine config) : Prop where
  proper : e.pool.Proper fun _ => False
  unpinned : ∀ f, (e.pool.frame f).pins = 0
  some_frame : 0 < config.bufferSize
  isOpen_eq : e.pool.disk.isOpen = !e.closed
  pageSize_eq : e.allocator.pageSize = config.pageSize
  maxPages_eq : e.allocator.maxPages = config.pageLimit
  maxFileSize_eq : e.pool.disk.maxFileSize = config.maxFileSize
  issued : e.allocator.Sound
  live_of_resident : ∀ q : PageId, e.pool.table[q]?.isSome → e.allocator.isLive q = true
  holds_of_live : ∀ q, e.allocator.isLive q = true → e.pool.Holds q
  blockCount_le : e.pool.disk.blockCount ≤ e.allocator.total
  hasRoom : ∀ q : PageId, q.index < e.allocator.total → e.pool.disk.HasRoom q
  addressable : ∀ q : PageId, q.index < e.allocator.total → q.Addressable config.pageSize

/-- From `e` to `f` the live pages come to have the bytes `after`, and where the file has changed it
has bytes that a live page had in `e`. -/
structure Turns (e f : Engine config) (asked : Nat) (after : PageId → Block config.pageSize) :
    Prop where
  sound : f.Sound
  bytesOf : ∀ q, f.allocator.isLive q = true → f.pool.bytesOf q = after q
  requests_eq : f.pool.requests = e.pool.requests + asked
  blockAt : ∀ q, f.pool.disk.blockAt q = e.pool.disk.blockAt q ∨
    e.allocator.isLive q = true ∧ f.pool.disk.blockAt q = e.pool.bytesOf q
  blockCount_le : e.pool.disk.blockCount ≤ f.pool.disk.blockCount

/-- The file has every live page as it is. -/
def Saved (e : Engine config) : Prop :=
  ∀ q, e.allocator.isLive q = true →
    q.index < e.pool.disk.blockCount ∧ e.pool.disk.blockAt q = e.pool.bytesOf q

namespace Sound

theorem turns_refl (h : e.Sound) : e.Turns e 0 e.pool.bytesOf :=
  ⟨h, fun _ _ => rfl, rfl, fun _ => .inl rfl, Nat.le_refl _⟩

theorem index_lt (live : e.allocator.isLive page = true) : page.index < e.allocator.total :=
  (Allocator.isLive_iff.mp live).1

theorem resident_lt (h : e.Sound) (q : PageId) (there : e.pool.table[q]?.isSome) :
    q.index < e.allocator.total :=
  index_lt (h.live_of_resident q there)

/-- The file has room for every page that is in a frame. -/
theorem room (h : e.Sound) (f : Fin config.bufferSize) (page : PageId)
    (held : (e.pool.frame f).page = some page) : e.pool.disk.HasRoom page := by
  apply h.hasRoom
  apply h.resident_lt
  rw [(h.proper.sound.table_iff page f).mpr held]
  rfl

theorem willing (h : e.Sound) (opened : e.closed = false) : e.pool.Willing := by
  constructor
  case some_frame => exact h.some_frame
  case unpinned => exact h.unpinned
  case isOpen =>
    rw [h.isOpen_eq, opened]
    rfl
  case reliable => exact h.proper.reliable
  case room => exact h.room

/-- Only resident pages are saved, and those are live. -/
theorem blockAt_cases (h : e.Sound) {t : Pool config.bufferSize config.pageSize}
    (turns : e.pool.Turns t after) (q : PageId) :
    t.disk.blockAt q = e.pool.disk.blockAt q ∨
      e.allocator.isLive q = true ∧ t.disk.blockAt q = e.pool.bytesOf q := by
  rcases turns.blockAt q with kept | saved
  · exact .inl kept
  · cases resident : e.pool.table[q]? with
    | none =>
      -- What a page has that is not resident is what stands in the file.
      left
      rw [saved, Pool.bytesOf, resident]
    | some f =>
      right
      have live : e.allocator.isLive q = true := by
        apply h.live_of_resident
        rw [resident]
        rfl
      exact ⟨live, saved⟩

/-- A page that may have joined the live ones was asked for, and the pool has answered. -/
theorem served (h : e.Sound) {b : Allocator} {t : Pool config.bufferSize config.pageSize}
    (gains : e.allocator.Gains b page) (room : e.pool.disk.HasRoom page)
    (addressable : page.Addressable config.pageSize) (serves : e.pool.Serves page asked t after) :
    e.Turns ⟨b, e.closed, t⟩ asked after := by
  have turns := serves.leads.turns
  have sound : Sound ⟨b, e.closed, t⟩ := by
    constructor
    case proper => exact serves.leads.proper
    case unpinned => exact fun f => (serves.leads.spares.pins f).trans (h.unpinned f)
    case some_frame => exact h.some_frame
    case isOpen_eq => exact turns.isOpen_eq.trans h.isOpen_eq
    case pageSize_eq => exact gains.pageSize_eq.trans h.pageSize_eq
    case maxPages_eq => exact gains.maxPages_eq.trans h.maxPages_eq
    case maxFileSize_eq => exact turns.maxFileSize_eq.trans h.maxFileSize_eq
    case issued => exact gains.sound
    case live_of_resident =>
      intro q there
      rw [gains.isLive_iff]
      exact (serves.resident q there).imp_left (h.live_of_resident q)
    case holds_of_live =>
      intro q live
      rcases (gains.isLive_iff q).mp live with before | rfl
      · exact turns.holds q (h.holds_of_live q before)
      · exact serves.holds
    case blockCount_le =>
      -- The file grew for resident pages at most, and these were live before.
      apply serves.blockCount_le
      · exact Nat.le_trans h.blockCount_le gains.total_le
      · exact fun q there => Nat.lt_of_lt_of_le (h.resident_lt q there) gains.total_le
    case hasRoom =>
      intro q below
      rcases gains.lt_total q below with before | rfl
      · exact turns.hasRoom (h.hasRoom q before)
      · exact turns.hasRoom room
    case addressable =>
      intro q below
      rcases gains.lt_total q below with before | rfl
      · exact h.addressable q before
      · exact addressable
  exact ⟨sound, fun q _ => turns.bytesOf q, serves.requests_eq, h.blockAt_cases turns,
    turns.blockCount_le⟩

end Sound

/-! ### Pages are read and written -/

/-- What an engine that is open checks before it reads or writes. -/
theorem ensureLive_eq (e : Engine config) (page : PageId) :
    ensureLive page e =
      match e.allocator.checkLive page with
      | .ok () => .ok () e
      | .error why => .error (.error why) e := by
  cases checked : e.allocator.checkLive page <;> simp [ensureLive, checked]

theorem ensureOpen_eq (e : Engine config) :
    ensureOpen e = if e.closed then .error (.error .closed) e else .ok () e := by
  by_cases closed : e.closed <;> simp [ensureOpen, closed]

section Requests

variable (h : e.Sound) (opened : e.closed = false)
include opened

theorem read_refused {why : StoreError} (refused : e.allocator.checkLive page = .error why) :
    read page e = .error (.error why) e := by
  simp [read, ensureOpen_eq, opened, ensureLive_eq, refused]

theorem write_refused {page : Page} {why : StoreError} (length : page.length = config.pageSize)
    (refused : e.allocator.checkLive page.id = .error why) :
    write page e = .error (.error why) e := by
  simp [write, ensureOpen_eq, opened, ensureLive_eq, length, refused]

theorem write_mismatch {page : Page} (length : page.length ≠ config.pageSize) :
    write page e = .error (.error (.pageSizeMismatch config.pageSize page.length)) e := by
  simp [write, ensureOpen_eq, opened, length]

theorem deallocate_refused (dead : e.allocator.isLive page = false) :
    deallocate page e = .error (.error (.invalidPageId page)) e := by
  simp [deallocate, ensureOpen_eq, opened, dead]

include h

theorem read_turns (live : e.allocator.isLive page = true) :
    ∃ pool, read page e = .ok ⟨page, (e.pool.bytesOf page).toArray⟩ { e with pool } ∧
      e.Turns { e with pool } 1 e.pool.bytesOf := by
  have inside := Sound.index_lt live
  obtain ⟨pool, ran, serves⟩ := Pool.read_serves h.proper (h.willing opened)
    (h.addressable page inside) (h.holds_of_live page live)
  refine ⟨pool, ?_, ?_⟩
  · simp [read, ensureOpen_eq, opened, ensureLive_eq, Allocator.checkLive_eq_ok_iff.mpr live, onPool,
      ran]
  · exact h.served (h.issued.gains_of_live live) (h.hasRoom page inside)
      (h.addressable page inside) serves

theorem write_turns {page : Page} {block : Block config.pageSize}
    (fits : page.bytes = block.toArray) (live : e.allocator.isLive page.id = true) :
    ∃ pool, write page e = .ok () { e with pool } ∧
      e.Turns { e with pool } 1 (Function.update e.pool.bytesOf page.id block) := by
  have inside := Sound.index_lt live
  have length : page.length = config.pageSize := by
    rw [Page.length, fits, Vector.size_toArray]
  obtain ⟨pool, ran, serves⟩ := Pool.writeBlock_serves h.proper (h.willing opened)
    (h.addressable page.id inside) block
  refine ⟨pool, ?_, ?_⟩
  · simp [write, ensureOpen_eq, opened, length, ensureLive_eq,
      Allocator.checkLive_eq_ok_iff.mpr live, onPool, Pool.write,
      Block.ofArray?_eq_some_iff.mpr fits, ran]
  · exact h.served (h.issued.gains_of_live live) (h.hasRoom page.id inside)
      (h.addressable page.id inside) serves

end Requests

/-! ### Pages are issued and given back -/

/-- A page that is issued has room in the file, and its end is an offset. -/
theorem Sound.granted (h : e.Sound) (spans : config.Spans) {issued : Allocation} {b : Allocator}
    (issues : e.allocator.Issues issued b) :
    e.pool.disk.HasRoom issued.page ∧ issued.page.Addressable config.pageSize := by
  cases issues with
  | recycled lowest =>
    have inside := h.issued _ (Allocator.min?_eq_some_iff.mp lowest).1
    exact ⟨h.hasRoom _ inside, h.addressable _ inside⟩
  | grown none room =>
    -- The allocator stops where the next page would pass the limit of the file.
    rw [h.maxPages_eq] at room
    have fits : (e.allocator.total + 1) * config.pageSize ≤ config.pageLimit * config.pageSize :=
      Nat.mul_le_mul_right _ room
    have numbered : config.pageLimit ≤ 0xffffffff := Nat.min_le_right ..
    constructor
    · right
      rw [h.maxFileSize_eq]
      exact Nat.le_trans fits config.pageLimit_mul_le
    · constructor
      · show e.allocator.total + 1 < 0x100000000
        omega
      · exact Nat.lt_of_le_of_lt fits spans

section Requests

variable (opened : e.closed = false)
include opened

theorem allocate_refused {why : Failure} {a : Allocator}
    (refused : Allocator.allocate e.allocator = .error why a) :
    allocate e = .error why { e with allocator := a } := by
  simp [allocate, ensureOpen_eq, opened, onAllocator, refused]

theorem allocate_turns (h : e.Sound) (spans : config.Spans) {issued : Allocation} {b : Allocator}
    (issues : e.allocator.Issues issued b)
    (allocated : Allocator.allocate e.allocator = .ok issued b) :
    ∃ pool, allocate e = .ok issued.page ⟨b, e.closed, pool⟩ ∧
      e.Turns ⟨b, e.closed, pool⟩ 0 (Function.update e.pool.bytesOf issued.page .zero) := by
  obtain ⟨room, addressable⟩ := h.granted spans issues
  obtain ⟨pool, ran, serves⟩ := Pool.create_serves h.proper (h.willing opened) addressable
  refine ⟨pool, ?_, ?_⟩
  · simp [allocate, ensureOpen_eq, opened, onAllocator, allocated, onPool, ran]
  · exact h.served (issues.gains h.issued) room addressable serves

theorem deallocate_turns (h : e.Sound) (live : e.allocator.isLive page = true) :
    ∃ pool, deallocate page e = .ok () ⟨e.allocator.returned page, e.closed, pool⟩ ∧
      e.Turns ⟨e.allocator.returned page, e.closed, pool⟩ 0 e.pool.bytesOf := by
  obtain ⟨dropped, pool, ran, drops, requests⟩ :=
    Pool.invalidate_drops h.proper (h.willing opened) page
  -- The file is not touched. Its block of the page is one of a page that is not live.
  have sound : Sound ⟨e.allocator.returned page, e.closed, pool⟩ := by
    constructor
    case proper => exact drops.proper
    case unpinned => exact fun f => (drops.spares.pins f).trans (h.unpinned f)
    case some_frame => exact h.some_frame
    case isOpen_eq => exact (congrArg Disk.isOpen drops.disk).trans h.isOpen_eq
    case pageSize_eq => exact h.pageSize_eq
    case maxPages_eq => exact h.maxPages_eq
    case maxFileSize_eq => exact (congrArg Disk.maxFileSize drops.disk).trans h.maxFileSize_eq
    case issued => exact h.issued.returned live
    case live_of_resident =>
      intro q there
      -- The page itself has left its frame, so this is another one.
      have other : q ≠ page := by
        rintro rfl
        simp [drops.absent] at there
      rw [drops.table q other] at there
      exact (Allocator.isLive_returned q).mpr ⟨h.live_of_resident q there, other⟩
    case holds_of_live =>
      intro q still
      obtain ⟨before, other⟩ := (Allocator.isLive_returned q).mp still
      exact (drops.holds q other).mpr (h.holds_of_live q before)
    case blockCount_le =>
      exact Nat.le_trans (Nat.le_of_eq (congrArg Disk.blockCount drops.disk)) h.blockCount_le
    case hasRoom =>
      intro q below
      rw [drops.disk]
      exact h.hasRoom q below
    case addressable => exact h.addressable
  refine ⟨pool, ?_, sound, ?_, requests, ?_, ?_⟩
  · simp [deallocate, ensureOpen_eq, opened, live, onPool, ran, onAllocator,
      Allocator.deallocate_eq]
  · intro q still
    exact drops.bytesOf q ((Allocator.isLive_returned q).mp still).2
  · intro q
    left
    rw [drops.disk]
  · exact Nat.le_of_eq (congrArg Disk.blockCount drops.disk).symm

end Requests

/-! ### Pages are made lasting -/

/-- A flush leaves the file with all live pages, whether it is made to sync or to close. -/
theorem Sound.saved (h : e.Sound) {t : Pool config.bufferSize config.pageSize}
    (saves : e.pool.Saves t) :
    e.Turns { e with pool := t } 0 e.pool.bytesOf ∧ Saved { e with pool := t } := by
  have turns := saves.leads.turns
  have sound : Sound { e with pool := t } := by
    constructor
    case proper => exact saves.leads.proper
    case unpinned => exact fun f => (saves.leads.spares.pins f).trans (h.unpinned f)
    case some_frame => exact h.some_frame
    case isOpen_eq => exact turns.isOpen_eq.trans h.isOpen_eq
    case pageSize_eq => exact h.pageSize_eq
    case maxPages_eq => exact h.maxPages_eq
    case maxFileSize_eq => exact turns.maxFileSize_eq.trans h.maxFileSize_eq
    case issued => exact h.issued
    case live_of_resident =>
      intro q there
      apply h.live_of_resident
      rwa [← saves.table]
    case holds_of_live => exact fun q live => turns.holds q (h.holds_of_live q live)
    case blockCount_le => exact saves.blockCount_le _ h.blockCount_le h.resident_lt
    case hasRoom => exact fun q below => turns.hasRoom (h.hasRoom q below)
    case addressable => exact h.addressable
  constructor
  · exact ⟨sound, fun q _ => turns.bytesOf q, saves.requests_eq, h.blockAt_cases turns,
      turns.blockCount_le⟩
  · -- No frame is dirty, so the file has what the frames have.
    intro q live
    exact Pool.blockAt_of_clean sound.proper saves.clean (sound.holds_of_live q live)

/-- As `flushAndSync`, with the dirty frames in a given order. -/
def flushAndSyncIn (order : List (PageId × Fin config.bufferSize)) : Action (Engine config) Unit := do
  let _ ← onPool (Pool.flushFrames order)
  onPool Pool.sync

def syncIn (order : List (PageId × Fin config.bufferSize)) : Action (Engine config) Unit := do
  ensureOpen
  flushAndSyncIn order

def closeIn (order : List (PageId × Fin config.bufferSize)) : Action (Engine config) Unit := do
  ensureOpen
  modify fun e => { e with closed := true }
  let synced ← Action.attempt (flushAndSyncIn order)
  let released ← Action.attempt (onPool Pool.close)
  if let .error e := synced then Action.reject e
  if let .error e := released then Action.reject e

theorem syncIn_of_closed (closed : e.closed = true) (order : List (PageId × Fin config.bufferSize)) :
    syncIn order e = .error (.error .closed) e := by
  simp [syncIn, ensureOpen_eq, closed]

theorem closeIn_of_closed (closed : e.closed = true) (order : List (PageId × Fin config.bufferSize)) :
    closeIn order e = .error (.error .closed) e := by
  simp [closeIn, ensureOpen_eq, closed]

/-- The order of the table is one of the orders in which frames can be flushed. -/
theorem flushAndSync_eq (e : Engine config) :
    flushAndSync e = flushAndSyncIn e.pool.dirtyFrames e := by
  simp [flushAndSync, flushAndSyncIn, onPool, Pool.flushAll]

theorem sync_eq (e : Engine config) : sync e = syncIn e.pool.dirtyFrames e := by
  by_cases closed : e.closed <;> simp [sync, syncIn, ensureOpen_eq, closed, flushAndSync_eq]

theorem close_eq (e : Engine config) : close e = closeIn e.pool.dirtyFrames e := by
  by_cases closed : e.closed
  · simp [close, closeIn, ensureOpen_eq, closed]
  · have opened : ensureOpen e = .ok () e := by simp [ensureOpen_eq, closed]
    have synced : Action.attempt flushAndSync { e with closed := true } =
        Action.attempt (flushAndSyncIn e.pool.dirtyFrames) { e with closed := true } := by
      rw [Action.run_attempt, Action.run_attempt, flushAndSync_eq]
    rw [close, closeIn, Action.bind_of_ok opened, Action.bind_of_ok opened]
    exact Action.bind_congr synced

section Lasting

variable {order : List (PageId × Fin config.bufferSize)}

theorem flushAndSyncIn_eq {n : Nat} {t : Pool config.bufferSize config.pageSize}
    (ran : Pool.flushFrames order e.pool = .ok n t) (opened : t.disk.isOpen = true)
    (reliable : t.disk.Reliable) : flushAndSyncIn order e = .ok () { e with pool := t } := by
  simp [flushAndSyncIn, onPool, ran, Pool.sync_of_reliable reliable, opened]

theorem syncIn_turns (h : e.Sound) (opened : e.closed = false)
    (listed : order.Perm e.pool.dirtyFrames) :
    ∃ pool, syncIn order e = .ok () { e with pool } ∧ e.Turns { e with pool } 0 e.pool.bytesOf ∧
      Saved { e with pool } := by
  have willing := h.willing opened
  obtain ⟨n, pool, ran, saves⟩ := Pool.flushFrames_saves h.proper willing listed
  have still : pool.disk.isOpen = true := saves.leads.turns.isOpen_eq.trans willing.isOpen
  refine ⟨pool, ?_, h.saved saves⟩
  simp [syncIn, ensureOpen_eq, opened, flushAndSyncIn_eq ran still saves.leads.proper.reliable]

theorem sync_turns (h : e.Sound) (opened : e.closed = false) :
    ∃ pool, sync e = .ok () { e with pool } ∧ e.Turns { e with pool } 0 e.pool.bytesOf ∧
      Saved { e with pool } := by
  rw [sync_eq]
  exact syncIn_turns h opened (List.Perm.refl _)

/-- Letting go of the file changes nothing else. -/
theorem Sound.shut (h : e.Sound) : Sound { e with closed := true, pool := e.pool.shut } := by
  obtain ⟨proper, spares, -⟩ := h.proper.shut
  exact ⟨proper, fun f => (spares.pins f).trans (h.unpinned f), h.some_frame, rfl, h.pageSize_eq,
    h.maxPages_eq, h.maxFileSize_eq, h.issued, h.live_of_resident, h.holds_of_live,
    h.blockCount_le, h.hasRoom, h.addressable⟩

theorem closeIn_turns (h : e.Sound) (opened : e.closed = false)
    (listed : order.Perm e.pool.dirtyFrames) :
    ∃ pool, closeIn order e = .ok () { e with closed := true, pool } ∧
      e.Turns { e with closed := true, pool } 0 e.pool.bytesOf ∧
      Saved { e with closed := true, pool } := by
  have willing := h.willing opened
  obtain ⟨n, pool, ran, saves⟩ := Pool.flushFrames_saves h.proper willing listed
  have still : pool.disk.isOpen = true := saves.leads.turns.isOpen_eq.trans willing.isOpen
  obtain ⟨turns, saved⟩ := h.saved saves
  refine ⟨pool.shut, ?_, ⟨turns.sound.shut, turns.bytesOf, turns.requests_eq, turns.blockAt,
    turns.blockCount_le⟩, saved⟩
  -- The engine counts as closed while it is flushed, which the pool does not notice.
  have flushed : flushAndSyncIn order { e with closed := true } =
      .ok () { e with closed := true, pool := pool } := by
    apply flushAndSyncIn_eq
    · exact ran
    · exact still
    · exact saves.leads.proper.reliable
  simp [closeIn, ensureOpen_eq, opened, flushed, onPool,
    Pool.close_of_reliable saves.leads.proper.reliable, still]

theorem close_turns (h : e.Sound) (opened : e.closed = false) :
    ∃ pool, close e = .ok () { e with closed := true, pool } ∧
      e.Turns { e with closed := true, pool } 0 e.pool.bytesOf ∧
      Saved { e with closed := true, pool } := by
  rw [close_eq]
  exact closeIn_turns h opened (List.Perm.refl _)

end Lasting

/-! ### Engines that were just opened -/

/-- An engine that was just opened: every page of the file is live, and nothing is in a frame. -/
structure Fresh (e : Engine config) (disk : Disk config.pageSize) : Prop where
  closed_eq : e.closed = false
  total_eq : e.allocator.total = disk.blockCount
  free_eq : e.allocator.free = ∅
  maxPages_eq : e.allocator.maxPages = config.pageLimit
  pageSize_eq : e.allocator.pageSize = config.pageSize
  made : Pool.ofDisk disk = .ok e.pool

theorem ofDisk_fresh (disk : Disk config.pageSize) (long : 0 < config.pageSize)
    (some : 0 < config.bufferSize) : ∃ e, ofDisk disk = .ok e ∧ e.Fresh disk := by
  have frames : config.bufferSize ≠ 0 := by omega
  obtain ⟨allocator, extent⟩ :=
    Allocator.exists_ofExtent long disk.blockCount_lt config.maxFileSize
  obtain ⟨-, pageSize, maxPages, total, free⟩ := Allocator.ofExtent_eq_ok_iff.mp extent
  let pool : Pool config.bufferSize config.pageSize :=
    ⟨Vector.replicate config.bufferSize .empty, ∅, List.finRange config.bufferSize, .empty, disk, {}⟩
  have made : Pool.ofDisk disk = .ok pool := if_neg frames
  refine ⟨⟨allocator, false, pool⟩, ?_, rfl, total, free, maxPages, pageSize, made⟩
  simp only [ofDisk, extent, made]
  rfl

namespace Fresh

variable {disk : Disk config.pageSize}

theorem isLive_iff (fresh : e.Fresh disk) (q : PageId) :
    e.allocator.isLive q = true ↔ q.index < disk.blockCount := by
  simp [Allocator.isLive_iff, fresh.total_eq, fresh.free_eq]

theorem disk_eq (fresh : e.Fresh disk) : e.pool.disk = disk := by
  obtain ⟨-, made⟩ := Pool.ofDisk_eq_ok fresh.made
  rw [made]

theorem table_eq (fresh : e.Fresh disk) : e.pool.table = ∅ := by
  obtain ⟨-, made⟩ := Pool.ofDisk_eq_ok fresh.made
  rw [made]

theorem bytesOf (fresh : e.Fresh disk) (q : PageId) : e.pool.bytesOf q = disk.blockAt q := by
  simp [Pool.bytesOf, fresh.table_eq, fresh.disk_eq]

theorem requests_eq (fresh : e.Fresh disk) : e.pool.requests = 0 := by
  obtain ⟨-, made⟩ := Pool.ofDisk_eq_ok fresh.made
  rw [made]
  rfl

theorem sound (fresh : e.Fresh disk) (counted : disk.Counted) (reliable : disk.Reliable)
    (opened : disk.isOpen = true) (limit : disk.maxFileSize = config.maxFileSize)
    (addressable : ∀ q : PageId, q.index < disk.blockCount → q.Addressable config.pageSize) :
    e.Sound := by
  have some : 0 < config.bufferSize := (Pool.ofDisk_eq_ok fresh.made).1
  have proper := Pool.proper_ofDisk counted reliable fresh.made
  constructor
  case proper => exact proper
  case unpinned =>
    intro f
    rw [Pool.frame_ofDisk fresh.made]
    rfl
  case some_frame => exact some
  case isOpen_eq =>
    rw [fresh.disk_eq, fresh.closed_eq, opened]
    rfl
  case pageSize_eq => exact fresh.pageSize_eq
  case maxPages_eq => exact fresh.maxPages_eq
  case maxFileSize_eq => rw [fresh.disk_eq, limit]
  case issued =>
    intro q free
    simp [fresh.free_eq] at free
  case live_of_resident =>
    intro q there
    simp [fresh.table_eq] at there
  case holds_of_live =>
    intro q live
    right
    rw [fresh.disk_eq]
    exact (fresh.isLive_iff q).mp live
  case blockCount_le =>
    apply Nat.le_of_eq
    rw [fresh.disk_eq, fresh.total_eq]
  case hasRoom =>
    -- The pages of the file are in it, even if it is longer than its limit.
    intro q below
    left
    rw [fresh.disk_eq]
    rwa [fresh.total_eq] at below
  case addressable =>
    intro q below
    rw [fresh.total_eq] at below
    exact addressable q below

end Fresh

end Engine

end PagedStorage
