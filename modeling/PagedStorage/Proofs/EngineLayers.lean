import PagedStorage.Proofs.SessionRuns

/-!
# Allocator, pool and file

The allocator stops at a number of pages, the file at a number of bytes, and the pool decides when
pages go to the file; none of them asks the others. After every run of an engine they agree all the
same (`Layered`): frames hold live pages only, a live page is in a frame or in the file, and the
file has room for every page that is in a frame. So what is written back is never refused for want
of room, not even in a file that was opened longer than its limit.
-/

namespace PagedStorage

/-! ### Room for what is written back -/

namespace Pool

variable {size pageSize : Nat} {s : Pool size pageSize}

/-- The request is not refused because the file is full. -/
def Fits {α : Type} (s : Pool size pageSize) (act : Action (Pool size pageSize) α) : Prop :=
  ∀ required limit t, act s ≠ .error (.error (.allocationExhausted required limit)) t

section Room

variable (h : s.Sound) (room : ∀ f page, (s.frame f).page = some page → s.disk.HasRoom page)
include h room

theorem fits_evict : s.Fits evict := by
  intro required limit t refused
  cases chosen : s.recency.evict? with
  | none => simp [evict, chosen] at refused
  | some entry =>
    obtain ⟨f, recency⟩ := entry
    obtain ⟨oldest, rfl⟩ := h.recency.evict?_eq_some_iff.mp chosen
    obtain ⟨⟨victim, held⟩, -⟩ := h.page_of_standing oldest.standing
    have other := Disk.refusal_ne_exhausted (room f victim held) required limit
    rw [(evict_eq h oldest held).sure] at refused
    split at refused
    · cases refused
    · simp [other] at refused

theorem fits_flush (page : PageId) : s.Fits (flush page) := by
  intro required limit t refused
  cases resident : s.table[page]? with
  | none => simp [flush, resident] at refused
  | some f =>
    have held := (h.table_iff page f).mp resident
    by_cases more : (s.frame f).pins + 1 < Frame.pinLimit
    · have other := Disk.refusal_ne_exhausted (room f page held) required limit
      rw [(flush_eq h resident more).sure] at refused
      split at refused
      · cases refused
      · split at refused
        · cases refused
        · simp [other] at refused
    · simp [flush, resident, pin_eq_fault more] at refused

omit h room in
/-- Where there is room for all pages, a flush does not stop for want of it. -/
theorem savedAll_ne_exhausted {order : List (PageId × Fin size)}
    (room : ∀ entry ∈ order, s.disk.HasRoom entry.1) (required limit : Nat) :
    (savedAll order s).1 ≠ some (.allocationExhausted required limit) := by
  -- Saving a page leaves the others the room that they had.
  induction order generalizing s with
  | nil => nofun
  | cons entry rest ih =>
    obtain ⟨page, f⟩ := entry
    obtain ⟨granted, others⟩ := List.forall_mem_cons.mp room
    rw [savedAll]
    split
    · exact ih fun entry listed => hasRoom_saved f page (others entry listed)
    · simpa using Disk.refusal_ne_exhausted granted required limit

theorem fits_flushFrames {order : List (PageId × Fin size)} (listed : order.Perm s.dirtyFrames) :
    s.Fits (flushFrames order) := by
  have flushable := dirtyFrames_flushable h listed
  have granted : ∀ entry ∈ order, s.disk.HasRoom entry.1 :=
    fun entry mem => room entry.2 entry.1 (flushable.held entry mem)
  intro required limit t refused
  by_cases more : ∀ entry ∈ order, (s.frame entry.2).pins + 1 < Frame.pinLimit
  · have other := savedAll_ne_exhausted granted required limit
    rw [(flushFrames_eq h flushable more).sure] at refused
    generalize savedAll order s = saving at refused other
    obtain ⟨none | why, left⟩ := saving
    · cases refused
    · cases refused
      exact other rfl
  · obtain ⟨left, stopped, -⟩ := forM_pin_overflow flushable more
    simp only [flushFrames, Action.run_bind, stopped] at refused
    cases refused

end Room

end Pool

/-! ### Layers that agree -/

namespace Engine

variable {config : Config} {e f : Engine config} {request : StoreRequest}
  {outcome : Outcome EngineReply}

structure Layered (e : Engine config) : Prop where
  live_of_resident : ∀ page : PageId, e.pool.table[page]?.isSome → e.allocator.isLive page = true
  /-- A live page is in a frame or in the file. -/
  holds_of_live : ∀ page : PageId, e.allocator.isLive page = true →
    e.pool.table[page]?.isSome ∨ page.index < e.pool.disk.blockCount
  blockCount_le : e.pool.disk.blockCount ≤ e.allocator.total
  /-- A page in a frame is in the file already, or ends within the limit. -/
  room_of_resident : ∀ page : PageId, e.pool.table[page]?.isSome →
    page.index < e.pool.disk.blockCount ∨ (page.index + 1) * config.pageSize ≤ config.maxFileSize
  fits_evict : e.pool.Fits Pool.evict
  fits_flush : ∀ page, e.pool.Fits (Pool.flush page)
  /-- Dirty frames may be flushed in any order. -/
  fits_flushFrames : ∀ order, order.Perm e.pool.dirtyFrames → e.pool.Fits (Pool.flushFrames order)

theorem Sound.layered (h : e.Sound) : e.Layered := by
  have sound := h.proper.sound
  constructor
  case live_of_resident => exact h.live_of_resident
  case holds_of_live => exact h.holds_of_live
  case blockCount_le => exact h.blockCount_le
  case room_of_resident =>
    intro page there
    have room := h.hasRoom page (h.resident_lt page there)
    rwa [Disk.HasRoom, h.maxFileSize_eq] at room
  case fits_evict => exact Pool.fits_evict sound h.room
  case fits_flush => exact Pool.fits_flush sound h.room
  case fits_flushFrames => exact fun order listed => Pool.fits_flushFrames sound h.room listed

/-! ### Runs -/

/-- A request and how it ends. Whatever flushes all pages may take them in any order. -/
inductive Steps (e : Engine config) : StoreRequest → Outcome EngineReply → Engine config → Prop
  | made (request : StoreRequest) : Steps e request (e.step request).1 (e.step request).2
  | synced {order : List (PageId × Fin config.bufferSize)}
      (listed : order.Perm e.pool.dirtyFrames) :
      Steps e .sync (e.perform (syncIn order) fun _ => .done).1
        (e.perform (syncIn order) fun _ => .done).2
  | closed {order : List (PageId × Fin config.bufferSize)}
      (listed : order.Perm e.pool.dirtyFrames) :
      Steps e .close (e.perform (closeIn order) fun _ => .done).1
        (e.perform (closeIn order) fun _ => .done).2

/-- What can become of an engine from its opening on. -/
inductive Reached : Engine config → Prop
  | started {tree u : FileTree} {e : Engine config} (started : start config tree = .ok e u) :
      Reached e
  | step {e f : Engine config} {request : StoreRequest} {outcome : Outcome EngineReply}
      (reached : Reached e) (steps : e.Steps request outcome f) : Reached f

/-- The order of a flush makes no difference to how an engine in order answers. -/
theorem Sound.steps_answers (h : e.Sound) (spans : config.Spans)
    (steps : e.Steps request outcome f) : e.Answers request outcome f := by
  cases steps with
  | made request => exact step_answers h spans request
  | @synced order listed =>
    cases closed : e.closed with
    | true =>
      rw [perform_of_error (syncIn_of_closed closed order)]
      exact .closed closed
    | false =>
      obtain ⟨pool, done, turns, saved⟩ := syncIn_turns h closed listed
      rw [perform_of_ok done]
      exact .synced closed turns saved
  | @closed order listed =>
    cases closed : e.closed with
    | true =>
      rw [perform_of_error (closeIn_of_closed closed order)]
      exact .closed closed
    | false =>
      obtain ⟨pool, done, turns, saved⟩ := closeIn_turns h closed listed
      rw [perform_of_ok done]
      exact .shut closed turns saved

/-- One step: what an engine in order answers leaves it in order. -/
theorem Sound.steps (h : e.Sound) (spans : config.Spans) (steps : e.Steps request outcome f) :
    f.Sound := by
  obtain ⟨_, _, turns⟩ := (h.steps_answers spans steps).turns h
  exact turns.sound

theorem Reached.sound (small : config.pageSize < 0x100000000) (reached : Reached e) : e.Sound := by
  -- `Sound` is what the opening gives and each request keeps, whatever it answers.
  induction reached with
  | started started => exact (opens_of_start started).2.sound small
  | step _ steps ih => exact ih.steps (Config.spans_of_pageSize small) steps

/-- From its opening on, whatever an engine is asked, allocator, pool and file agree. -/
theorem Reached.layers_agree (small : config.pageSize < 0x100000000) (reached : Reached e) :
    e.Layered := (reached.sound small).layered

/-- A file of four pages is opened although it may have only two. A page behind the limit is
written, given back and issued again. -/
theorem layers_agree_shrunk :
    let config : Config := ⟨"", 512, 1, 1024⟩
    let last : PageId := ⟨3, by decide⟩
    config.pageSize < 0x100000000 ∧ ∃ e : Engine config, Reached e ∧ e.Layered ∧
      ((e.step (.write ⟨last, Array.replicate 512 7⟩)).2.step (.deallocate last)).2.Layered ∧
      (((e.step (.write ⟨last, Array.replicate 512 7⟩)).2.step (.deallocate last)).2.step
        .allocate).2.Layered := by
  intro config last
  have small : config.pageSize < 0x100000000 := by decide
  have valid : config.validate = .ok () := Config.validate_eq_ok_iff.mpr (by decide)
  have numbered : (File.hole 2048).size / config.pageSize < 0x100000000 := by decide
  obtain ⟨e, started, -⟩ := start_of_houses valid (FileTree.bare_houses (.hole 2048) rfl) numbered
  have opened : Reached e := .started started
  have returned := (opened.step (.made (.write ⟨last, Array.replicate 512 7⟩))).step
    (.made (.deallocate last))
  exact ⟨small, e, opened, opened.layers_agree small, returned.layers_agree small,
    (returned.step (.made .allocate)).layers_agree small⟩

end Engine

end PagedStorage
