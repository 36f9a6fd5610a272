import PagedStorage.Proofs.PoolTransparency

/-!
# Pools that refuse nothing

A pool with a frame, without pins, over an open file that has room for every resident page can always
make room as long as the operating system fails no call: the page that was used longest ago can be
saved, and so it can leave. Requests for pages that the pool holds are then always answered.

This is the pool of an engine that is asked one thing at a time. The count of hits and misses grows
by one for each page that is read or written, and for nothing else.
-/

namespace PagedStorage.Pool

variable {size pageSize : Nat} {s t : Pool size pageSize} {f : Fin size} {page : PageId}
  {fill : Fill pageSize} {after : PageId → Block pageSize}

structure Willing (s : Pool size pageSize) : Prop where
  some_frame : 0 < size
  unpinned : ∀ f, (s.frame f).pins = 0
  isOpen : s.disk.isOpen = true
  reliable : s.disk.Reliable
  room : ∀ f page, (s.frame f).page = some page → s.disk.HasRoom page

def requests (s : Pool size pageSize) : Nat := s.counters.hits + s.counters.misses

/-- A request for one page that was answered. -/
structure Serves (s : Pool size pageSize) (page : PageId) (asked : Nat) (t : Pool size pageSize)
    (after : PageId → Block pageSize) : Prop where
  leads : Leads (fun _ => False) s t after
  holds : t.Holds page
  resident : ∀ q, t.table[q]?.isSome → s.table[q]?.isSome ∨ q = page
  requests_eq : t.requests = s.requests + asked
  /-- The file grows no further than the pages that were resident reach. -/
  blockCount_le : ∀ n, s.disk.blockCount ≤ n → (∀ q : PageId, s.table[q]?.isSome → q.index < n) →
    t.disk.blockCount ≤ n

/-- A flush of all pages that was answered. -/
structure Saves (s t : Pool size pageSize) : Prop where
  leads : Leads (fun _ => False) s t s.bytesOf
  clean : ∀ f, (t.frame f).dirty = false
  table : t.table = s.table
  requests_eq : t.requests = s.requests
  blockCount_le : ∀ n, s.disk.blockCount ≤ n → (∀ q : PageId, s.table[q]?.isSome → q.index < n) →
    t.disk.blockCount ≤ n

/-! ### Room can always be made -/

/-- Every resident page can be saved. -/
theorem Willing.takes (willing : s.Willing) (held : (s.frame f).page = some page) :
    s.disk.Takes page :=
  (Disk.takes_iff_of_reliable willing.reliable).mpr ⟨willing.room f page held, willing.isOpen⟩

theorem Willing.not_lacksRoom (willing : s.Willing) {e : StoreError} (lacks : s.LacksRoom e t) :
    False := by
  cases lacks with
  | saturated full pinned =>
    -- There is a frame, and it is not pinned.
    have busy := pinned ⟨0, willing.some_frame⟩
    simp [Frame.isPinned, willing.unpinned] at busy
  | stuck full oldest held newer refused =>
    exact refused (willing.takes held)

theorem requests_saved (s : Pool size pageSize) (f : Fin size) (page : PageId) :
    (s.saved f page).requests = s.requests := by
  unfold saved
  split <;> rfl

theorem blockCount_saved_le (f : Fin size) {n : Nat} (counted : s.disk.blockCount ≤ n)
    (below : page.index < n) : (s.saved f page).disk.blockCount ≤ n := by
  unfold saved
  split
  · next newer =>
    have reached := s.disk.blockCount_written page (s.frame f).bytes newer.2
    exact Nat.le_trans (Nat.le_of_eq reached) (Nat.max_le.mpr ⟨counted, below⟩)
  · exact counted

theorem blockCount_savedAll_le {order : List (PageId × Fin size)} {n : Nat}
    (counted : s.disk.blockCount ≤ n) (below : ∀ entry ∈ order, entry.1.index < n) :
    (savedAll order s).2.disk.blockCount ≤ n := by
  induction order generalizing s with
  | nil => exact counted
  | cons entry rest ih =>
    -- Each page that is saved lies below `n`, so the file still ends there.
    rw [savedAll]
    split
    · apply ih
      · exact blockCount_saved_le _ counted (below entry List.mem_cons_self)
      · exact fun e listed => below e (List.mem_cons_of_mem _ listed)
    · rw [spoiled, Disk.blockCount_spoiled]
      exact counted

theorem requests_savedAll (order : List (PageId × Fin size)) (s : Pool size pageSize) :
    (savedAll order s).2.requests = s.requests :=
  savedAll_keeps (R := fun s t => t.requests = s.requests) (fun _ => rfl)
    (fun _ _ _ first second => second.trans first) requests_saved (fun _ _ _ => rfl) order s

namespace MakesRoom

theorem requests_eq (room : s.MakesRoom t f) : t.requests = s.requests := by
  cases room with
  | free => rfl
  | evict full oldest held saves => exact requests_saved ..

theorem resident (room : s.MakesRoom t f) (q : PageId) (there : t.table[q]?.isSome) :
    s.table[q]?.isSome := by
  cases absent : s.table[q]? with
  | some => rfl
  | none => simp [room.absent_of_absent absent] at there

theorem blockCount_le (room : s.MakesRoom t f) (h : s.Sound) {n : Nat}
    (counted : s.disk.blockCount ≤ n) (below : ∀ q : PageId, s.table[q]?.isSome → q.index < n) :
    t.disk.blockCount ≤ n := by
  cases room with
  | free => exact counted
  | @evict f victim full oldest held saves =>
    apply blockCount_saved_le f counted
    apply below
    rw [(h.table_iff victim f).mpr held]
    rfl

/-- Making room lets go of no page that the pool holds. -/
theorem source_load (room : s.MakesRoom t f) (h : s.Proper fun _ => False)
    (isOpen : s.disk.isOpen = true) (holds : s.Holds page) (absent : s.table[page]? = none) :
    Fill.load.source t.disk page = .ok (t.disk.blockAt page, false) := by
  have made := room.leads h
  have gone := room.absent_of_absent absent
  have opened : t.disk.isOpen = true := made.turns.isOpen_eq.trans isOpen
  rcases made.turns.holds page holds with there | inside
  · simp [gone] at there
  · have reached := made.proper.counted.reaches inside
    apply source_load_eq_ok_iff.mpr
    rw [Disk.block?_of_reliable made.proper.reliable, if_neg (Nat.not_le.mpr inside), if_pos opened,
      if_pos reached]
    exact ⟨rfl, rfl⟩

end MakesRoom

namespace Admits

/-- The page that was asked for is the only one that comes in. -/
theorem resident {r : Except StoreError (Fin size)} (admits : s.Admits page fill r t) (q : PageId)
    (there : t.table[q]?.isSome) : s.table[q]?.isSome ∨ q = page := by
  cases admits with
  | full lacks =>
    cases lacks with
    | saturated => exact .inl there
    | stuck => exact .inl there
  | unread room => exact .inl (room.resident q there)
  | @enters f t bytes dirty room source =>
    have entered : (t.admitted f page bytes dirty).table[q]?.isSome := there
    rw [table_admitted] at entered
    split at entered
    · next same => exact .inr same.symm
    · exact .inl (room.resident q entered)

theorem requests_eq (admits : s.Admits page fill (.ok f) t) : t.requests = s.requests := by
  cases admits with
  | @enters f t bytes dirty room source =>
    rw [← room.requests_eq]
    cases dirty <;> rfl

theorem blockCount_le (admits : s.Admits page fill (.ok f) t) (h : s.Sound) {n : Nat}
    (counted : s.disk.blockCount ≤ n) (below : ∀ q : PageId, s.table[q]?.isSome → q.index < n) :
    t.disk.blockCount ≤ n := by
  cases admits with
  | enters room source => exact room.blockCount_le h counted below

/-- A willing pool brings in what it is given, and what it holds. -/
theorem of_willing {r : Except StoreError (Fin size)} (admits : s.Admits page fill r t)
    (h : s.Proper fun _ => False) (willing : s.Willing) (absent : s.table[page]? = none)
    (known : fill = .load → s.Holds page) : ∃ f, r = .ok f := by
  cases admits with
  | full lacks => exact (willing.not_lacksRoom lacks).elim
  | enters => exact ⟨_, rfl⟩
  | unread room source =>
    cases fill with
    | put => cases source
    | load =>
      -- The page is not resident, so the pool holds it in the file, where it can be read.
      rw [room.source_load h willing.isOpen (known rfl) absent] at source
      cases source

end Admits

/-! ### Requests that are always answered -/

theorem Willing.tallied (willing : s.Willing) (change : Counters → Counters) :
    (s.tallied change).Willing :=
  ⟨willing.some_frame, willing.unpinned, willing.isOpen, willing.reliable, willing.room⟩

theorem Willing.pin_room (willing : s.Willing) (f : Fin size) :
    (s.frame f).pins + 1 < Frame.pinLimit := by
  rw [willing.unpinned]
  decide

theorem requests_used (s : Pool size pageSize) (f : Fin size) :
    (s.used f).requests = s.requests + 1 := by
  exact Nat.add_right_comm s.counters.hits 1 s.counters.misses

theorem requests_missed (s : Pool size pageSize) :
    (s.tallied missCounted).requests = s.requests + 1 := rfl

section Requests

variable (h : s.Proper fun _ => False) (willing : s.Willing)
  (addressable : page.Addressable pageSize)
include h willing addressable

/-- A miss of a willing pool. -/
theorem serves_of_admits {r : Except StoreError (Fin size)} {change : Counters → Counters}
    {asked : Nat} (absent : s.table[page]? = none)
    (admits : (s.tallied change).Admits page fill r t) (known : fill = .load → s.Holds page)
    (counted : (s.tallied change).requests = s.requests + asked) :
    ∃ f, r = .ok f ∧ (t.frame f).page = some page ∧
      s.Serves page asked t (fill.bytesAfter s page) := by
  obtain ⟨f, rfl⟩ := admits.of_willing (h.tallied change) (willing.tallied change) absent known
  obtain ⟨leads, held, -⟩ := admits.spec h absent addressable
  exact ⟨f, rfl, held, leads, holds_of_frame leads.proper.sound held, admits.resident,
    admits.requests_eq.trans counted, fun n => admits.blockCount_le (h.sound.tallied change)⟩

theorem read_serves (holds : s.Holds page) :
    ∃ t, read page s = .ok (s.bytesOf page) t ∧ s.Serves page 1 t s.bytesOf := by
  cases resident : s.table[page]? with
  | some f =>
    have held := (h.sound.table_iff page f).mp resident
    have ran : read page s = .ok (s.bytesOf page) (s.used f) := by
      rw [read_hit h.sound resident (willing.pin_room f), bytesOf_of_frame h.sound held]
    exact ⟨s.used f, ran, h.leads_used held, holds, fun q => .inl, requests_used s f,
      fun n counted _ => counted⟩
  | none =>
    obtain ⟨r, t, admits, ran⟩ := (read_miss h.sound resident addressable).sure
    obtain ⟨f, rfl, held, serves⟩ :=
      serves_of_admits h willing addressable resident admits (fun _ => holds) (requests_missed s)
    have shown : (t.frame f).bytes = s.bytesOf page := by
      rw [← bytesOf_of_frame serves.leads.proper.sound held]
      exact serves.leads.turns.bytesOf page
    exact ⟨t, shown ▸ ran, serves⟩

theorem writeBlock_serves (block : Block pageSize) :
    ∃ t, writeBlock page block s = .ok () t ∧
      s.Serves page 1 t (Function.update s.bytesOf page block) := by
  cases resident : s.table[page]? with
  | some f =>
    have held := (h.sound.table_iff page f).mp resident
    have kept : ((s.used f).frame f).page = some page := by simpa using held
    have there : s.Holds page := holds_of_frame h.sound held
    have leads := ((h.leads_used held).filled kept block).1
    exact ⟨_, writeBlock_hit h.sound resident (willing.pin_room f) block, leads, there,
      fun q => .inl, requests_used s f, fun n counted _ => counted⟩
  | none =>
    obtain ⟨r, t, admits, ran⟩ := (writeBlock_miss h.sound resident addressable block).sure
    obtain ⟨f, rfl, -, serves⟩ :=
      serves_of_admits h willing addressable resident admits (fun put => by cases put)
        (requests_missed s)
    exact ⟨t, ran, serves⟩

theorem create_serves :
    ∃ t, create page s = .ok () t ∧
      s.Serves page 0 t (Function.update s.bytesOf page .zero) := by
  cases resident : s.table[page]? with
  | some f =>
    have held := (h.sound.table_iff page f).mp resident
    have unpinned : ¬ (s.frame f).isPinned = true := by simp [Frame.isPinned, willing.unpinned]
    have kept : ((s.touched f).frame f).page = some page := by simpa using held
    have there : s.Holds page := holds_of_frame h.sound held
    have leads := ((h.leads_touched held).filled kept .zero).1
    exact ⟨_, (create_hit resident).trans (if_neg unpinned), leads, there, fun q => .inl, rfl,
      fun n counted _ => counted⟩
  | none =>
    obtain ⟨r, t, admits, ran⟩ := (create_miss h.sound resident addressable).sure
    -- A page that is made is not counted as a miss.
    have admits : (s.tallied id).Admits page (.put .zero) r t := admits
    obtain ⟨f, rfl, -, serves⟩ :=
      serves_of_admits h willing addressable resident admits (fun put => by cases put)
        (Nat.add_zero _).symm
    exact ⟨t, ran, serves⟩

end Requests

theorem invalidate_drops (h : s.Proper fun _ => False) (willing : s.Willing) (page : PageId) :
    ∃ dropped t, invalidate page s = .ok dropped t ∧ Drops (fun _ => False) s t page ∧
      t.requests = s.requests := by
  have spec := invalidate_spec h page
  rw [invalidate_eq] at spec ⊢
  cases resident : s.table[page]? with
  | none =>
    exact ⟨false, s, rfl, ⟨h, Spares.refl s, resident, fun _ _ => rfl, fun _ _ => rfl,
      fun _ _ => Iff.rfl, rfl⟩, rfl⟩
  | some f =>
    have unpinned : ¬ (s.frame f).isPinned = true := by simp [Frame.isPinned, willing.unpinned]
    simp only [resident, if_neg unpinned] at spec
    exact ⟨true, _, if_neg unpinned, spec, rfl⟩

theorem flushFrames_saves (h : s.Proper fun _ => False) (willing : s.Willing)
    {order : List (PageId × Fin size)} (listed : order.Perm s.dirtyFrames) :
    ∃ n t, flushFrames order s = .ok n t ∧ s.Saves t := by
  have flushable := dirtyFrames_flushable h.sound listed
  have spec := flushFrames_spec h listed
  have refused : (savedAll order s).1 = none := by
    apply savedAll_eq_none_iff.mpr
    intro entry mem
    exact willing.takes (flushable.held entry mem)
  have table := table_savedAll order s
  have requests := requests_savedAll order s
  -- A dirty frame holds a resident page, which lies below every bound on these.
  have grown : ∀ n, s.disk.blockCount ≤ n → (∀ q : PageId, s.table[q]?.isSome → q.index < n) →
      (savedAll order s).2.disk.blockCount ≤ n := by
    intro n counted below
    apply blockCount_savedAll_le counted
    intro entry mem
    apply below
    rw [(h.sound.table_iff entry.1 entry.2).mpr (flushable.held entry mem)]
    rfl
  have ran := (flushFrames_eq h.sound flushable fun entry _ => willing.pin_room entry.2).sure
  generalize savedAll order s = saving at ran refused table requests grown
  obtain ⟨why, t⟩ := saving
  obtain rfl : why = none := refused
  rw [ran] at spec
  exact ⟨order.length, t, ran, spec.1, spec.2, table, requests, grown⟩

/-- Where no frame is dirty, the file has every page. -/
theorem blockAt_of_clean (h : s.Proper fun _ => False) (clean : ∀ f, (s.frame f).dirty = false)
    (holds : s.Holds page) :
    page.index < s.disk.blockCount ∧ s.disk.blockAt page = s.bytesOf page := by
  cases resident : s.table[page]? with
  | some f =>
    have held := (h.sound.table_iff page f).mp resident
    rw [bytesOf_of_frame h.sound held]
    exact h.coherent f page held (clean f) id
  | none =>
    -- A page that is held but not resident is in the file already.
    rcases holds with there | counted
    · simp [resident] at there
    · exact ⟨counted, (bytesOf_of_absent resident).symm⟩

end PagedStorage.Pool
