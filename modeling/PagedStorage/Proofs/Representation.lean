import Mathlib.Data.Fintype.Card
import PagedStorage.Proofs.Latches

/-!
# What a pool records

A pool records the same things in several places: which page is where, in its table and in its
frames; which frames are empty, in the frames and in a list; which may be evicted, in the pins and in
the order of use. After every run these records agree with each other and with the guards that are
held (`Represents`), however the requests of the run have ended, and so no pin is ever given up that
was not taken.

A run makes its requests one after the other, and meanwhile anything may happen to the file: it may
be changed, cut off, or be at the end of a handle that is of no use any more (`Runs.meanwhile`). What
the operating system is going to answer goes with the handle, so it may fail any of the calls that the
next request makes, after some of the bytes were moved.
-/

namespace PagedStorage

/-! ### Free and resident frames -/

/-- Every frame is free or in the table, and none is both. -/
theorem Pool.SoundAt.freeCount_add_residentCount {size pageSize n : Nat} {s : Pool size pageSize}
    (h : s.SoundAt n) : s.freeCount + s.residentCount = size := by
  have listed : ∀ f, f ∈ s.table.toList.map Prod.snd ↔ ∃ page, (s.frame f).page = some page := by
    intro f
    simp only [List.mem_map, Prod.exists, Std.ExtTreeMap.mem_toList_iff_getElem?_eq_some,
      h.table_iff, exists_eq_right]
  have apart : List.Disjoint s.free (s.table.toList.map Prod.snd) := by
    intro f free there
    obtain ⟨page, held⟩ := (listed f).mp there
    exact h.not_mem_free held free
  have all : ∀ f, f ∈ s.free ++ s.table.toList.map Prod.snd := by
    intro f
    rw [List.mem_append, h.mem_free_iff, listed, ← Option.ne_none_iff_exists']
    exact Classical.em _
  have nodup := List.nodup_append'.mpr ⟨h.free_nodup, h.frames_nodup, apart⟩
  -- A list of all frames that has none twice has as many entries as there are frames.
  have count : (s.free ++ s.table.toList.map Prod.snd).length = size := by
    rw [← List.toFinset_card_of_nodup nodup,
      Finset.eq_univ_iff_forall.mpr fun f => List.mem_toFinset.mpr (all f), Finset.card_univ,
      Fintype.card_fin]
  rwa [List.length_append, List.length_map, Std.ExtTreeMap.length_toList] at count

namespace GuardedPool

variable {size pageSize : Nat} {s t : GuardedPool size pageSize}

/-! ### Records that agree -/

structure Represents (s : GuardedPool size pageSize) : Prop where
  table_inj : ∀ (p q : PageId) (f : Fin size),
    s.pool.table[p]? = some f → s.pool.table[q]? = some f → p = q
  table_iff : ∀ (page : PageId) (f : Fin size),
    s.pool.table[page]? = some f ↔ (s.pool.frame f).page = some page
  free_nodup : s.pool.free.Nodup
  /-- A frame is free, or it is that of a page in the table. -/
  mem_free_iff : ∀ f, f ∈ s.pool.free ↔ ¬ ∃ page : PageId, s.pool.table[page]? = some f
  /-- A free frame has no page, no pins and no newer bytes, and all its bytes are zero. -/
  empty_of_free : ∀ f ∈ s.pool.free, s.pool.frame f = .empty
  size_bytes : ∀ f, (s.pool.frame f).bytes.toArray.size = pageSize
  tracked_iff : ∀ f, s.pool.recency.usage[f]?.isSome ↔ ∃ page : PageId, s.pool.table[page]? = some f
  evictable_iff : ∀ f u, s.pool.recency.usage[f]? = some u →
    (u.evictable = true ↔ (s.pool.frame f).pins = 0)
  /-- The candidates for eviction are the evictable frames, by the time of their last use. -/
  candidate_iff : ∀ (time : Nat) (f : Fin size),
    s.pool.recency.candidates[time]? = some f ↔ s.pool.recency.usage[f]? = some ⟨time, true⟩
  /-- The pins of a page are the guards held on it. -/
  pins_eq : ∀ (page : PageId) (f : Fin size), s.pool.table[page]? = some f →
    (s.pool.frame f).pins = s.guards.countP fun entry => entry.2.page = page
  /-- A page with a guard is where the guard says. -/
  resident : ∀ entry ∈ s.guards, s.pool.table[entry.2.page]? = some entry.2.frame
  count_eq : s.pool.freeCount + s.pool.residentCount = size

theorem Latched.represented (h : s.Latched) : s.Represents := by
  have sound := h.sound
  constructor
  case table_inj =>
    intro p q f first second
    rw [sound.table_iff] at first second
    exact Option.some.inj (first.symm.trans second)
  case table_iff => exact sound.table_iff
  case free_nodup => exact sound.free_nodup
  case mem_free_iff =>
    intro f
    simp only [sound.mem_free_iff, sound.table_iff, ← Option.ne_none_iff_exists', not_not]
  case empty_of_free => exact fun f free => sound.empty_of_free f ((sound.mem_free_iff f).mp free)
  case size_bytes => exact fun f => Vector.size_toArray _
  case tracked_iff =>
    intro f
    have standing := congrArg Option.isSome (sound.standing_eq f)
    simp only [Recency.standing, Option.isSome_map] at standing
    simp only [standing, sound.table_iff, Option.isSome_iff_exists]
  case evictable_iff =>
    intro f u known
    have standing := sound.standing_eq f
    rw [Recency.standing, known] at standing
    obtain ⟨page, -, same⟩ := Option.map_eq_some_iff.mp standing.symm
    simp [← same, Frame.isPinned]
  case candidate_iff => exact sound.recency.candidate_iff
  case pins_eq => exact fun page f => h.pins_eq
  case resident => exact fun entry => h.resident
  case count_eq => exact sound.freeCount_add_residentCount

/-- A page that has all the pins it can have has all the guards it can have. -/
theorem Latched.of_full (h : s.Latched) {why : Fault} (full : s.pool.Full why) :
    why = .addOverflow ∧ ∃ page, (s.guards.countP fun entry => entry.2.page = page) + 1 =
      Frame.pinLimit := by
  obtain ⟨same, f, most⟩ := full (Nat.le_refl pageSize)
  refine ⟨same, ?_⟩
  -- A frame with all these pins is not free, so they are the guards on its page.
  cases held : (s.pool.frame f).page with
  | none =>
    rw [h.sound.empty_of_free f held] at most
    simp [Frame.empty, Frame.pinLimit] at most
  | some page => exact ⟨page, h.pins_eq ((h.sound.table_iff page f).mpr held) ▸ most⟩

/-! ### Runs -/

/-- The pool over another file, or another handle on it. -/
def rebased (s : GuardedPool size pageSize) (disk : Disk pageSize) : GuardedPool size pageSize :=
  { s with pool := { s.pool with disk } }

/-- Requests with their outcomes, none of them a fault, and what they make of a pool. -/
inductive Runs : GuardedPool size pageSize → List (PoolRequest × Outcome PoolReply) →
    GuardedPool size pageSize → Prop
  | nil (s : GuardedPool size pageSize) : Runs s [] s
  | cons {s t u : GuardedPool size pageSize} {request : PoolRequest}
      {outcome : Outcome PoolReply} {history : List (PoolRequest × Outcome PoolReply)}
      (numbered : request.Numbered) (steps : s.Steps request outcome t)
      (unbroken : ∀ why, outcome ≠ .failed (.fault why)) (rest : Runs t history u) :
      Runs s ((request, outcome) :: history) u
  | meanwhile {s t : GuardedPool size pageSize} {history : List (PoolRequest × Outcome PoolReply)}
      (disk : Disk pageSize) (rest : Runs (s.rebased disk) history t) : Runs s history t

theorem LatchedAt.rebased {n : Nat} (h : s.LatchedAt n) (disk : Disk pageSize) :
    (s.rebased disk).LatchedAt n :=
  ⟨h.sound.rebased .., ⟨h.matched.names, h.matched.frames, h.matched.pins⟩, h.alone⟩

theorem latched_ofDisk {n : Nat} {disk : Disk pageSize} {pool : Pool size pageSize}
    (made : Pool.ofDisk disk = .ok pool) : LatchedAt n ⟨pool, []⟩ := by
  refine ⟨Pool.sound_ofDisk made, ⟨List.nodup_nil, nofun, ?_⟩, nofun⟩
  intro f
  rw [Pool.frame_ofDisk made]
  rfl

namespace Runs

variable {history : List (PoolRequest × Outcome PoolReply)}

theorem latched (runs : Runs s history t) (h : s.Latched) (small : pageSize < 0x100000000) :
    t.Latched := by
  -- `LatchedAt.steps` is one request, and nothing is asked of the file behind the pool.
  induction runs with
  | nil => exact h
  | cons numbered steps unbroken _ ih =>
    exact ih (h.moved ((h.steps small numbered steps).unbroken unbroken))
  | meanwhile disk _ ih => exact ih (h.rebased disk)

/-- After every run the records of a pool agree, and the next request can meet no fault but that of
a page that has all the guards it can have. -/
theorem represents_of_made (small : pageSize < 0x100000000) {disk : Disk pageSize}
    {pool : Pool size pageSize} (made : Pool.ofDisk disk = .ok pool)
    (runs : Runs ⟨pool, []⟩ history s) :
    s.Represents ∧ ∀ request outcome t why, request.Numbered → s.Steps request outcome t →
      outcome = .failed (.fault why) →
        why = .addOverflow ∧ ∃ page, (s.guards.countP fun entry => entry.2.page = page) + 1 =
          Frame.pinLimit := by
  have latched := runs.latched (latched_ofDisk made) small
  refine ⟨latched.represented, ?_⟩
  rintro request outcome t why numbered steps rfl
  exact latched.of_full (latched.steps small numbered steps)

/-- A page is made and held by a reader, and the file is lost before the page is flushed. -/
theorem represents_of_failure :
    let page : PageId := ⟨1, by decide⟩
    ∃ s : GuardedPool 1 2,
      Runs oneFrame
        [(.create page, .done .done),
          (.fetch page .shared "r", .done (.pinned ⟨page, #[0, 0]⟩ ⟨0⟩)),
          (.flush page, .failed (.error .closed))] s ∧
      s.pool.pinCount? page = some 1 ∧ s.Represents ∧
      ∀ request outcome t why, request.Numbered → s.Steps request outcome t →
        outcome = .failed (.fault why) →
          why = .addOverflow ∧ ∃ page, (s.guards.countP fun entry => entry.2.page = page) + 1 =
            Frame.pinLimit := by
  intro page
  have next : page.index + 1 < 0x100000000 := by decide
  let lost : Disk 2 := ⟨8, 0, false, .empty, .reliable, by decide⟩
  refine ⟨?last, ?runs, ?pins, represents_of_made (by decide) rfl ?runs⟩
  case runs =>
    refine .cons next (.made _) nofun ?_
    refine .cons next (.made _) nofun ?_
    refine .meanwhile lost ?_
    refine .cons next (.made _) nofun ?_
    exact .nil _
  case pins => rfl

end Runs

end GuardedPool

end PagedStorage
