import PagedStorage.Proofs.Coherence
import PagedStorage.Proofs.PoolService

/-!
# The order of a flush

A flush of all pages takes the dirty frames as they come, and the order cannot be told from what it
leaves. Whether it succeeds is settled before the first page is written: a page that is saved may
make the file longer, but never long enough for a page that had no room (`savedAll_eq_none_iff`). When
it succeeds, the file has the bytes of every page and ends where the longest of them ends, and both
are said without the order (`blockAt_savedAll`, `savedAll_le_iff`).

The pins that a flush takes for its time are all given up again, so of a frame only the dirty flag
can have changed (`Stays`), also when it stops half way.
-/

namespace PagedStorage

theorem PageId.end_le (page : PageId) (pageSize : Nat) :
    page.index * pageSize + pageSize ≤ 0x100000000 * pageSize := by
  rw [← Nat.succ_mul]
  exact Nat.mul_le_mul_right pageSize page.index_lt

namespace Disk

variable {pageSize : Nat} {d d' : Disk pageSize}

/-- No page reaches this far, so no page that is written changes a byte here. -/
theorem byteAt_written_of_beyond (d : Disk pageSize) (page : PageId) (block : Block pageSize)
    (h : page.index + 1 < 0x100000000) {i : Nat} (beyond : 0x100000000 * pageSize ≤ i) :
    (d.written page block h).file.byteAt i = d.file.byteAt i := by
  have stop := page.end_le pageSize
  rw [file_written, File.byteAt_write, Vector.size_toArray, if_neg (by omega)]

/-- Every position below the end of the last page lies in the block of a page. -/
theorem byteAt_eq_of_blocks (blocks : ∀ page, d.blockAt page = d'.blockAt page) {i : Nat}
    (named : i < 0x100000000 * pageSize) : d.file.byteAt i = d'.file.byteAt i := by
  have some : 0 < pageSize := Nat.pos_of_mul_pos_left (Nat.zero_lt_of_lt named)
  have place : i / pageSize * pageSize + i % pageSize = i := Nat.div_add_mod' i pageSize
  have inside : i % pageSize < pageSize := Nat.mod_lt i some
  let page : PageId := ⟨i / pageSize, (Nat.div_lt_iff_lt_mul some).mpr named⟩
  have same := congrArg (fun block => block[i % pageSize]) (blocks page)
  simpa only [blockAt, Vector.getElem_ofFn, page, place] using same

end Disk

theorem File.toArray_eq {f g : File} (size : f.size = g.size)
    (bytes : ∀ i, f.byteAt i = g.byteAt i) : f.toArray = g.toArray := by
  apply Array.ext
  · simpa [File.toArray] using size
  · intro i hf hg
    simp [File.toArray, bytes]

namespace Pool

variable {size pageSize : Nat} {s t : Pool size pageSize} {order : List (PageId × Fin size)}

/-! ### What a flush leaves alone -/

/-- Frames keep their pages, bytes and pins, and the pool keeps its table, its free frames and its
order of use. Dirty flags, the file and the counts are left open. -/
structure Stays (s t : Pool size pageSize) : Prop where
  page : ∀ f, (t.frame f).page = (s.frame f).page
  bytes : ∀ f, (t.frame f).bytes = (s.frame f).bytes
  pins : ∀ f, (t.frame f).pins = (s.frame f).pins
  table : t.table = s.table
  free : t.free = s.free
  recency : t.recency = s.recency

namespace Stays

variable {u : Pool size pageSize}

theorem refl (s : Pool size pageSize) : s.Stays s :=
  ⟨fun _ => rfl, fun _ => rfl, fun _ => rfl, rfl, rfl, rfl⟩

theorem trans (first : s.Stays t) (second : t.Stays u) : s.Stays u := by
  constructor
  case page => exact fun f => (second.page f).trans (first.page f)
  case bytes => exact fun f => (second.bytes f).trans (first.bytes f)
  case pins => exact fun f => (second.pins f).trans (first.pins f)
  case table => exact second.table.trans first.table
  case free => exact second.free.trans first.free
  case recency => exact second.recency.trans first.recency

theorem saved (s : Pool size pageSize) (f : Fin size) (page : PageId) :
    s.Stays (s.saved f page) := by
  constructor
  case page => exact fun g => page_saved s f g page
  case bytes => exact fun g => bytes_saved s f g page
  case pins => exact (Spares.saved s f page).pins
  case table => exact table_saved s f page
  case free => exact free_saved s f page
  case recency => exact recency_saved s f page

theorem spoiled (s : Pool size pageSize) (f : Fin size) (page : PageId) :
    s.Stays (s.spoiled f page) :=
  ⟨fun _ => rfl, fun _ => rfl, fun _ => rfl, rfl, rfl, rfl⟩

theorem savedAll (order : List (PageId × Fin size)) (s : Pool size pageSize) :
    s.Stays (Pool.savedAll order s).2 :=
  savedAll_keeps refl (fun _ _ _ => trans) saved spoiled order s

end Stays

/-! ### What a flush makes of the file -/

/-- How far the file extends once all pages of a list are saved: as far as it did before, and as far
as each of them asks for. -/
theorem savedAll_le_iff {extent : Disk pageSize → Nat} {reach : PageId → Nat}
    (grows : ∀ (d : Disk pageSize) (page : PageId) block h,
      extent (d.written page block h) = max (extent d) (reach page))
    (h : s.Sound) (flushable : s.Flushable order) (done : (savedAll order s).1 = none) {n : Nat} :
    extent (savedAll order s).2.disk ≤ n ↔
      extent s.disk ≤ n ∧ ∀ entry ∈ order, reach entry.1 ≤ n := by
  -- Each page that is saved adds its own reach to the bound for the rest.
  induction order generalizing s with
  | nil => simp [savedAll]
  | cons entry rest ih =>
    obtain ⟨page, f⟩ := entry
    have held : (s.frame f).page = some page := flushable.held _ List.mem_cons_self
    have newer : (s.frame f).dirty = true := flushable.dirty _ List.mem_cons_self
    have next := (h.addressable f page held).1
    have grown : extent (s.saved f page).disk = max (extent s.disk) (reach page) := by
      rw [disk_saved_of_next s f next, if_pos newer, grows]
    rw [savedAll] at done ⊢
    split at done
    · next granted =>
      rw [if_pos granted, ih (h.saved held) (flushable.saved next) done, grown, Nat.max_le,
        List.forall_mem_cons, and_assoc]
    · cases done

/-- Where all dirty pages are saved, the order does not show in how far the file extends. -/
theorem extent_savedAll_perm (extent : Disk pageSize → Nat) {reach : PageId → Nat}
    (grows : ∀ (d : Disk pageSize) (page : PageId) block h,
      extent (d.written page block h) = max (extent d) (reach page))
    (h : s.Sound) {other : List (PageId × Fin size)} (listed : order.Perm s.dirtyFrames)
    (also : other.Perm s.dirtyFrames) (done : (savedAll order s).1 = none)
    (done' : (savedAll other s).1 = none) :
    extent (savedAll order s).2.disk = extent (savedAll other s).2.disk := by
  -- The two have the same bounds, since these are bounds on all that is listed.
  have bounds : ∀ n, extent (savedAll order s).2.disk ≤ n ↔ extent (savedAll other s).2.disk ≤ n := by
    intro n
    rw [savedAll_le_iff grows h (dirtyFrames_flushable h listed) done,
      savedAll_le_iff grows h (dirtyFrames_flushable h also) done']
    simp only [listed.mem_iff, also.mem_iff]
  exact Nat.le_antisymm ((bounds _).mpr (Nat.le_refl _)) ((bounds _).mp (Nat.le_refl _))

/-- Where all dirty pages are saved, the file has the bytes of every page. -/
theorem Proper.blockAt_savedAll (h : s.Proper fun _ => False) (listed : order.Perm s.dirtyFrames)
    (done : (savedAll order s).1 = none) (page : PageId) :
    (savedAll order s).2.disk.blockAt page = s.bytesOf page := by
  have leads := h.leads_savedAll (dirtyFrames_flushable h.sound listed).held
  have clean := clean_savedAll_dirtyFrames h.sound listed done
  rw [← leads.turns.bytesOf]
  -- A page that the pool does not hold has the bytes of its place anyway.
  by_cases holds : (savedAll order s).2.Holds page
  · exact (blockAt_of_clean leads.proper clean holds).2
  · exact (bytesOf_of_not_holds holds).symm

theorem byteAt_savedAll_of_beyond {i : Nat} (beyond : 0x100000000 * pageSize ≤ i)
    (order : List (PageId × Fin size)) (s : Pool size pageSize) :
    (savedAll order s).2.disk.file.byteAt i = s.disk.file.byteAt i := by
  apply savedAll_keeps (R := fun s t => t.disk.file.byteAt i = s.disk.file.byteAt i)
  case refl => exact fun _ => rfl
  case trans => exact fun _ _ _ first second => second.trans first
  case saved =>
    intro s f page
    rw [disk_saved]
    split
    · exact Disk.byteAt_written_of_beyond _ _ _ _ beyond
    · rfl
  case spoiled =>
    intro s f page
    have stop := page.end_le pageSize
    exact s.disk.byteAt_spoiled page _ (.inr (by omega))

/-- Two orders in which all dirty pages are saved leave the same file. -/
theorem Proper.file_savedAll_perm (h : s.Proper fun _ => False) {other : List (PageId × Fin size)}
    (listed : order.Perm s.dirtyFrames) (also : other.Perm s.dirtyFrames)
    (done : (savedAll order s).1 = none) (done' : (savedAll other s).1 = none) :
    (savedAll order s).2.disk.file.toArray = (savedAll other s).2.disk.file.toArray := by
  apply File.toArray_eq
  · exact extent_savedAll_perm (fun d => d.file.size) Disk.size_written h.sound listed also done
      done'
  · -- A position is in the block of some page, or no page that can be written reaches it.
    intro i
    rcases Nat.lt_or_ge i (0x100000000 * pageSize) with named | beyond
    · apply Disk.byteAt_eq_of_blocks _ named
      intro page
      rw [h.blockAt_savedAll listed done, h.blockAt_savedAll also done']
    · rw [byteAt_savedAll_of_beyond beyond, byteAt_savedAll_of_beyond beyond]

/-! ### Dirty frames -/

def dirtyCount (s : Pool size pageSize) : Nat :=
  (List.finRange size).countP fun f => (s.frame f).dirty

/-- The list of dirty frames has each of them once. -/
theorem length_dirtyFrames (h : s.Sound) (listed : order.Perm s.dirtyFrames) :
    order.length = s.dirtyCount := by
  have flushable := dirtyFrames_flushable h listed
  have frames : (order.map Prod.snd).Perm ((List.finRange size).filter fun f => (s.frame f).dirty) := by
    apply (List.perm_ext_iff_of_nodup flushable.nodup ((List.nodup_finRange size).filter _)).mpr
    intro f
    constructor
    · intro saved
      obtain ⟨entry, mem, rfl⟩ := List.mem_map.mp saved
      simpa using flushable.dirty entry mem
    · intro counted
      have newer : (s.frame f).dirty = true := by simpa using counted
      obtain ⟨page, held⟩ := h.page_of_dirty newer
      have dirty : (page, f) ∈ s.dirtyFrames := (mem_dirtyFrames_iff h).mpr ⟨held, newer⟩
      exact List.mem_map.mpr ⟨(page, f), listed.mem_iff.mpr dirty, rfl⟩
  rw [dirtyCount, List.countP_eq_length_filter, ← frames.length_eq, List.length_map]

/-- Nothing is newer than the file, or the file is open and has room for all that is. -/
def Savable (s : Pool size pageSize) : Prop :=
  (∀ f, (s.frame f).dirty = false) ∨
    s.disk.isOpen = true ∧ ∀ (page : PageId) (f : Fin size), s.table[page]? = some f →
      (s.frame f).dirty = true →
        page.index < s.disk.blockCount ∨ (page.index + 1) * pageSize ≤ s.disk.maxFileSize

theorem savable_iff (h : s.Sound) (reliable : s.disk.Reliable) (listed : order.Perm s.dirtyFrames) :
    s.Savable ↔ (savedAll order s).1 = none := by
  have listed_iff : ∀ page f, (page, f) ∈ order ↔
      s.table[page]? = some f ∧ (s.frame f).dirty = true := by
    intro page f
    rw [listed.mem_iff, mem_dirtyFrames_iff h, h.table_iff]
  simp only [savedAll_eq_none_iff, Disk.takes_iff_of_reliable reliable]
  constructor
  · rintro (clean | ⟨opened, room⟩) ⟨page, f⟩ mem
    · obtain ⟨-, newer⟩ := (listed_iff page f).mp mem
      simp [clean f] at newer
    · obtain ⟨resident, newer⟩ := (listed_iff page f).mp mem
      exact ⟨room page f resident newer, opened⟩
  · intro granted
    -- Whether the file is open matters only if there is something to save.
    by_cases clean : ∀ f, (s.frame f).dirty = false
    · exact .inl clean
    · right
      obtain ⟨f, newer⟩ := not_forall.mp clean
      have newer : (s.frame f).dirty = true := by simpa using newer
      obtain ⟨page, held⟩ := h.page_of_dirty newer
      have mem := (listed_iff page f).mpr ⟨(h.table_iff page f).mpr held, newer⟩
      refine ⟨(granted _ mem).2, ?_⟩
      intro q g resident dirty
      exact (granted _ ((listed_iff q g).mpr ⟨resident, dirty⟩)).1

/-- Some frame that a flush would have to pin has all the pins it can have. -/
def Overfull (s : Pool size pageSize) : Prop :=
  ∃ f, (s.frame f).dirty = true ∧ (s.frame f).pins + 1 = Frame.pinLimit

theorem overfull_iff (h : s.Sound) (listed : order.Perm s.dirtyFrames) :
    s.Overfull ↔ ¬ ∀ entry ∈ order, (s.frame entry.2).pins + 1 < Frame.pinLimit := by
  constructor
  · rintro ⟨f, newer, full⟩ room
    obtain ⟨page, held⟩ := h.page_of_dirty newer
    have dirty : (page, f) ∈ s.dirtyFrames := (mem_dirtyFrames_iff h).mpr ⟨held, newer⟩
    exact Nat.ne_of_lt (room _ (listed.mem_iff.mpr dirty)) full
  · intro full
    obtain ⟨page, f, mem, most⟩ :
        ∃ page f, (page, f) ∈ order ∧ Frame.pinLimit ≤ (s.frame f).pins + 1 := by simpa using full
    exact ⟨f, (dirtyFrames_flushable h listed).dirty _ mem, h.pins_full (Nat.not_lt.mpr most)⟩

end Pool

namespace GuardedPool

variable {size pageSize : Nat} {s t : GuardedPool size pageSize} {outcome : Outcome PoolReply}

/-- What a flush of all pages comes to if every dirty frame can be pinned once more. -/
structure FlushesAll (s : GuardedPool size pageSize) (outcome : Outcome PoolReply)
    (t : GuardedPool size pageSize) : Prop where
  /-- It succeeds exactly if all that is newer could be saved at the start, and counts it. -/
  done_iff : outcome = .done (.count s.pool.dirtyCount) ↔ s.pool.Savable
  refused : ¬ s.pool.Savable → ∃ e, outcome = .failed (.error e)
  stays : s.pool.Stays t.pool
  guards : t.guards = s.guards
  clean : s.pool.Savable → ∀ f, (t.pool.frame f).dirty = false
  /-- A frame is still dirty, or the file has its bytes. -/
  saved : ∀ (page : PageId) (f : Fin size), t.pool.table[page]? = some f →
    (t.pool.frame f).dirty = true ∨ page.index < t.pool.disk.blockCount ∧
      t.pool.disk.file.read? (page.index * pageSize) pageSize = some (t.pool.frame f).bytes
  /-- Any other order leaves the same file. -/
  unordered : s.pool.Savable → ∀ outcome' u, s.Steps .flushAll outcome' u →
    u.pool.disk.file.toArray = t.pool.disk.file.toArray ∧
      u.pool.disk.blockCount = t.pool.disk.blockCount
  /-- There is nothing left for a second flush. -/
  again : s.pool.Savable → ∀ outcome' u, t.Steps .flushAll outcome' u →
    outcome' = .done (.count 0) ∧ u = t

theorem Sound.proper_of_unwritten (h : s.Sound) (unwritten : s.hasWriter = false) :
    s.pool.Proper fun _ => False := by
  have none : (fun page => s.isWritten page = true) = fun _ => False := by
    funext page
    simp [isWritten_of_unwritten unwritten page]
  exact none ▸ h.proper

/-- While nobody writes, a flush of all pages is one of the dirty frames in some order. -/
theorem exists_order (unwritten : s.hasWriter = false) (steps : s.Steps .flushAll outcome t) :
    ∃ order, order.Perm s.pool.dirtyFrames ∧
      s.perform (Pool.flushFrames order) .count = (outcome, t) := by
  cases steps with
  | made =>
    have unmet := meetsWriter_of_unwritten unwritten s.pool.dirtyFrames
    have served : s.step .flushAll = s.serve .flushAll := if_neg (by simp [waitsForItself, unmet])
    exact ⟨s.pool.dirtyFrames, .refl _, by rw [served, serve_flushAll]⟩
  | flushed _ listed => exact ⟨_, listed, rfl⟩

theorem perform_flushFrames (h : s.pool.Sound) {order : List (PageId × Fin size)}
    (listed : order.Perm s.pool.dirtyFrames) (room : ¬ s.pool.Overfull) :
    s.perform (Pool.flushFrames order) .count =
      (match (Pool.savedAll order s.pool).1 with
        | none => .done (.count s.pool.dirtyCount)
        | some e => .failed (.error e),
      { s with pool := (Pool.savedAll order s.pool).2 }) := by
  have pinnable := not_not.mp (mt (Pool.overfull_iff h listed).mpr room)
  have ran := (Pool.flushFrames_eq h (Pool.dirtyFrames_flushable h listed) pinnable).sure
  rw [Pool.length_dirtyFrames h listed] at ran
  simp only [perform, Outcome.ofAction, ran]
  cases Pool.savedAll order s.pool with
  | mk refused pool => cases refused <;> rfl

/-- Where all frames are clean, a flush has nothing to do. -/
theorem flushAll_of_clean (h : s.pool.Sound) (unwritten : s.hasWriter = false)
    (clean : ∀ f, (s.pool.frame f).dirty = false) (steps : s.Steps .flushAll outcome t) :
    outcome = .done (.count 0) ∧ t = s := by
  obtain ⟨order, listed, ran⟩ := exists_order unwritten steps
  rw [Pool.dirtyFrames_eq_nil h clean, List.perm_nil] at listed
  subst listed
  cases ran
  exact ⟨rfl, rfl⟩

/-- A flush of all pages, in whatever order it takes them: whether it succeeds is settled at the
start, then the file has all that is newer and is the same in any order, and a second flush does
nothing. Otherwise no frame has lost bytes that the file does not have. A frame changes in nothing
but whether it is dirty. -/
theorem Reached.flushes_all (small : pageSize < 0x100000000) (reached : Reached s)
    (unwritten : s.hasWriter = false) (steps : s.Steps .flushAll outcome t) :
    (s.pool.Overfull → outcome = .failed (.fault .addOverflow)) ∧
      (¬ s.pool.Overfull → s.FlushesAll outcome t) := by
  have proper := (reached.sound small).proper_of_unwritten unwritten
  have h := proper.sound
  obtain ⟨order, listed, ran⟩ := exists_order unwritten steps
  refine ⟨fun full => ?_, fun room => ?_⟩
  · have flushable := Pool.dirtyFrames_flushable h listed
    obtain ⟨pool, stopped, -⟩ :=
      Pool.flushFrames_overflow flushable ((Pool.overfull_iff h listed).mp full)
    simp only [perform, Outcome.ofAction, stopped, Outcome.map] at ran
    exact (Prod.mk.inj ran).1.symm
  · have leads := proper.leads_savedAll (Pool.dirtyFrames_flushable h listed).held
    have savable_iff := Pool.savable_iff h proper.reliable listed
    rw [perform_flushFrames h listed room] at ran
    obtain ⟨rfl, rfl⟩ := Prod.mk.inj ran
    constructor
    case done_iff =>
      rw [savable_iff]
      cases (Pool.savedAll order s.pool).1 <;> simp
    case refused =>
      rw [savable_iff]
      cases (Pool.savedAll order s.pool).1 <;> simp
    case stays => exact .savedAll order s.pool
    case guards => rfl
    case clean =>
      intro savable
      exact Pool.clean_savedAll_dirtyFrames h listed (savable_iff.mp savable)
    case saved =>
      intro page f resident
      have held := (leads.proper.sound.table_iff page f).mp resident
      cases newer : ((Pool.savedAll order s.pool).2.frame f).dirty with
      | true => exact .inl rfl
      | false =>
        obtain ⟨counted, same⟩ := leads.proper.coherent f page held newer id
        rw [Disk.read?_eq, if_pos (leads.proper.counted.reaches counted), same]
        exact .inr ⟨counted, rfl⟩
    case unordered =>
      intro savable outcome' u also
      obtain ⟨other, listed', ran'⟩ := exists_order unwritten also
      rw [perform_flushFrames h listed' room] at ran'
      obtain ⟨-, rfl⟩ := Prod.mk.inj ran'
      have done := savable_iff.mp savable
      have done' := (Pool.savable_iff h proper.reliable listed').mp savable
      exact ⟨proper.file_savedAll_perm listed' listed done' done,
        Pool.extent_savedAll_perm Disk.blockCount Disk.blockCount_written h listed' listed done' done⟩
    case again =>
      intro savable outcome' u second
      exact flushAll_of_clean leads.proper.sound unwritten
        (Pool.clean_savedAll_dirtyFrames h listed (savable_iff.mp savable)) second

/-- A pool with two frames, over a new file that may grow to four pages of two bytes. -/
def newPair : GuardedPool 2 2 :=
  ⟨⟨Vector.replicate 2 .empty, ∅, List.finRange 2, .empty, .ofNew 8, {}⟩, []⟩

/-- Two pages are written and flushed, the later one first. -/
theorem flushes_all_backwards :
    let first : PageId := ⟨1, by decide⟩
    let last : PageId := ⟨3, by decide⟩
    let s := ((newPair.step (.write last #[7, 9])).2.step (.write first #[5, 6])).2
    let flushed := s.perform (Pool.flushFrames [(last, 0), (first, 1)]) .count
    s.hasWriter = false ∧ s.Steps .flushAll flushed.1 flushed.2 ∧
      ¬ s.pool.Overfull ∧ s.pool.Savable ∧ s.pool.dirtyCount = 2 ∧
      (s.pool.Overfull → flushed.1 = .failed (.fault .addOverflow)) ∧
      (¬ s.pool.Overfull → s.FlushesAll flushed.1 flushed.2) := by
  intro first last s flushed
  have after_last : last.index + 1 < 0x100000000 := by decide
  have after_first : first.index + 1 < 0x100000000 := by decide
  have start : Reached newPair := .created (show Pool.ofDisk (Disk.ofNew 8) = .ok _ from rfl)
  have wrote_last : (newPair.step (.write last #[7, 9])).1 = .done .done := by decide +kernel
  have wrote_first : ((newPair.step (.write last #[7, 9])).2.step (.write first #[5, 6])).1 =
      .done .done := by decide +kernel
  have once : Reached (newPair.step (.write last #[7, 9])).2 :=
    .step start (show (PoolRequest.write last _).Numbered from after_last) (.made _)
      (by simp [wrote_last])
  have reached : Reached s :=
    .step once (show (PoolRequest.write first _).Numbered from after_first) (.made _)
      (by simp [wrote_first])
  have unwritten : s.hasWriter = false := by decide +kernel
  have sound := reached.sound (by decide)
  have dirty : s.pool.dirtyFrames = [(first, 1), (last, 0)] := by decide +kernel
  have backwards : [(last, (0 : Fin 2)), (first, 1)].Perm s.pool.dirtyFrames := dirty ▸ .swap ..
  have steps : s.Steps .flushAll flushed.1 flushed.2 :=
    .flushed (meetsWriter_of_unwritten unwritten _) backwards
  have roomy : ¬ s.pool.Overfull := by
    rintro ⟨f, -, most⟩
    -- No guard is held, so no frame has a pin.
    have none : s.guards = [] := rfl
    rw [sound.pins f, none, List.countP_nil] at most
    exact absurd most (by decide)
  have savable : s.pool.Savable := by
    apply (Pool.savable_iff sound.proper.sound sound.proper.reliable backwards).mpr
    apply Pool.savedAll_eq_none_iff.mpr
    decide +kernel
  exact ⟨unwritten, steps, roomy, savable, by decide +kernel,
    reached.flushes_all (by decide) unwritten steps⟩

end GuardedPool

end PagedStorage
