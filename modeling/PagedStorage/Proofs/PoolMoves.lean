import PagedStorage.Pool
import PagedStorage.Proofs.Blocks
import PagedStorage.Proofs.Recency

/-!
# The moves of a pool

Whatever a pool does is made of a few moves: a frame is pinned or unpinned, its page is used, its
bytes are replaced or saved to the file, and a page enters or leaves a frame. Each move is a function
on states here, and so is what a save leaves that the operating system gave up midway.

A pool is sound when its parts tell the same story: the table and the frames name the same pages, the
frames without a page are the free ones and are empty, the frames with a page are tracked, and those
without a pin may be evicted. Each move keeps a pool sound, whatever the file may be.

The end of a large page may be no offset. Then a pool is still sound but for the places of its pages
(`SoundAt`).
-/

namespace PagedStorage.Pool

variable {size pageSize : Nat}

/-! ### Soundness -/

/-- Every resident page has a successor, and would end at an offset if pages had `n` bytes. For pages
of no bytes this says nothing about offsets. -/
structure SoundAt (n : Nat) (s : Pool size pageSize) : Prop where
  table_iff : ∀ (page : PageId) (f : Fin size),
    s.table[page]? = some f ↔ (s.frame f).page = some page
  free_nodup : s.free.Nodup
  mem_free_iff : ∀ f, f ∈ s.free ↔ (s.frame f).page = none
  empty_of_free : ∀ f, (s.frame f).page = none → s.frame f = .empty
  recency : s.recency.Sound
  /-- The frames with a page are tracked, and those without a pin may be evicted. -/
  standing_eq : ∀ f, s.recency.standing f = (s.frame f).page.map fun _ => !(s.frame f).isPinned
  pins_lt : ∀ f, (s.frame f).pins < Frame.pinLimit
  addressable : ∀ f page, (s.frame f).page = some page → page.Addressable n

/-- The resident pages end at offsets. -/
abbrev Sound (s : Pool size pageSize) : Prop := s.SoundAt pageSize

/-! ### The moves -/

def tallied (s : Pool size pageSize) (change : Counters → Counters) : Pool size pageSize :=
  { s with counters := change s.counters }

/-- The pool with a frame and the order of use replaced. -/
def reframed (s : Pool size pageSize) (f : Fin size) (frame : Frame pageSize)
    (recency : Recency (Fin size)) : Pool size pageSize :=
  { s.setFrame f frame with recency }

def pinned (s : Pool size pageSize) (f : Fin size) : Pool size pageSize :=
  s.reframed f { s.frame f with pins := (s.frame f).pins + 1 } (s.recency.setEvictable f false)

def unpinned (s : Pool size pageSize) (f : Fin size) : Pool size pageSize :=
  s.reframed f { s.frame f with pins := (s.frame f).pins - 1 }
    (if (s.frame f).pins - 1 = 0 then s.recency.setEvictable f true else s.recency)

def touched (s : Pool size pageSize) (f : Fin size) : Pool size pageSize :=
  s.reframed f (s.frame f) (s.recency.touch f)

/-- The pool with the bytes and the dirty flag of a frame replaced. -/
def filled (s : Pool size pageSize) (f : Fin size) (bytes : Block pageSize) (dirty : Bool) :
    Pool size pageSize :=
  s.reframed f { s.frame f with bytes, dirty } s.recency

/-- The pool after the bytes of a page were saved to the file, if they were newer. -/
def saved (s : Pool size pageSize) (f : Fin size) (page : PageId) : Pool size pageSize :=
  if h : (s.frame f).dirty ∧ page.index + 1 < 0x100000000 then
    { s.filled f (s.frame f).bytes false with
      disk := s.disk.written page (s.frame f).bytes h.2
      counters := { s.counters with writes := s.counters.writes + 1 } }
  else s

/-- The pool after the bytes of a page could not be saved. Some of them may be in the file. -/
def spoiled (s : Pool size pageSize) (f : Fin size) (page : PageId) : Pool size pageSize :=
  { s with disk := s.disk.spoiled page (s.frame f).bytes }

/-- The pool after a page has left its frame. -/
def vacated (s : Pool size pageSize) (f : Fin size) (page : PageId) : Pool size pageSize :=
  { s.reframed f (s.frame f).reset (s.recency.remove f) with
    table := s.table.erase page
    free := f :: s.free }

/-- The pool after a page has entered the first free frame. -/
def admitted (s : Pool size pageSize) (f : Fin size) (page : PageId) (bytes : Block pageSize)
    (dirty : Bool) : Pool size pageSize :=
  { s.reframed f { s.frame f with bytes, page := some page, dirty }
      ((s.recency.touch f).setEvictable f true) with
    table := s.table.insert page f
    free := s.free.tail }

theorem frame_reframed (s : Pool size pageSize) (f g : Fin size) (frame : Frame pageSize)
    (recency : Recency (Fin size)) :
    (s.reframed f frame recency).frame g = if f = g then frame else s.frame g :=
  frame_setFrame ..

theorem frame_reframed_self (s : Pool size pageSize) (f : Fin size) (frame : Frame pageSize)
    (recency : Recency (Fin size)) : (s.reframed f frame recency).frame f = frame := by
  rw [frame_reframed, if_pos rfl]

@[simp] theorem frame_tallied (s : Pool size pageSize) (g : Fin size)
    (change : Counters → Counters) : (s.tallied change).frame g = s.frame g := rfl

theorem spoiled_of_reliable {s : Pool size pageSize} (reliable : s.disk.Reliable) (f : Fin size)
    (page : PageId) : s.spoiled f page = s := by
  rw [spoiled, Disk.spoiled_of_reliable reliable]

@[simp] theorem frame_touched (s : Pool size pageSize) (f g : Fin size) :
    (s.touched f).frame g = s.frame g := by
  rw [touched, frame_reframed]
  split
  · next same => rw [same]
  · rfl

theorem frame_vacated (s : Pool size pageSize) (f g : Fin size) (page : PageId) :
    (s.vacated f page).frame g = if f = g then (s.frame f).reset else s.frame g :=
  frame_setFrame ..

theorem frame_saved (s : Pool size pageSize) (f g : Fin size) {page : PageId}
    (next : page.index + 1 < 0x100000000) :
    (s.saved f page).frame g = if f = g then (s.frame f).clearDirty else s.frame g := by
  unfold saved
  split
  · exact frame_setFrame ..
  · next clean =>
    -- Nothing was saved, for the bytes were not newer.
    split
    · next same =>
      subst same
      have unchanged : (s.frame f).dirty = false := by simpa [next] using clean
      rw [Frame.clearDirty, ← unchanged]
    · rfl

@[simp] theorem page_saved (s : Pool size pageSize) (f g : Fin size) (page : PageId) :
    ((s.saved f page).frame g).page = (s.frame g).page := by
  unfold saved
  split
  · show ((s.filled f (s.frame f).bytes false).frame g).page = _
    rw [filled, frame_reframed]
    split
    · next same => rw [same]
    · rfl
  · rfl

@[simp] theorem bytes_saved (s : Pool size pageSize) (f g : Fin size) (page : PageId) :
    ((s.saved f page).frame g).bytes = (s.frame g).bytes := by
  unfold saved
  split
  · show ((s.filled f (s.frame f).bytes false).frame g).bytes = _
    rw [filled, frame_reframed]
    split
    · next same => rw [same]
    · rfl
  · rfl

theorem disk_saved (s : Pool size pageSize) (f : Fin size) (page : PageId) :
    (s.saved f page).disk =
      if h : (s.frame f).dirty ∧ page.index + 1 < 0x100000000 then
        s.disk.written page (s.frame f).bytes h.2
      else s.disk := by
  unfold saved
  split <;> rfl

theorem disk_saved_of_next (s : Pool size pageSize) (f : Fin size) {page : PageId}
    (next : page.index + 1 < 0x100000000) :
    (s.saved f page).disk =
      if (s.frame f).dirty then s.disk.written page (s.frame f).bytes next else s.disk := by
  rw [disk_saved]
  by_cases newer : (s.frame f).dirty = true
  · rw [dif_pos ⟨newer, next⟩, if_pos newer]
  · rw [dif_neg fun both => newer both.1, if_neg newer]

theorem isOpen_saved (s : Pool size pageSize) (f : Fin size) (page : PageId) :
    (s.saved f page).disk.isOpen = s.disk.isOpen := by
  unfold saved
  split
  · exact Disk.isOpen_written ..
  · rfl

theorem device_saved (s : Pool size pageSize) (f : Fin size) (page : PageId) :
    (s.saved f page).disk.device = s.disk.device := by
  unfold saved
  split
  · exact Disk.device_written ..
  · rfl

theorem counters_saved (s : Pool size pageSize) (f : Fin size) {page : PageId}
    (next : page.index + 1 < 0x100000000) :
    (s.saved f page).counters =
      { s.counters with writes := s.counters.writes + if (s.frame f).dirty then 1 else 0 } := by
  unfold saved
  by_cases newer : (s.frame f).dirty = true
  · rw [dif_pos ⟨newer, next⟩, if_pos newer]
  · rw [dif_neg fun both => newer both.1, if_neg newer, Nat.add_zero]

@[simp] theorem table_saved (s : Pool size pageSize) (f : Fin size) (page : PageId) :
    (s.saved f page).table = s.table := by
  unfold saved
  split <;> rfl

@[simp] theorem free_saved (s : Pool size pageSize) (f : Fin size) (page : PageId) :
    (s.saved f page).free = s.free := by
  unfold saved
  split <;> rfl

@[simp] theorem recency_saved (s : Pool size pageSize) (f : Fin size) (page : PageId) :
    (s.saved f page).recency = s.recency := by
  unfold saved
  split <;> rfl

theorem table_vacated (s : Pool size pageSize) (f : Fin size) (page q : PageId) :
    (s.vacated f page).table[q]? = if page = q then none else s.table[q]? := by
  have erased : (s.vacated f page).table[q]? = _ := Std.ExtTreeMap.getElem?_erase
  simpa only [Std.compare_eq_iff_eq] using erased

theorem table_admitted (s : Pool size pageSize) (f : Fin size) (page q : PageId)
    (bytes : Block pageSize) (dirty : Bool) :
    (s.admitted f page bytes dirty).table[q]? = if page = q then some f else s.table[q]? := by
  have inserted : (s.admitted f page bytes dirty).table[q]? = _ := Std.ExtTreeMap.getElem?_insert
  simpa only [Std.compare_eq_iff_eq] using inserted

theorem frame_admitted (s : Pool size pageSize) (f g : Fin size) (page : PageId)
    (bytes : Block pageSize) (dirty : Bool) :
    (s.admitted f page bytes dirty).frame g =
      if f = g then { s.frame f with bytes, page := some page, dirty } else s.frame g :=
  frame_setFrame ..

/-! ### Every move keeps a pool sound -/

namespace SoundAt

variable {n : Nat} {s : Pool size pageSize} {f : Fin size} {page : PageId}

theorem not_mem_free (h : s.SoundAt n) (held : (s.frame f).page = some page) : f ∉ s.free := by
  simp [h.mem_free_iff, held]

/-- The first frame of the free list is empty, and no page is said to be in it. -/
theorem head_free (h : s.SoundAt n) {rest : List (Fin size)} (head : s.free = f :: rest) :
    s.frame f = .empty := by
  apply h.empty_of_free f
  rw [← h.mem_free_iff, head]
  exact List.mem_cons_self

/-- The file and the counts are no part of this. -/
theorem rebased (h : s.SoundAt n) (disk : Disk pageSize) (counters : Counters) :
    SoundAt n { s with disk, counters } :=
  ⟨h.table_iff, h.free_nodup, h.mem_free_iff, h.empty_of_free, h.recency, h.standing_eq, h.pins_lt,
    h.addressable⟩

theorem spoiled (h : s.SoundAt n) (f : Fin size) (page : PageId) : (s.spoiled f page).SoundAt n :=
  h.rebased ..

theorem tallied (h : s.SoundAt n) (change : Counters → Counters) : (s.tallied change).SoundAt n :=
  h.rebased ..

/-- A frame that has no room for a pin has all the pins it can have. -/
theorem pins_full (h : s.SoundAt n) (full : ¬ (s.frame f).pins + 1 < Frame.pinLimit) :
    (s.frame f).pins + 1 = Frame.pinLimit := by
  have below := h.pins_lt f
  omega

/-- A frame with a page may change in all but the page, if its standing follows its pins. -/
theorem reframed (h : s.SoundAt n) (held : (s.frame f).page = some page) {frame : Frame pageSize}
    {recency : Recency (Fin size)} (kept : frame.page = some page)
    (pins_lt : frame.pins < Frame.pinLimit) (sound : recency.Sound)
    (standing : ∀ g, recency.standing g =
      if f = g then some (!frame.isPinned) else s.recency.standing g) :
    (s.reframed f frame recency).SoundAt n := by
  have page_eq : ∀ g, ((s.reframed f frame recency).frame g).page = (s.frame g).page := by
    intro g
    rw [frame_reframed]
    split
    · next same => rw [kept, ← same, held]
    · rfl
  constructor
  case free_nodup => exact h.free_nodup
  case recency => exact sound
  case table_iff =>
    intro q g
    rw [page_eq]
    exact h.table_iff q g
  case mem_free_iff =>
    intro g
    rw [page_eq]
    exact h.mem_free_iff g
  case empty_of_free =>
    intro g
    rw [page_eq, frame_reframed]
    intro free
    -- The frame that changes has a page.
    have apart : f ≠ g := by
      rintro rfl
      simp [held] at free
    rw [if_neg apart]
    exact h.empty_of_free g free
  case standing_eq =>
    intro g
    rw [page_eq, frame_reframed]
    apply (standing g).trans
    split
    · next same =>
      subst same
      rw [held]
      rfl
    · exact h.standing_eq g
  case pins_lt =>
    intro g
    rw [frame_reframed]
    split
    · exact pins_lt
    · exact h.pins_lt g
  case addressable =>
    intro g q
    rw [page_eq]
    exact h.addressable g q

/-- A frame with a page is tracked, and may be evicted if it is not pinned. -/
theorem standing_of_page (h : s.SoundAt n) (held : (s.frame f).page = some page) :
    s.recency.standing f = some (!(s.frame f).isPinned) := by
  rw [h.standing_eq, held]
  rfl

theorem pinned (h : s.SoundAt n) (held : (s.frame f).page = some page)
    (room : (s.frame f).pins + 1 < Frame.pinLimit) : (s.pinned f).SoundAt n := by
  refine h.reframed held held room (h.recency.setEvictable f false) ?_
  intro g
  simp [Recency.standing_setEvictable, h.standing_of_page held, Frame.isPinned]

theorem unpinned (h : s.SoundAt n) (held : (s.frame f).page = some page) :
    (s.unpinned f).SoundAt n := by
  have room : (s.frame f).pins - 1 < Frame.pinLimit := Nat.lt_of_le_of_lt (Nat.sub_le ..) (h.pins_lt f)
  have standing := h.standing_of_page held
  unfold Pool.unpinned
  split
  · next last =>
    refine h.reframed held held room (h.recency.setEvictable f true) ?_
    intro g
    simp [Recency.standing_setEvictable, standing, Frame.isPinned, last]
  · next more =>
    -- The pin that goes is not the last one, so the frame stays where it is.
    refine h.reframed held held room h.recency ?_
    intro g
    split
    · next same =>
      subst same
      rw [standing]
      simp [Frame.isPinned]
      omega
    · rfl

theorem touched (h : s.SoundAt n) (held : (s.frame f).page = some page) :
    (s.touched f).SoundAt n := by
  refine h.reframed held held (h.pins_lt f) (h.recency.touch f) ?_
  intro g
  simp [Recency.standing_touch, h.standing_of_page held]

theorem filled (h : s.SoundAt n) (held : (s.frame f).page = some page) (bytes : Block pageSize)
    (dirty : Bool) : (s.filled f bytes dirty).SoundAt n := by
  refine h.reframed held held (h.pins_lt f) h.recency ?_
  intro g
  split
  · next same =>
    subst same
    exact h.standing_of_page held
  · rfl

theorem saved (h : s.SoundAt n) (held : (s.frame f).page = some page) :
    (s.saved f page).SoundAt n := by
  unfold Pool.saved
  split
  · exact (h.filled held (s.frame f).bytes false).rebased ..
  · exact h

/-- No other page is in the frame. -/
theorem frame_ne (h : s.SoundAt n) (held : (s.frame f).page = some page) {q : PageId} {g : Fin size}
    (found : s.table[q]? = some g) (other : q ≠ page) : f ≠ g := by
  rintro rfl
  have also := (h.table_iff q f).mp found
  rw [held] at also
  exact other (Option.some.inj also).symm

/-- No other frame holds the page. -/
theorem frame_eq (h : s.SoundAt n) {g : Fin size} (held : (s.frame f).page = some page)
    (also : (s.frame g).page = some page) : f = g := by
  have one := (h.table_iff page f).mpr held
  rw [(h.table_iff page g).mpr also] at one
  exact (Option.some.inj one).symm

theorem vacated (h : s.SoundAt n) (held : (s.frame f).page = some page)
    (unpinned : (s.frame f).pins = 0) : (s.vacated f page).SoundAt n := by
  have emptied : (s.frame f).reset = Frame.empty := by simp [Frame.reset, Frame.empty, unpinned]
  have frame_eq : ∀ g, (s.vacated f page).frame g = if f = g then .empty else s.frame g := by
    intro g
    rw [frame_vacated, emptied]
  constructor
  case free_nodup => exact List.nodup_cons.mpr ⟨h.not_mem_free held, h.free_nodup⟩
  case recency => exact h.recency.remove f
  case table_iff =>
    intro q g
    rw [frame_eq, table_vacated]
    by_cases same : f = g
    · -- The frame held this one page, and it is the page whose entry goes.
      subst same
      have := h.table_iff q f
      simp_all [Frame.empty]
    · -- Another frame cannot hold the page that leaves.
      have := h.frame_eq held (g := g)
      have := h.table_iff q g
      by_cases leaving : page = q <;> simp_all
  case mem_free_iff =>
    intro g
    have joined : g ∈ (s.vacated f page).free ↔ g = f ∨ g ∈ s.free := List.mem_cons
    rw [frame_eq, joined]
    by_cases same : f = g
    · simp [same, Frame.empty]
    · simp [same, Ne.symm same, h.mem_free_iff]
  case empty_of_free =>
    intro g
    rw [frame_eq]
    split
    · exact fun _ => rfl
    · exact h.empty_of_free g
  case standing_eq =>
    intro g
    have forgotten : (s.vacated f page).recency.standing g = _ := Recency.standing_remove ..
    rw [frame_eq, forgotten]
    split
    · rfl
    · exact h.standing_eq g
  case pins_lt =>
    intro g
    rw [frame_eq]
    split
    · exact Nat.succ_pos _
    · exact h.pins_lt g
  case addressable =>
    intro g q
    rw [frame_eq]
    split
    · intro absurd
      cases absurd
    · exact h.addressable g q

theorem admitted (h : s.SoundAt n) {rest : List (Fin size)} (head : s.free = f :: rest)
    (absent : s.table[page]? = none) (addressable : page.Addressable n)
    (bytes : Block pageSize) (dirty : Bool) : (s.admitted f page bytes dirty).SoundAt n := by
  have empty := h.head_free head
  have nodup := h.free_nodup
  rw [head, List.nodup_cons] at nodup
  have tail : (s.admitted f page bytes dirty).free = rest := congrArg List.tail head
  constructor
  case free_nodup => exact tail ▸ nodup.2
  case recency => exact (h.recency.touch f).setEvictable f true
  case table_iff =>
    intro q g
    have known := h.table_iff q g
    rw [frame_admitted, table_admitted]
    by_cases same : f = g
    · -- The frame was empty, so no entry led to it.
      subst same
      by_cases entering : page = q <;> simp_all [Frame.empty]
    · by_cases entering : page = q <;> simp_all
  case mem_free_iff =>
    intro g
    have free := h.mem_free_iff g
    rw [head, List.mem_cons] at free
    rw [frame_admitted, tail]
    by_cases same : f = g
    · subst same
      simp [nodup.1]
    · rw [if_neg same, ← free]
      simp [Ne.symm same]
  case empty_of_free =>
    intro g
    rw [frame_admitted]
    split
    · intro absurd
      cases absurd
    · exact h.empty_of_free g
  case standing_eq =>
    intro g
    have tracked : (s.admitted f page bytes dirty).recency.standing g = _ :=
      Recency.standing_setEvictable ..
    -- The page comes in without a pin.
    rw [frame_admitted, tracked, Recency.standing_touch, Recency.standing_touch]
    split
    · next same => simp [Frame.isPinned, empty, Frame.empty]
    · exact h.standing_eq g
  case pins_lt =>
    intro g
    rw [frame_admitted]
    split
    · exact h.pins_lt f
    · exact h.pins_lt g
  case addressable =>
    intro g q
    rw [frame_admitted]
    split
    · rintro ⟨⟩
      exact addressable
    · exact h.addressable g q

end SoundAt

/-! ### A new pool -/

theorem ofDisk_eq_ok {disk : Disk pageSize} {pool : Pool size pageSize}
    (made : ofDisk disk = .ok pool) :
    0 < size ∧ pool = ⟨Vector.replicate size .empty, ∅, List.finRange size, .empty, disk, {}⟩ := by
  unfold ofDisk at made
  split at made
  · cases made
  · next some => exact ⟨Nat.pos_of_ne_zero some, (Except.ok.inj made).symm⟩

theorem frame_ofDisk {disk : Disk pageSize} {pool : Pool size pageSize}
    (made : ofDisk disk = .ok pool) (f : Fin size) : pool.frame f = .empty := by
  obtain ⟨-, rfl⟩ := ofDisk_eq_ok made
  exact Vector.getElem_replicate f.isLt

theorem sound_ofDisk {n : Nat} {disk : Disk pageSize} {pool : Pool size pageSize}
    (made : ofDisk disk = .ok pool) : pool.SoundAt n := by
  have empty := frame_ofDisk made
  obtain ⟨-, rfl⟩ := ofDisk_eq_ok made
  constructor
  case free_nodup => exact List.nodup_finRange size
  case recency => exact Recency.Sound.empty
  case table_iff =>
    intro page f
    rw [empty]
    simp [Frame.empty]
  case mem_free_iff =>
    intro f
    rw [empty]
    simp [Frame.empty]
  case empty_of_free =>
    intro f _
    exact empty f
  case standing_eq =>
    intro f
    rw [empty]
    rfl
  case pins_lt =>
    intro f
    rw [empty]
    exact Nat.succ_pos _
  case addressable =>
    intro f page held
    rw [empty] at held
    cases held

end PagedStorage.Pool
