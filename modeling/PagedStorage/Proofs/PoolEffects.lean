import PagedStorage.Proofs.PoolRuns

/-!
# What making room does to a pool

A pool is in order between requests when it is sound, its clean frames hold what the file holds, the
pages that are being written through a guard are pinned, the pages of the file are counted, and the
operating system fails no call (`Proper`). `Leads` collects what a request that takes no pin keeps: the
pool stays in order, pinned pages stay where they are, and the bytes of the pages are those that the
request asked for.

The page that makes room is not pinned, so it is not being written, and its frame is clean once it is
saved. Hence it can leave unseen, and the page that enters is the only one that changes.
-/

namespace PagedStorage.Pool

variable {size pageSize : Nat}

structure Proper (s : Pool size pageSize) (written : PageId → Prop) : Prop where
  sound : s.Sound
  coherent : s.Coherent written
  /-- A page that is being written is pinned. -/
  anchored : ∀ page, written page → ∃ f, (s.frame f).page = some page ∧ 0 < (s.frame f).pins
  counted : s.disk.Counted
  reliable : s.disk.Reliable

/-- No pin is taken or given up, and pinned pages stay where they are. -/
structure Spares (s t : Pool size pageSize) : Prop where
  pins : ∀ f, (t.frame f).pins = (s.frame f).pins
  page : ∀ f, 0 < (s.frame f).pins → (t.frame f).page = (s.frame f).page

structure Leads (written : PageId → Prop) (s t : Pool size pageSize)
    (after : PageId → Block pageSize) : Prop where
  proper : t.Proper written
  turns : s.Turns t after
  spares : s.Spares t

variable {s t u : Pool size pageSize} {f : Fin size} {page : PageId} {written : PageId → Prop}
  {after : PageId → Block pageSize}

namespace Spares

theorem refl (s : Pool size pageSize) : s.Spares s := ⟨fun _ => rfl, fun _ _ => rfl⟩

theorem trans (first : s.Spares t) (second : t.Spares u) : s.Spares u := by
  constructor
  · intro f
    exact (second.pins f).trans (first.pins f)
  · intro f pinned
    rw [second.page f (by rwa [first.pins f]), first.page f pinned]

theorem anchored (spares : s.Spares t)
    (anchored : ∀ page, written page → ∃ f, (s.frame f).page = some page ∧ 0 < (s.frame f).pins) :
    ∀ page, written page → ∃ f, (t.frame f).page = some page ∧ 0 < (t.frame f).pins := by
  intro page busy
  obtain ⟨f, held, pinned⟩ := anchored page busy
  exact ⟨f, (spares.page f pinned).trans held, by rwa [spares.pins f]⟩

/-- Another frame in the place of one with as many pins spares the rest, and the page if need be. -/
theorem reframed {frame : Frame pageSize} (pins : frame.pins = (s.frame f).pins)
    (page : 0 < (s.frame f).pins → frame.page = (s.frame f).page) (recency : Recency (Fin size)) :
    s.Spares (s.reframed f frame recency) := by
  constructor
  · intro g
    rw [frame_reframed]
    split
    · next same => rw [pins, same]
    · rfl
  · intro g
    rw [frame_reframed]
    split
    · next same =>
      subst same
      exact page
    · exact fun _ => rfl

theorem saved (s : Pool size pageSize) (f : Fin size) (page : PageId) :
    s.Spares (s.saved f page) := by
  unfold Pool.saved
  split
  · have : s.Spares (s.reframed f (s.frame f).clearDirty s.recency) := by
      apply Spares.reframed
      · rfl
      · exact fun _ => rfl
    exact ⟨this.pins, this.page⟩
  · exact refl s

theorem vacated (unpinned : (s.frame f).pins = 0) : s.Spares (s.vacated f page) := by
  have : s.Spares (s.reframed f (s.frame f).reset (s.recency.remove f)) := by
    apply Spares.reframed
    · rfl
    · intro pinned
      omega
  exact ⟨this.pins, this.page⟩

theorem admitted (empty : s.frame f = .empty) (bytes : Block pageSize) (dirty : Bool) :
    s.Spares (s.admitted f page bytes dirty) := by
  have : s.Spares (s.reframed f { s.frame f with bytes, page := some page, dirty }
      ((s.recency.touch f).setEvictable f true)) := by
    apply Spares.reframed
    · rfl
    · intro pinned
      simp [empty, Frame.empty] at pinned
  exact ⟨this.pins, this.page⟩

end Spares

namespace Proper

/-- A page that is not resident is not being written, nor is one that is not pinned. -/
theorem not_written (h : s.Proper written)
    (loose : ∀ f, (s.frame f).page = some page → (s.frame f).pins = 0) : ¬ written page := by
  intro busy
  obtain ⟨f, held, pinned⟩ := h.anchored page busy
  have := loose f held
  omega

theorem leads_refl (h : s.Proper written) : Leads written s s s.bytesOf :=
  ⟨h, Turns.refl s, Spares.refl s⟩

theorem leads_touched (h : s.Proper written) (held : (s.frame f).page = some page) :
    Leads written s (s.touched f) s.bytesOf := by
  have spares : s.Spares (s.touched f) := .reframed rfl (fun _ => rfl) _
  exact ⟨⟨h.sound.touched held, h.coherent.kept held held rfl rfl _, spares.anchored h.anchored,
    h.counted, h.reliable⟩, carries_reframed h.sound held rfl _, spares⟩

theorem leads_saved (h : s.Proper written) (held : (s.frame f).page = some page) :
    Leads written s (s.saved f page) s.bytesOf := by
  have spares := Spares.saved s f page
  have counted : (s.saved f page).disk.Counted := by
    rw [disk_saved]
    split
    · exact h.counted.written _ _ _
    · exact h.counted
  have reliable : (s.saved f page).disk.Reliable := (s.device_saved f page).trans h.reliable
  exact ⟨⟨h.sound.saved held, h.coherent.saved h.sound held, spares.anchored h.anchored, counted,
    reliable⟩, carries_saved h.sound held, spares⟩

/-- New bytes go into a frame that is newer than the file from then on, or not trusted anyway. -/
theorem leads_filled (h : s.Proper written) (held : (s.frame f).page = some page)
    (bytes : Block pageSize) (dirty : Bool) (newer : dirty = true ∨ written page) :
    Leads written s (s.filled f bytes dirty) (Function.update s.bytesOf page bytes) := by
  have spares : s.Spares (s.filled f bytes dirty) := by
    apply Spares.reframed
    · rfl
    · exact fun _ => rfl
  have coherent : (s.filled f bytes dirty).Coherent written := by
    apply h.coherent.reframed
    · exact held
    · -- A frame that is clean and not being written is not what `newer` allows.
      intro clean apart
      simp_all
  exact ⟨⟨h.sound.filled held bytes dirty, coherent, spares.anchored h.anchored, h.counted,
    h.reliable⟩,
    turns_reframed h.sound held _ _, spares⟩

/-- A frame that is marked dirty keeps its bytes. -/
theorem leads_marked (h : s.Proper written) (held : (s.frame f).page = some page) :
    Leads written s (s.filled f (s.frame f).bytes true) s.bytesOf := by
  rw [← bytesOf_of_frame h.sound held]
  simpa only [Function.update_eq_self] using h.leads_filled held (s.bytesOf page) true (.inl rfl)

/-- A clean frame lets go of its page. -/
theorem leads_vacated (h : s.Proper written) (held : (s.frame f).page = some page)
    (unpinned : (s.frame f).pins = 0) (clean : (s.frame f).dirty = false) :
    Leads written s (s.vacated f page) s.bytesOf := by
  have spares : s.Spares (s.vacated f page) := .vacated unpinned
  -- A page that is written through a guard is pinned, and this frame is not.
  have loose : ¬ written page := by
    apply h.not_written
    intro g also
    rw [← h.sound.frame_eq held also, unpinned]
  obtain ⟨inside, same⟩ := h.coherent f page held clean loose
  exact ⟨⟨h.sound.vacated held unpinned, h.coherent.vacated, spares.anchored h.anchored, h.counted,
    h.reliable⟩,
    carries_vacated h.sound held inside same, spares⟩

theorem leads_admitted (h : s.Proper written) {rest : List (Fin size)} (head : s.free = f :: rest)
    (absent : s.table[page]? = none) (addressable : page.Addressable pageSize)
    {bytes : Block pageSize} {dirty : Bool}
    (clean : dirty = false → page.index < s.disk.blockCount ∧ s.disk.blockAt page = bytes) :
    Leads written s (s.admitted f page bytes dirty) (Function.update s.bytesOf page bytes) := by
  have spares : s.Spares (s.admitted f page bytes dirty) :=
    .admitted (h.sound.head_free head) bytes dirty
  exact ⟨⟨h.sound.admitted head absent addressable bytes dirty, h.coherent.admitted clean,
    spares.anchored h.anchored, h.counted, h.reliable⟩, turns_admitted h.sound head bytes dirty, spares⟩

end Proper

/-- A new pool is in order. -/
theorem proper_ofDisk {disk : Disk pageSize} (counted : disk.Counted) (reliable : disk.Reliable)
    (made : ofDisk disk = .ok s) : s.Proper fun _ => False := by
  have coherent : s.Coherent fun _ => False := by
    intro f page held
    simp [frame_ofDisk made f, Frame.empty] at held
  have same : s.disk = disk := by
    obtain ⟨-, rfl⟩ := ofDisk_eq_ok made
    rfl
  exact ⟨sound_ofDisk made, coherent, fun _ => False.elim, same ▸ counted,
    same ▸ reliable⟩

theorem Leads.trans (first : Leads written s t s.bytesOf) (second : Leads written t u after) :
    Leads written s u after :=
  ⟨second.proper, first.turns.trans second.turns, first.spares.trans second.spares⟩

theorem Leads.bytesOf_eq (leads : Leads written s t s.bytesOf) : t.bytesOf = s.bytesOf :=
  funext leads.turns.bytesOf

/-- Counting something adds nothing to what was done. -/
theorem Leads.tallied (leads : Leads written s t after) (change : Counters → Counters) :
    Leads written s (t.tallied change) after := by
  obtain ⟨⟨sound, coherent, anchored, counted, reliable⟩, turns, spares⟩ := leads
  exact ⟨⟨sound.tallied change, coherent.tallied change, anchored, counted, reliable⟩,
    ⟨turns.bytesOf, turns.holds, turns.blockAt, turns.blockCount_le, turns.maxFileSize_eq,
      turns.isOpen_eq⟩, ⟨spares.pins, spares.page⟩⟩

/-! ### Making room -/

namespace MakesRoom

theorem leads (h : s.Proper written) (room : s.MakesRoom t f) : Leads written s t s.bytesOf := by
  cases room with
  | free => exact h.leads_refl
  | @evict _ victim full oldest held saves =>
    have next := (h.sound.addressable f victim held).1
    have unpinned := (h.sound.page_of_standing oldest.standing).2
    -- The victim is saved first, so it is clean when it leaves.
    have saved := h.leads_saved held
    have kept := s.frame_saved f f next
    rw [if_pos rfl] at kept
    have there : ((s.saved f victim).frame f).page = some victim := by rwa [page_saved]
    have loose : ((s.saved f victim).frame f).pins = 0 := by
      rw [kept]
      exact unpinned
    have clean : ((s.saved f victim).frame f).dirty = false := by
      rw [kept]
      rfl
    have vacated := saved.proper.leads_vacated there loose clean
    rw [saved.bytesOf_eq] at vacated
    exact (saved.trans vacated).tallied _

end MakesRoom

theorem LacksRoom.leads {e : StoreError} (h : s.Proper written) (lacks : s.LacksRoom e t) :
    Leads written s t s.bytesOf := by
  cases lacks with
  | saturated => exact h.leads_refl
  | stuck full oldest held newer refused =>
    rw [spoiled_of_reliable h.reliable]
    exact h.leads_touched held

/-- The bytes of the pages once a page has been brought in. -/
def Fill.bytesAfter (fill : Fill pageSize) (s : Pool size pageSize) (page : PageId) :
    PageId → Block pageSize :=
  match fill with
  | .put block => Function.update s.bytesOf page block
  | .load => s.bytesOf

namespace Admits

variable {fill : Fill pageSize}

theorem leads_of_error (h : s.Proper written) {e : StoreError}
    (admits : s.Admits page fill (.error e) t) : Leads written s t s.bytesOf := by
  cases admits with
  | full lacks => exact lacks.leads h
  | unread room => exact room.leads h

theorem leads (h : s.Proper written) (absent : s.table[page]? = none)
    (addressable : page.Addressable pageSize) (admits : s.Admits page fill (.ok f) t) :
    Leads written s t (fill.bytesAfter s page) := by
  cases admits with
  | @enters _ t bytes dirty room source =>
    have made := room.leads h
    have gone := room.absent_of_absent absent
    -- A frame that is not dirty has just been read from the file.
    have clean : dirty = false → page.index < t.disk.blockCount ∧ t.disk.blockAt page = bytes := by
      rintro rfl
      cases fill with
      | put => cases source
      | load =>
        obtain ⟨inside, -, -, -, rfl⟩ := Disk.block?_eq_ok_iff.mp (source_load_eq_ok_iff.mp source).1
        exact ⟨inside, rfl⟩
    -- Making room changes no bytes, so only the page that enters may have new ones.
    have entered := made.proper.leads_admitted room.head gone addressable clean
    have settled : Function.update t.bytesOf page bytes = fill.bytesAfter s page := by
      rw [made.bytesOf_eq]
      cases fill with
      | put => cases source; rfl
      | load =>
        obtain ⟨-, -, -, -, rfl⟩ := Disk.block?_eq_ok_iff.mp (source_load_eq_ok_iff.mp source).1
        apply Function.update_eq_self_iff.mpr
        rw [← made.bytesOf_eq, bytesOf_of_absent gone]
    rw [settled] at entered
    exact (made.trans entered).tallied _

end Admits

end PagedStorage.Pool
