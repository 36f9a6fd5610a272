import PagedStorage.Proofs.Accounts
import PagedStorage.Proofs.FlushOrder

/-!
# What is written

The writes that a pool counts are told by its frames (`Writes`). A frame was written if it was dirty and
is not any more, or has another page, and then the file has the bytes that it had; no other block has
changed, unless the operating system gave up midway through writing it. Without a flush this happens only
to make room, and then one page leaves with each write (`MakesRoom.writes_le`).
-/

namespace PagedStorage

/-- The file has these bytes in the place of the page. -/
structure Disk.Stores {pageSize : Nat} (d : Disk pageSize) (page : PageId)
    (block : Block pageSize) : Prop where
  counted : page.index < d.blockCount
  read? : d.file.read? (page.index * pageSize) pageSize = some block

theorem Disk.stores_iff {pageSize : Nat} {d : Disk pageSize} {page : PageId}
    {block : Block pageSize} :
    d.Stores page block ↔ page.index < d.blockCount ∧ d.Reaches page ∧ d.blockAt page = block := by
  constructor
  · rintro ⟨counted, read⟩
    rw [read?_eq] at read
    split at read
    · next reaches => exact ⟨counted, reaches, Option.some.inj read⟩
    · cases read
  · rintro ⟨counted, reaches, rfl⟩
    exact ⟨counted, by rw [read?_eq, if_pos reaches]⟩

/-- What was written is there. -/
theorem Disk.stores_written {pageSize : Nat} (d : Disk pageSize) (page : PageId)
    (block : Block pageSize) (next : page.index + 1 < 0x100000000) :
    (d.written page block next).Stores page block := by
  refine ⟨?counted, d.read?_written page block next⟩
  case counted =>
    rw [blockCount_written]
    exact Nat.le_max_right ..

namespace Pool

variable {size pageSize misses n : Nat} {s t u : Pool size pageSize} {f : Fin size}
  {page : PageId} {fill : Fill pageSize}

/-- The frames that were dirty, and are clean or have another page now. -/
def cleaned (s t : Pool size pageSize) : Finset (Fin size) :=
  Finset.univ.filter fun f => (s.frame f).dirty = true ∧
    ((t.frame f).dirty = true → (t.frame f).page ≠ (s.frame f).page)

theorem mem_cleaned_iff : f ∈ s.cleaned t ↔ (s.frame f).dirty = true ∧
    ((t.frame f).dirty = true → (t.frame f).page ≠ (s.frame f).page) := by
  simp [cleaned]

/-- Where frames are only cleaned, none is cleaned twice. -/
theorem cleaned_union (first : ∀ f, (t.frame f).page = (s.frame f).page)
    (second : ∀ f, (u.frame f).page = (t.frame f).page)
    (before : ∀ f, (t.frame f).dirty = true → (s.frame f).dirty = true)
    (after : ∀ f, (u.frame f).dirty = true → (t.frame f).dirty = true) :
    s.cleaned u = s.cleaned t ∪ t.cleaned u ∧ Disjoint (s.cleaned t) (t.cleaned u) := by
  constructor
  · ext f
    have earlier := before f
    have later := after f
    simp only [Finset.mem_union, mem_cleaned_iff, first, second, ne_eq, not_true_eq_false]
    tauto
  · apply Finset.disjoint_left.mpr
    intro f cleaned again
    have dirty := (mem_cleaned_iff.mp again).1
    exact (mem_cleaned_iff.mp cleaned).2 dirty (first f)

theorem cleaned_eq_empty (page : ∀ f, (t.frame f).page = (s.frame f).page)
    (dirty : ∀ f, (s.frame f).dirty = true → (t.frame f).dirty = true) : s.cleaned t = ∅ := by
  apply Finset.eq_empty_of_forall_notMem
  intro f cleaned
  obtain ⟨newer, moved⟩ := mem_cleaned_iff.mp cleaned
  exact moved (dirty f newer) (page f)

theorem cleaned_self (s : Pool size pageSize) : s.cleaned s = ∅ :=
  cleaned_eq_empty (fun _ => rfl) fun _ newer => newer

/-- Where all frames but one are as they were, it is this one that was cleaned, or none. -/
theorem cleaned_of_only (only : ∀ g, g ≠ f → t.frame g = s.frame g)
    (gone : (t.frame f).dirty = true → (t.frame f).page ≠ (s.frame f).page) :
    s.cleaned t = if (s.frame f).dirty then {f} else ∅ := by
  ext g
  rw [mem_cleaned_iff]
  by_cases same : g = f
  · subst same
    by_cases newer : (s.frame g).dirty = true
    · simpa [newer] using gone
    · simp [newer]
  · rw [only g same]
    split <;> simp [same]

theorem dirty_of_saved (s : Pool size pageSize) (f : Fin size) (page : PageId) (g : Fin size)
    (newer : ((s.saved f page).frame g).dirty = true) : (s.frame g).dirty = true := by
  unfold saved at newer
  split at newer
  · change ((s.filled f (s.frame f).bytes false).frame g).dirty = true at newer
    rw [filled, frame_reframed] at newer
    split at newer
    · cases newer
    · exact newer
  · exact newer

theorem dirty_of_savedAll (order : List (PageId × Fin size)) (s : Pool size pageSize) (g : Fin size)
    (newer : ((savedAll order s).2.frame g).dirty = true) : (s.frame g).dirty = true :=
  savedAll_keeps (R := fun s t => (t.frame g).dirty = true → (s.frame g).dirty = true)
    (fun _ => id) (fun _ _ _ first second => first ∘ second)
    (fun s f page => dirty_of_saved s f page g) (fun _ _ _ => id) order s newer

/-- The bytes of these frames were written to the file, and nothing else was. Only a block may have
changed whose write the operating system gave up after it had moved some bytes. -/
structure Writes (s t : Pool size pageSize) (frames : Finset (Fin size)) : Prop where
  counted : t.counters.writes = s.counters.writes + frames.card
  stored : ∀ f ∈ frames, ∃ page, (s.frame f).page = some page ∧
    (s.disk.device.writing page).isNone = true ∧ t.disk.Stores page (s.frame f).bytes
  others : ∀ page, (∀ f ∈ frames, (s.frame f).page ≠ some page) →
    (∀ trouble ∈ s.disk.device.writing page, trouble.moved = 0) →
      t.disk.blockAt page = s.disk.blockAt page
  device : t.disk.device = s.disk.device
  blockCount_le : s.disk.blockCount ≤ t.disk.blockCount
  size_le : s.disk.file.size ≤ t.disk.file.size

namespace Writes

/-- Where no write is counted and the file is left alone. -/
theorem none (counted : t.counters.writes = s.counters.writes)
    (file : t.disk.file = s.disk.file) (device : t.disk.device = s.disk.device)
    (blockCount : t.disk.blockCount = s.disk.blockCount) : s.Writes t ∅ := by
  constructor
  case counted => exact counted
  case stored => exact fun f written => absurd written (Finset.notMem_empty f)
  case others =>
    intro page _ _
    simp only [Disk.blockAt, file]
  case device => exact device
  case blockCount_le => rw [blockCount]
  case size_le => rw [file]

theorem refl (s : Pool size pageSize) : s.Writes s ∅ := none rfl rfl rfl rfl

/-- What is in the file of a page that could not be written is not counted. -/
theorem spoiled (s : Pool size pageSize) (f : Fin size) (page : PageId) :
    s.Writes (s.spoiled f page) (s.cleaned (s.spoiled f page)) := by
  have same : s.cleaned (s.spoiled f page) = ∅ := cleaned_eq_empty (fun _ => rfl) fun _ newer => newer
  rw [same]
  constructor
  case counted => rfl
  case stored => exact fun f written => absurd written (Finset.notMem_empty f)
  case others =>
    intro q _ unmoved
    by_cases same : q = page
    · subst same
      exact congrArg (Disk.blockAt · q) (s.disk.spoiled_of_unmoved q _ unmoved)
    · exact s.disk.blockAt_spoiled page _ same
  case device => exact s.disk.device_spoiled page _
  case blockCount_le => exact Nat.le_of_eq (s.disk.blockCount_spoiled page _).symm
  case size_le => exact s.disk.size_le_spoiled page _

/-- What was written before is still there, if it is not the same pages that are written after. -/
theorem trans {first second : Finset (Fin size)} (before : s.Writes t first)
    (after : t.Writes u second) (h : s.SoundAt n) (apart : Disjoint first second)
    (page : ∀ f, (t.frame f).page = (s.frame f).page)
    (bytes : ∀ f, (t.frame f).bytes = (s.frame f).bytes) : s.Writes u (first ∪ second) := by
  constructor
  case counted =>
    rw [Finset.card_union_of_disjoint apart, after.counted, before.counted, Nat.add_assoc]
  case stored =>
    intro f written
    rcases Finset.mem_union.mp written with earlier | later
    · obtain ⟨p, held, taken, stores⟩ := before.stored f earlier
      obtain ⟨known, reaches, same⟩ := Disk.stores_iff.mp stores
      -- No frame that is written later has the page.
      have spared : ∀ g ∈ second, (t.frame g).page ≠ some p := by
        intro g also there
        rw [page] at there
        exact Finset.disjoint_left.mp apart (h.frame_eq held there ▸ earlier) also
      have unmoved : ∀ trouble ∈ t.disk.device.writing p, trouble.moved = 0 := by
        rw [before.device, Option.isNone_iff_eq_none.mp taken]
        nofun
      refine ⟨p, held, taken, Disk.stores_iff.mpr ⟨?_, ?_, ?_⟩⟩
      · exact Nat.lt_of_lt_of_le known after.blockCount_le
      · exact reaches.imp_right fun inside => Nat.le_trans inside after.size_le
      · rw [after.others p spared unmoved, same]
    · obtain ⟨p, held, taken, stores⟩ := after.stored f later
      exact ⟨p, (page f).symm.trans held, before.device ▸ taken, bytes f ▸ stores⟩
  case others =>
    intro p spared unmoved
    rw [after.others p, before.others p _ unmoved]
    · exact fun f earlier => spared f (Finset.mem_union_left _ earlier)
    · intro f later
      rw [page]
      exact spared f (Finset.mem_union_right _ later)
    · rwa [before.device]
  case device => exact after.device.trans before.device
  case blockCount_le => exact Nat.le_trans before.blockCount_le after.blockCount_le
  case size_le => exact Nat.le_trans before.size_le after.size_le

/-- One page was written, if its bytes were newer. -/
theorem one (held : (s.frame f).page = some page) (next : page.index + 1 < 0x100000000)
    (takes : (s.frame f).dirty = true → s.disk.Takes page)
    (only : ∀ g, g ≠ f → t.frame g = s.frame g)
    (gone : (t.frame f).dirty = true → (t.frame f).page ≠ (s.frame f).page)
    (counted : t.counters.writes = s.counters.writes + if (s.frame f).dirty then 1 else 0)
    (disk : t.disk = if (s.frame f).dirty then s.disk.written page (s.frame f).bytes next
      else s.disk) : s.Writes t (s.cleaned t) := by
  rw [cleaned_of_only only gone]
  cases newer : (s.frame f).dirty with
  | false =>
    rw [newer] at counted disk
    have same : t.disk = s.disk := disk
    exact none counted (by rw [same]) (by rw [same]) (by rw [same])
  | true =>
    rw [newer] at counted disk
    have written : t.disk = s.disk.written page (s.frame f).bytes next := disk
    constructor
    case counted => exact counted
    case stored =>
      intro g mem
      obtain rfl := Finset.mem_singleton.mp mem
      exact ⟨page, held, (takes newer).2.2, written ▸ s.disk.stores_written page _ next⟩
    case others =>
      intro q spared _
      have apart : q ≠ page := by
        rintro rfl
        exact spared f (Finset.mem_singleton_self f) held
      rw [written, Disk.blockAt_written, if_neg apart]
    case device => rw [written, Disk.device_written]
    case blockCount_le =>
      rw [written, Disk.blockCount_written]
      exact Nat.le_max_left ..
    case size_le =>
      rw [written, Disk.size_written]
      exact Nat.le_max_left ..

theorem saved (h : s.SoundAt n) (held : (s.frame f).page = some page)
    (takes : s.disk.Takes page) : s.Writes (s.saved f page) (s.cleaned (s.saved f page)) := by
  have next := (h.addressable f page held).1
  apply one held next fun _ => takes
  case only =>
    intro g other
    rw [frame_saved _ _ _ next, if_neg (Ne.symm other)]
  case gone =>
    rw [frame_saved _ _ _ next, if_pos rfl]
    nofun
  case counted => exact congrArg Counters.writes (s.counters_saved f next)
  case disk => exact disk_saved_of_next s f next

theorem savedAll (h : s.SoundAt n) {order : List (PageId × Fin size)}
    (flushable : s.Flushable order) :
    s.Writes (savedAll order s).2 (s.cleaned (Pool.savedAll order s).2) := by
  -- The frames of the rest are other frames, so no write is counted twice.
  induction order generalizing s with
  | nil =>
    have none : s.cleaned s = ∅ := cleaned_self s
    rw [Pool.savedAll, none]
    exact refl s
  | cons entry rest ih =>
    obtain ⟨page, f⟩ := entry
    have held : (s.frame f).page = some page := flushable.held _ List.mem_cons_self
    have next := (h.addressable f page held).1
    rw [Pool.savedAll]
    split
    · next takes =>
      have stays := Stays.saved s f page
      have others := Stays.savedAll rest (s.saved f page)
      obtain ⟨parts, apart⟩ := cleaned_union stays.page others.page (dirty_of_saved s f page)
        (dirty_of_savedAll rest (s.saved f page))
      rw [parts]
      exact (saved h held takes).trans (ih (h.saved held) (flushable.saved next)) h apart stays.page
        stays.bytes
    · exact spoiled s f page

theorem makesRoom (h : s.SoundAt n) (room : s.MakesRoom t f) : s.Writes t (s.cleaned t) := by
  cases room with
  | free =>
    rw [cleaned_self]
    exact refl s
  | @evict _ victim full oldest held saves =>
    have next := (h.addressable f victim held).1
    apply one held next saves
    case only =>
      intro g other
      refine (frame_vacated _ f g victim).trans ?_
      rw [if_neg (Ne.symm other), frame_saved _ _ _ next, if_neg (Ne.symm other)]
    case gone =>
      intro newer
      have left : (((s.saved f victim).vacated f victim).frame f).dirty = false := by
        rw [frame_vacated, if_pos rfl]
        rfl
      exact absurd (newer.symm.trans left) Bool.noConfusion
    case counted => exact congrArg Counters.writes (s.counters_saved f next)
    case disk => exact disk_saved_of_next s f next

/-- A page that comes into an empty frame takes nothing from what was written. -/
theorem admitted (writes : s.Writes t (s.cleaned t)) (empty : t.frame f = .empty)
    (absent : ∀ g, (s.frame g).page ≠ some page) (bytes : Block pageSize) (dirty : Bool) :
    s.Writes ((t.admitted f page bytes dirty).tallied (readCounted dirty))
      (s.cleaned ((t.admitted f page bytes dirty).tallied (readCounted dirty))) := by
  have same : s.cleaned ((t.admitted f page bytes dirty).tallied (readCounted dirty)) =
      s.cleaned t := by
    ext g
    simp only [mem_cleaned_iff, frame_tallied, frame_admitted]
    by_cases here : f = g
    · subst here
      rw [if_pos rfl, empty]
      exact and_congr_right fun _ => ⟨fun _ => nofun, fun _ _ => (absent f).symm⟩
    · rw [if_neg here]
  have counters : ((t.admitted f page bytes dirty).tallied (readCounted dirty)).counters.writes =
      t.counters.writes := by
    cases dirty <;> rfl
  rw [same]
  exact ⟨counters.trans writes.counted, writes.stored, writes.others, writes.device,
    writes.blockCount_le, writes.size_le⟩

end Writes

/-! ### Where nothing is written -/

/-- Pages stay where they are, no frame is cleaned, and the file is left alone. Hits and misses may be
counted. -/
structure Continues (s t : Pool size pageSize) : Prop where
  table : t.table = s.table
  page : ∀ f, (t.frame f).page = (s.frame f).page
  dirty : ∀ f, (s.frame f).dirty = true → (t.frame f).dirty = true
  file : t.disk.file = s.disk.file
  device : t.disk.device = s.disk.device
  blockCount : t.disk.blockCount = s.disk.blockCount
  writes : t.counters.writes = s.counters.writes
  evictions : t.counters.evictions = s.counters.evictions

namespace Continues

theorem refl (s : Pool size pageSize) : s.Continues s :=
  ⟨rfl, fun _ => rfl, fun _ newer => newer, rfl, rfl, rfl, rfl, rfl⟩

theorem trans (first : s.Continues t) (second : t.Continues u) : s.Continues u := by
  constructor
  case table => exact second.table.trans first.table
  case page => exact fun f => (second.page f).trans (first.page f)
  case dirty => exact fun f newer => second.dirty f (first.dirty f newer)
  case file => exact second.file.trans first.file
  case device => exact second.device.trans first.device
  case blockCount => exact second.blockCount.trans first.blockCount
  case writes => exact second.writes.trans first.writes
  case evictions => exact second.evictions.trans first.evictions

theorem reframed {frame : Frame pageSize} {recency : Recency (Fin size)}
    (page : frame.page = (s.frame f).page)
    (dirty : (s.frame f).dirty = true → frame.dirty = true) :
    s.Continues (s.reframed f frame recency) := by
  constructor
  case page =>
    intro g
    rw [frame_reframed]
    split
    · next same => rw [page, same]
    · rfl
  case dirty =>
    intro g newer
    rw [frame_reframed]
    split
    · next same => exact dirty (same ▸ newer)
    · exact newer
  all_goals rfl

theorem pinned (s : Pool size pageSize) (f : Fin size) : s.Continues (s.pinned f) :=
  reframed rfl id

theorem unpinned (s : Pool size pageSize) (f : Fin size) : s.Continues (s.unpinned f) :=
  reframed rfl id

theorem touched (s : Pool size pageSize) (f : Fin size) : s.Continues (s.touched f) :=
  reframed rfl id

theorem used (s : Pool size pageSize) (f : Fin size) : s.Continues (s.used f) :=
  have touched := touched s f
  ⟨touched.table, touched.page, touched.dirty, rfl, rfl, rfl, rfl, rfl⟩

theorem filled (s : Pool size pageSize) (f : Fin size) (bytes : Block pageSize) {dirty : Bool}
    (kept : (s.frame f).dirty = true → dirty = true) : s.Continues (s.filled f bytes dirty) :=
  reframed rfl kept

theorem cleaned (continues : s.Continues t) : s.cleaned t = ∅ :=
  cleaned_eq_empty continues.page continues.dirty

theorem missed (s : Pool size pageSize) (misses : Nat) : s.Continues (s.missed misses) :=
  ⟨rfl, fun _ => rfl, fun _ newer => newer, rfl, rfl, rfl, rfl, rfl⟩

theorem writes_none (continues : s.Continues t) : s.Writes t ∅ :=
  .none continues.writes continues.file continues.device continues.blockCount

theorem writes_cleaned (continues : s.Continues t) : s.Writes t (s.cleaned t) := by
  rw [continues.cleaned]
  exact continues.writes_none

end Continues

/-! ### Misses -/

/-- A miss that was counted first makes no difference to what is written. -/
theorem Writes.of_missed (writes : (s.missed misses).Writes t ((s.missed misses).cleaned t)) :
    s.Writes t (s.cleaned t) :=
  ⟨writes.counted, writes.stored, writes.others, writes.device, writes.blockCount_le,
    writes.size_le⟩

/-- A pin makes no difference to what is written. -/
theorem Writes.pinned (writes : s.Writes t (s.cleaned t)) (f : Fin size) :
    s.Writes (t.pinned f) (s.cleaned (t.pinned f)) := by
  have same : s.cleaned (t.pinned f) = s.cleaned t := by
    ext g
    simp only [mem_cleaned_iff, dirty_pinned, page_pinned]
  rw [same]
  exact ⟨writes.counted, writes.stored, writes.others, writes.device, writes.blockCount_le,
    writes.size_le⟩

/-- The order of use makes no difference to what is written. -/
theorem Writes.touched (writes : s.Writes t (s.cleaned t)) (f : Fin size) :
    s.Writes (t.touched f) (s.cleaned (t.touched f)) := by
  have same : s.cleaned (t.touched f) = s.cleaned t := by
    ext g
    simp only [mem_cleaned_iff, frame_touched]
  rw [same]
  exact ⟨writes.counted, writes.stored, writes.others, writes.device, writes.blockCount_le,
    writes.size_le⟩

theorem Admits.writes {r : Except StoreError (Fin size)} (h : s.SoundAt n)
    (absent : s.table[page]? = none) (admits : (s.missed misses).Admits page fill r t) :
    s.Writes t (s.cleaned t) := by
  have counted : (s.missed misses).SoundAt n := h.tallied _
  have missed := Continues.missed s misses
  cases admits with
  | full lacks =>
    cases lacks with
    | saturated => exact missed.writes_cleaned
    | @stuck f victim => exact ((Writes.spoiled (s.missed misses) f victim).touched f).of_missed
  | unread room => exact (Writes.makesRoom counted room).of_missed
  | enters room source =>
    apply (Writes.makesRoom counted room).of_missed.admitted
      ((room.sound counted).head_free room.head)
    intro g held
    have found := (h.table_iff page g).mpr held
    rw [absent] at found
    cases found

/-- Nothing is written to bring a page in, but the bytes of a victim that leaves. -/
theorem MakesRoom.writes_le (room : s.MakesRoom t f) (h : s.SoundAt n) :
    t.counters.writes + s.counters.evictions ≤ s.counters.writes + t.counters.evictions := by
  cases room with
  | free => exact Nat.le_refl _
  | @evict _ victim full oldest held saves =>
    have next := (h.addressable f victim held).1
    have once : (if (s.frame f).dirty then 1 else 0) ≤ 1 := by split <;> decide
    show (s.saved f victim).counters.writes + s.counters.evictions ≤
      s.counters.writes + ((s.saved f victim).counters.evictions + 1)
    rw [counters_saved s f next]
    show s.counters.writes + (if (s.frame f).dirty then 1 else 0) + s.counters.evictions ≤
      s.counters.writes + (s.counters.evictions + 1)
    omega

theorem Admits.writes_le {r : Except StoreError (Fin size)} (h : s.SoundAt n)
    (admits : s.Admits page fill r t) :
    t.counters.writes + s.counters.evictions ≤ s.counters.writes + t.counters.evictions := by
  cases admits with
  | full lacks => cases lacks <;> exact Nat.le_refl _
  | unread room => exact room.writes_le h
  | @enters f u bytes dirty room =>
    have made := room.writes_le h
    cases dirty <;> exact made

/-! ### Requests that move no page -/

/-- An action that moves no page and writes nothing, and what it counts. Faults are left out. -/
def Books {α : Type} (act : Action (Pool size pageSize) α) (s : Pool size pageSize)
    (c : Charge) : Prop :=
  match act s with
  | .ok _ t | .error (.error _) t => s.Continues t ∧ s.Accounts t c
  | .error (.fault _) _ => True

theorem Accounts.used (s : Pool size pageSize) (f : Fin size) :
    s.Accounts (s.used f) { hits := 1 } := ⟨rfl, rfl, rfl, rfl, rfl⟩

section Requests

variable (h : s.SoundAt n) (resident : s.table[page]? = some f)
include h resident

theorem fetch_books : Books (fetch page) s { hits := 1 } := by
  by_cases room : (s.frame f).pins + 1 < Frame.pinLimit
  · simp only [Books, fetch_hit h resident room]
    exact ⟨(Continues.used s f).trans (.pinned _ f),
      (Accounts.used s f).trans (.still (t := (s.used f).pinned f) rfl ⟨_, rfl⟩)⟩
  · simp [Books, fetch, pinPage_overflow resident room]

theorem read_books : Books (read page) s { hits := 1 } := by
  by_cases room : (s.frame f).pins + 1 < Frame.pinLimit
  · simp only [Books, read_hit h resident room]
    exact ⟨.used s f, .used s f⟩
  · simp [Books, read, fetch, pinPage_overflow resident room]

theorem writeBlock_books (block : Block pageSize) :
    Books (writeBlock page block) s { hits := 1 } := by
  by_cases room : (s.frame f).pins + 1 < Frame.pinLimit
  · simp only [Books, writeBlock_hit h resident room]
    exact ⟨(Continues.used s f).trans (.filled _ f block fun _ => rfl),
      (Accounts.used s f).trans (.still (t := (s.used f).filled f block true) rfl ⟨_, rfl⟩)⟩
  · simp [Books, writeBlock, pinPage_overflow resident room]

omit h in
/-- A page that is made anew in its frame is not looked for, so it is not counted. -/
theorem create_books : Books (create page) s {} := by
  rw [Books, create_hit resident]
  by_cases busy : (s.frame f).isPinned = true
  · simp only [if_pos busy]
    exact ⟨.refl s, .refl s⟩
  · simp only [if_neg busy]
    exact ⟨(Continues.touched s f).trans (.filled _ f .zero fun _ => rfl),
      .still (t := (s.touched f).filled f .zero true) rfl ⟨_, rfl⟩⟩

end Requests

theorem books_of_settles {α : Type} {act : Action (Pool size pageSize) α} {c : Charge}
    (settles : act.Settles s (fun t => s.Continues t ∧ s.Accounts t c) fun _ => True) :
    Books act s c := by
  unfold Action.Settles at settles
  unfold Books
  cases ran : act s with
  | ok a t => simpa only [ran] using settles
  | error why t =>
    rw [ran] at settles
    cases why <;> exact settles

theorem sync_books (s : Pool size pageSize) : Books sync s {} :=
  books_of_settles (sync_settles_of ⟨.refl s, .refl s⟩)

theorem close_books (s : Pool size pageSize) : Books close s {} := by
  have shut : s.Continues s.shut :=
    ⟨rfl, fun _ => rfl, fun _ newer => newer, rfl, rfl, rfl, rfl, rfl⟩
  exact books_of_settles (close_settles_of ⟨shut, .still rfl ⟨_, rfl⟩⟩)

/-! ### Flushes -/

/-- An action that moves no page, and says how many frames it has written. Faults are left out. -/
def Tells {α : Type} (act : Action (Pool size pageSize) α) (s : Pool size pageSize)
    (told : α → Nat) : Prop :=
  match act s with
  | .ok a t => s.Accounts t {} ∧ s.Writes t (s.cleaned t) ∧ (s.cleaned t).card = told a
  | .error (.error _) t => s.Accounts t {} ∧ s.Writes t (s.cleaned t)
  | .error (.fault _) _ => True

theorem Barring.tells {α : Type} {act : Action (Pool size pageSize) α} {ends : Prop}
    {told : α → Nat} (h : Barring n act s ends) (tells : ends → Tells act s told) :
    Tells act s told := by
  rcases h with ends | ⟨-, why, t, stops⟩
  · exact tells ends
  · rw [Tells, stops]
    trivial

theorem Writes.card_cleaned (writes : s.Writes t (s.cleaned t)) {told : Nat}
    (counted : t.counters.writes = s.counters.writes + told) : (s.cleaned t).card = told :=
  Nat.add_left_cancel (writes.counted.symm.trans counted)

theorem flush_tells (h : s.SoundAt n) (page : PageId) : Tells (flush page) s Bool.toNat := by
  -- A flush that writes nothing leaves the pool as it is, for the pin that it takes is given up.
  have same := (Continues.refl s).writes_cleaned
  cases resident : s.table[page]? with
  | none =>
    have ran : flush page s = .ok false s := by simp [flush, resident]
    rw [Tells, ran]
    exact ⟨.refl s, same, same.card_cleaned rfl⟩
  | some f =>
    by_cases room : (s.frame f).pins + 1 < Frame.pinLimit
    · have held := (h.table_iff page f).mp resident
      refine (flush_eq h resident room).tells fun ran => ?_
      rw [Tells, ran]
      by_cases clean : (s.frame f).dirty = false
      · rw [if_pos clean]
        exact ⟨.refl s, same, same.card_cleaned rfl⟩
      · rw [if_neg clean]
        by_cases granted : s.disk.Takes page
        · rw [if_pos granted]
          have writes := Writes.saved h held granted
          have newer : (s.frame f).dirty = true := by simpa using clean
          have counted := congrArg Counters.writes (s.counters_saved f (h.addressable f page held).1)
          rw [if_pos newer] at counted
          exact ⟨.saved .., writes, writes.card_cleaned counted⟩
        · rw [if_neg granted]
          exact ⟨.still rfl ⟨_, rfl⟩, .spoiled s f page⟩
    · simp [Tells, flush, resident, pin_eq_fault room]

/-- A flush that is not stopped writes every frame of its list. -/
theorem counted_savedAll (h : s.SoundAt n) {order : List (PageId × Fin size)}
    (flushable : s.Flushable order) (done : (savedAll order s).1 = none) :
    (savedAll order s).2.counters.writes = s.counters.writes + order.length := by
  -- Every frame of the list is dirty when its turn comes.
  induction order generalizing s with
  | nil => rfl
  | cons entry rest ih =>
    obtain ⟨page, f⟩ := entry
    have held : (s.frame f).page = some page := flushable.held _ List.mem_cons_self
    have newer : (s.frame f).dirty = true := flushable.dirty _ List.mem_cons_self
    have next := (h.addressable f page held).1
    rw [savedAll] at done ⊢
    split at done
    · next granted =>
      have counted : (s.saved f page).counters.writes = s.counters.writes + 1 := by
        rw [counters_saved s f next, if_pos newer]
      rw [if_pos granted, ih (h.saved held) (flushable.saved next) done, counted, List.length_cons]
      omega
    · cases done

/-- The dirty frames may be flushed in any order. -/
theorem flushFrames_tells (h : s.SoundAt n) {order : List (PageId × Fin size)}
    (listed : order.Perm s.dirtyFrames) : Tells (flushFrames order) s id := by
  have flushable := dirtyFrames_flushable h listed
  by_cases room : ∀ entry ∈ order, (s.frame entry.2).pins + 1 < Frame.pinLimit
  · refine (flushFrames_eq h flushable room).tells fun ran => ?_
    have accounts := Accounts.savedAll order s
    have writes := Writes.savedAll h flushable
    have counted := counted_savedAll h flushable
    rw [Tells, ran]
    generalize savedAll order s = saving at accounts writes counted
    obtain ⟨refused, t⟩ := saving
    cases refused with
    | none => exact ⟨accounts, writes, writes.card_cleaned (counted rfl)⟩
    | some e => exact ⟨accounts, writes⟩
  · obtain ⟨t, stopped, -⟩ := forM_pin_overflow flushable room
    simp only [Tells, flushFrames, Action.run_bind, stopped]

end Pool

end PagedStorage
