import PagedStorage.Proofs.PoolFlushes

/-!
# What requests do to the pages

Seen through `view`, a pool is a plain map of pages: reading and fetching show it, writing and making
a page change it in one place, and nothing else changes what was there, whatever moved between frames
and file on the way. A page that was not there may appear when the file grows past it, with the bytes
that lie in the gap (`KeepsBut`). The file may grow so when room is made for this very page, which is
then found after all (`Uncovers`).

The one fault a request can meet is a pin too many on one page, and it too changes nothing that can
be seen.
-/

namespace PagedStorage.Pool

variable {size pageSize : Nat} {s t : Pool size pageSize} {f : Fin size} {page : PageId}
  {written : PageId → Prop} {after : PageId → Block pageSize} {changed : PageId → Prop}

/-- What can be seen stays as it is, some pages apart. What cannot be seen may come to be seen in the
file. -/
structure KeepsBut (changed : PageId → Prop) (s t : Pool size pageSize) : Prop where
  seen : ∀ q block, ¬ changed q → s.view q = some block → t.view q = some block
  unseen : ∀ q, ¬ changed q → s.view q = none →
    t.view q = none ∨ t.view q = some (s.disk.blockAt q)

/-- Everything that can be seen stays as it is. -/
abbrev Keeps (s t : Pool size pageSize) : Prop := KeepsBut (fun _ => False) s t

theorem view_eq_none_iff : s.view page = none ↔ ¬ s.Holds page := by
  unfold view Holds
  cases s.table[page]? <;> simp

theorem bytesOf_of_not_holds (absent : ¬ s.Holds page) : s.bytesOf page = s.disk.blockAt page := by
  unfold Holds bytesOf at *
  cases found : s.table[page]? with
  | none => rfl
  | some f => simp [found] at absent

theorem Turns.keepsBut (turns : s.Turns t after)
    (only : ∀ q, ¬ changed q → after q = s.bytesOf q) : KeepsBut changed s t := by
  constructor
  · intro q block apart seen
    obtain ⟨holds, bytes⟩ := view_eq_some_iff.mp seen
    apply view_eq_some_iff.mpr
    rw [turns.bytesOf, only q apart]
    exact ⟨turns.holds q holds, bytes⟩
  · intro q apart unseen
    -- What was not there has the bytes of its place in the file, seen or not.
    have gap := bytesOf_of_not_holds (view_eq_none_iff.mp unseen)
    cases now : t.view q with
    | none => exact .inl rfl
    | some block =>
      obtain ⟨-, bytes⟩ := view_eq_some_iff.mp now
      rw [turns.bytesOf, only q apart, gap] at bytes
      exact .inr (congrArg some bytes.symm)

theorem Turns.keeps (turns : s.Carries t) : s.Keeps t := turns.keepsBut fun _ _ => rfl

/-- Replacing the bytes of one page keeps all others. -/
theorem Turns.keepsBut_update {block : Block pageSize}
    (turns : s.Turns t (Function.update s.bytesOf page block)) : KeepsBut (· = page) s t :=
  turns.keepsBut fun _ other => Function.update_of_ne other ..

/-! ### A pin too many -/

/-- The fault of a page with all the pins it can have. Only pins have changed. -/
structure Overflows (why : Fault) (s t : Pool size pageSize) : Prop where
  why_eq : why = .addOverflow
  full : ∃ f, (s.frame f).pins + 1 = Frame.pinLimit
  bytes : ∀ f, (t.frame f).bytes = (s.frame f).bytes
  table : t.table = s.table
  disk : t.disk = s.disk

theorem Overflows.view_eq {why : Fault} (overflows : Overflows why s t) (q : PageId) :
    t.view q = s.view q := by
  simp only [view, overflows.table, overflows.disk, overflows.bytes]

theorem Overflows.keeps {why : Fault} (overflows : Overflows why s t) : s.Keeps t := by
  constructor
  · intro q block _ seen
    rwa [overflows.view_eq]
  · intro q _ unseen
    left
    rwa [overflows.view_eq]

/-- How a request fails. After an error the pool is in order and nothing that can be seen has changed,
and after the fault at least the latter holds. -/
def Fails (written : PageId → Prop) (s : Pool size pageSize) (why : Failure)
    (t : Pool size pageSize) : Prop :=
  match why with
  | .error _ => Leads written s t s.bytesOf
  | .fault f => Overflows f s t

theorem Fails.keeps {why : Failure} (fails : Fails written s why t) : s.Keeps t := by
  cases why with
  | error => exact Turns.keeps (Leads.turns fails)
  | fault => exact Overflows.keeps fails

theorem bytes_unpinned (s : Pool size pageSize) (f g : Fin size) :
    ((s.setFrame f { s.frame f with pins := 0 }).frame g).bytes = (s.frame g).bytes := by
  rw [frame_setFrame]
  split
  · next same => rw [same]
  · rfl

theorem overflows_pin (h : s.Sound) (full : ¬ (s.frame f).pins + 1 < Frame.pinLimit) :
    Overflows .addOverflow s (s.setFrame f { s.frame f with pins := 0 }) :=
  ⟨rfl, ⟨f, h.pins_full full⟩, bytes_unpinned s f, rfl, rfl⟩

/-! ### What each request does -/

theorem Proper.tallied (h : s.Proper written) (change : Counters → Counters) :
    (s.tallied change).Proper written := (h.leads_refl.tallied change).proper

theorem Proper.leads_used (h : s.Proper written) (held : (s.frame f).page = some page) :
    Leads written s (s.used f) s.bytesOf := (h.leads_touched held).tallied _

/-- What follows a count follows the state before it. -/
theorem Leads.of_tallied {change : Counters → Counters}
    (leads : Leads written (s.tallied change) t after) : Leads written s t after :=
  ⟨leads.proper, ⟨leads.turns.bytesOf, leads.turns.holds, leads.turns.blockAt,
    leads.turns.blockCount_le, leads.turns.maxFileSize_eq, leads.turns.isOpen_eq⟩,
    ⟨leads.spares.pins, leads.spares.page⟩⟩

theorem view_of_frame (h : s.Sound) (held : (s.frame f).page = some page) :
    s.view page = some (s.frame f).bytes := by
  rw [view, (h.table_iff page f).mpr held]

/-- New bytes of a resident page are seen. -/
theorem Leads.view_update {block : Block pageSize}
    (leads : Leads written s t (Function.update s.bytesOf page block))
    (held : (t.frame f).page = some page) : t.view page = some block := by
  apply view_eq_some_iff.mpr
  rw [leads.turns.bytesOf, Function.update_self]
  exact ⟨holds_of_frame leads.proper.sound held, rfl⟩

/-- New bytes go into the frame of a page, after steps that leave its bytes alone. -/
theorem Leads.filled (leads : Leads written s t s.bytesOf) (held : (t.frame f).page = some page)
    (block : Block pageSize) :
    Leads written s (t.filled f block true) (Function.update s.bytesOf page block) ∧
      (t.filled f block true).view page = some block := by
  have filled := leads.proper.leads_filled held block true (.inl rfl)
  rw [leads.bytesOf_eq] at filled
  have both := leads.trans filled
  have kept : ((t.filled f block true).frame f).page = some page := by
    rw [Pool.filled, frame_reframed_self]
    exact held
  exact ⟨both, both.view_update kept⟩

/-- The miss of a request that needs no pins of its own. -/
theorem Admits.spec {fill : Fill pageSize} {r : Except StoreError (Fin size)}
    {change : Counters → Counters} (h : s.Proper written) (absent : s.table[page]? = none)
    (addressable : page.Addressable pageSize) (admits : (s.tallied change).Admits page fill r t) :
    match r with
    | .ok f => Leads written s t (fill.bytesAfter s page) ∧ (t.frame f).page = some page ∧
        (t.frame f).pins = 0
    | .error _ => Leads written s t s.bytesOf := by
  have counted := h.tallied change
  cases r with
  | ok f =>
    exact ⟨(admits.leads counted absent addressable).of_tallied, admits.entered counted.sound⟩
  | error e => exact (admits.leads_of_error counted).of_tallied

/-- The page is not there, but whoever asks for it will find it: every frame is taken, and the page that
was used longest ago is dirty and lies behind it, so saving that page lengthens the file past it. -/
def Uncovers (s : Pool size pageSize) (page : PageId) : Prop :=
  s.view page = none ∧ s.free = [] ∧ ∃ f victim, s.recency.IsOldest f ∧
    (s.frame f).page = some victim ∧ (s.frame f).dirty = true ∧ page.index < victim.index

/-- What a request for the page finds: what could be seen of it, or what lies at its place in the file
once making room has uncovered it. -/
def Finds (s : Pool size pageSize) (page : PageId) (block : Block pageSize) : Prop :=
  s.view page = some block ∨ s.Uncovers page ∧ block = s.disk.blockAt page

theorem Finds.of_carries {block : Block pageSize} (carries : s.Carries t)
    (seen : t.view page = some block) (there : s.Holds page ∨ s.Uncovers page) :
    s.Finds page block := by
  obtain ⟨-, bytes⟩ := view_eq_some_iff.mp seen
  rw [carries.bytesOf] at bytes
  rcases there with holds | uncovers
  · exact .inl (view_eq_some_iff.mpr ⟨holds, bytes⟩)
  · rw [bytesOf_of_not_holds (view_eq_none_iff.mp uncovers.1)] at bytes
    exact .inr ⟨uncovers, bytes.symm⟩

/-- A page that is loaded was there, or making room has uncovered it. -/
theorem Admits.holds_or_uncovers (h : s.Sound) (absent : s.table[page]? = none)
    (admits : s.Admits page .load (.ok f) t) : s.Holds page ∨ s.Uncovers page := by
  by_cases counted : page.index < s.disk.blockCount
  · exact .inl (.inr counted)
  cases admits with
  | enters room source =>
    have inside := (Disk.block?_eq_ok_iff.mp (source_load_eq_ok_iff.mp source).1).1
    cases room with
    | free => exact absurd inside counted
    | @evict f victim full oldest held saves =>
      -- The page was not counted before the victim was saved, so that is what counted it.
      have grown : page.index < (s.saved f victim).disk.blockCount := inside
      rw [disk_saved] at grown
      split at grown
      · next newer =>
        rw [Disk.blockCount_written] at grown
        have apart : page ≠ victim := by
          rintro rfl
          simp [(h.table_iff page f).mpr held] at absent
        have unlike : page.index ≠ victim.index := fun same => apart (PageId.ext_index same)
        have unseen : s.view page = none := by simp [view, absent, counted]
        exact .inr ⟨unseen, full, f, victim, oldest, held, newer.1, by omega⟩
      · exact absurd grown counted

theorem fetch_spec (h : s.Proper written) (addressable : page.Addressable pageSize) :
    match fetch page s with
    | .ok f t => ∃ u, t = u.pinned f ∧ Leads written s u s.bytesOf ∧
        (u.frame f).page = some page ∧ (u.frame f).pins + 1 < Frame.pinLimit ∧
        (s.Holds page ∨ s.Uncovers page)
    | .error why t => Fails written s why t := by
  cases resident : s.table[page]? with
  | some f =>
    have held := (h.sound.table_iff page f).mp resident
    by_cases room : (s.frame f).pins + 1 < Frame.pinLimit
    · rw [fetch_hit h.sound resident room]
      exact ⟨s.used f, rfl, h.leads_used held, by simpa using held, by simpa using room,
        .inl (holds_of_frame h.sound held)⟩
    · simp only [fetch, Action.run_bind, pinPage_overflow resident room]
      exact overflows_pin h.sound room
  | none =>
    obtain ⟨r, t, admits, fetched⟩ := (fetch_miss h.sound resident addressable).sure
    have spec := admits.spec h resident addressable
    rw [fetched]
    cases r with
    | error e => exact spec
    | ok f =>
      obtain ⟨leads, held, unpinned⟩ := spec
      have room : (t.frame f).pins + 1 < Frame.pinLimit := by
        rw [unpinned]
        decide
      have there := admits.holds_or_uncovers (h.sound.tallied missCounted) resident
      exact ⟨t, rfl, leads, held, room, there⟩

theorem read_spec (h : s.Proper written) (addressable : page.Addressable pageSize) :
    match read page s with
    | .ok block t => Leads written s t s.bytesOf ∧ t.view page = some block ∧
        (s.Holds page ∨ s.Uncovers page)
    | .error why t => Fails written s why t := by
  cases resident : s.table[page]? with
  | some f =>
    have held := (h.sound.table_iff page f).mp resident
    by_cases room : (s.frame f).pins + 1 < Frame.pinLimit
    · rw [read_hit h.sound resident room]
      refine ⟨h.leads_used held, ?_, .inl (holds_of_frame h.sound held)⟩
      rw [view_of_frame (h.sound.used held) (by simpa using held), frame_used]
    · simp only [read, fetch, Action.run_bind, pinPage_overflow resident room]
      exact overflows_pin h.sound room
  | none =>
    obtain ⟨r, t, admits, ran⟩ := (read_miss h.sound resident addressable).sure
    have spec := admits.spec h resident addressable
    rw [ran]
    cases r with
    | error e => exact spec
    | ok f =>
      have there := admits.holds_or_uncovers (h.sound.tallied missCounted) resident
      exact ⟨spec.1, view_of_frame spec.1.proper.sound spec.2.1, there⟩

theorem writeBlock_spec (h : s.Proper written) (addressable : page.Addressable pageSize)
    (block : Block pageSize) :
    match writeBlock page block s with
    | .ok () t => Leads written s t (Function.update s.bytesOf page block) ∧
        t.view page = some block
    | .error why t => Fails written s why t := by
  cases resident : s.table[page]? with
  | some f =>
    have held := (h.sound.table_iff page f).mp resident
    by_cases room : (s.frame f).pins + 1 < Frame.pinLimit
    · rw [writeBlock_hit h.sound resident room]
      exact (h.leads_used held).filled (by simpa using held) block
    · simp only [writeBlock, Action.run_bind, pinPage_overflow resident room]
      exact overflows_pin h.sound room
  | none =>
    obtain ⟨r, t, admits, ran⟩ := (writeBlock_miss h.sound resident addressable block).sure
    have spec := admits.spec h resident addressable
    rw [ran]
    cases r with
    | error e => exact spec
    | ok f => exact ⟨spec.1, spec.1.view_update spec.2.1⟩

theorem write_spec (h : s.Proper written) (addressable : page.Addressable pageSize)
    (bytes : Array UInt8) :
    match write page bytes s with
    | .ok () t => ∃ block, block.toArray = bytes ∧
        Leads written s t (Function.update s.bytesOf page block) ∧ t.view page = some block
    | .error why t => Fails written s why t := by
  cases fits : (Block.ofArray? bytes : Option (Block pageSize)) with
  | none =>
    -- The length is checked before anything is looked up.
    simp only [write, fits, Action.run_reject]
    exact h.leads_refl
  | some block =>
    have spec := writeBlock_spec h addressable block
    simp only [write, fits]
    cases ran : writeBlock page block s with
    | ok _ t =>
      rw [ran] at spec
      exact ⟨block, (Block.ofArray?_eq_some_iff.mp fits).symm, spec⟩
    | error why t =>
      rw [ran] at spec
      exact spec

theorem create_spec (h : s.Proper written) (addressable : page.Addressable pageSize) :
    match create page s with
    | .ok () t => Leads written s t (Function.update s.bytesOf page .zero) ∧
        t.view page = some .zero
    | .error why t => Fails written s why t := by
  cases resident : s.table[page]? with
  | some f =>
    have held := (h.sound.table_iff page f).mp resident
    rw [create_hit resident]
    by_cases busy : (s.frame f).isPinned = true
    · rw [if_pos busy]
      exact h.leads_refl
    · rw [if_neg busy]
      exact (h.leads_touched held).filled (by simpa using held) .zero
  | none =>
    obtain ⟨r, t, admits, ran⟩ := (create_miss h.sound resident addressable).sure
    -- Making a page is no request for one: nothing is counted.
    have admits : (s.tallied id).Admits page (.put .zero) r t := admits
    have spec := admits.spec h resident addressable
    rw [ran]
    cases r with
    | error e => exact spec
    | ok f => exact ⟨spec.1, spec.1.view_update spec.2.1⟩

/-- What is left when a page has been dropped: the others, and its block in the file. -/
structure Drops (written : PageId → Prop) (s t : Pool size pageSize) (page : PageId) : Prop where
  proper : t.Proper written
  spares : s.Spares t
  absent : t.table[page]? = none
  table : ∀ q, q ≠ page → t.table[q]? = s.table[q]?
  bytesOf : ∀ q, q ≠ page → t.bytesOf q = s.bytesOf q
  holds : ∀ q, q ≠ page → (t.Holds q ↔ s.Holds q)
  disk : t.disk = s.disk

namespace Drops

theorem view_eq (drops : Drops written s t page) :
    t.view page =
      if page.index < s.disk.blockCount then some (s.disk.blockAt page) else none := by
  rw [view, drops.absent, drops.disk]

theorem keepsBut (drops : Drops written s t page) : KeepsBut (· = page) s t := by
  constructor
  · intro q block other seen
    obtain ⟨holds, bytes⟩ := view_eq_some_iff.mp seen
    exact view_eq_some_iff.mpr ⟨(drops.holds q other).mpr holds, (drops.bytesOf q other).trans bytes⟩
  · intro q other unseen
    left
    rw [view_eq_none_iff, drops.holds q other]
    exact view_eq_none_iff.mp unseen

end Drops

theorem invalidate_spec (h : s.Proper written) (page : PageId) :
    match invalidate page s with
    | .ok true t => Drops written s t page
    | .ok false t => t = s ∧ s.table[page]? = none
    | .error why t => Fails written s why t := by
  rw [invalidate_eq]
  cases resident : s.table[page]? with
  | none => exact ⟨rfl, rfl⟩
  | some f =>
    have held := (h.sound.table_iff page f).mp resident
    by_cases busy : (s.frame f).isPinned = true
    · simp only [busy, if_true]
      exact h.leads_refl
    · have unpinned : (s.frame f).pins = 0 := by simpa [Frame.isPinned] using busy
      have spares : s.Spares (s.vacated f page) := .vacated unpinned
      -- The page is gone unsaved, so `leads_vacated` does not apply: its bytes do change.
      have table : ∀ q, q ≠ page → (s.vacated f page).table[q]? = s.table[q]? := by
        intro q other
        rw [table_vacated, if_neg (Ne.symm other)]
      simp only [busy]
      constructor
      case proper =>
        exact ⟨(h.sound.vacated held unpinned).tallied _, h.coherent.vacated.tallied _,
          spares.anchored h.anchored, h.counted, h.reliable⟩
      case spares => exact ⟨spares.pins, spares.page⟩
      case absent => exact (table_vacated s f page page).trans (if_pos rfl)
      case table => exact table
      case bytesOf => exact fun q other => (bytesOf_vacated h.sound held q).trans (if_neg other)
      case holds =>
        intro q other
        show (s.vacated f page).table[q]?.isSome ∨ q.index < s.disk.blockCount ↔ s.Holds q
        rw [table q other]
        rfl
      case disk => rfl

theorem flush_spec (h : s.Proper written) (page : PageId) :
    match flush page s with
    | .ok _ t => Leads written s t s.bytesOf
    | .error why t => Fails written s why t := by
  cases resident : s.table[page]? with
  | none =>
    simp only [flush, Action.run_bind, Action.run_get, resident, Action.run_pure]
    exact h.leads_refl
  | some f =>
    have held := (h.sound.table_iff page f).mp resident
    by_cases room : (s.frame f).pins + 1 < Frame.pinLimit
    · rw [(flush_eq h.sound resident room).sure]
      by_cases clean : (s.frame f).dirty = false
      · rw [if_pos clean]
        exact h.leads_refl
      · by_cases granted : s.disk.Takes page
        · rw [if_neg clean, if_pos granted]
          exact h.leads_saved held
        · rw [if_neg clean, if_neg granted, spoiled_of_reliable h.reliable]
          exact h.leads_refl
    · simp only [flush, Action.run_bind, Action.run_get, resident, pin_eq_fault room]
      exact overflows_pin h.sound room

/-- Letting go of the file touches no page. -/
theorem Proper.shut (h : s.Proper written) :
    s.shut.Proper written ∧ s.Spares s.shut ∧ s.Keeps s.shut := by
  have proper : s.shut.Proper written :=
    ⟨h.sound.shut, h.coherent, h.anchored, h.counted, h.reliable⟩
  exact ⟨proper, ⟨fun _ => rfl, fun _ _ => rfl⟩, fun q block _ => id, fun q _ => .inl⟩

/-- A flush of all pages that needs one pin too many ends before anything is written. -/
theorem forM_pin_overflow {order : List (PageId × Fin size)} (flushable : s.Flushable order)
    (full : ¬ ∀ entry ∈ order, (s.frame entry.2).pins + 1 < Frame.pinLimit) :
    ∃ t, order.forM (fun entry => pin entry.2) s = .error (.fault .addOverflow) t ∧
      (∀ g, (t.frame g).bytes = (s.frame g).bytes) ∧ t.table = s.table ∧ t.disk = s.disk := by
  -- The loop takes pins up to the first frame that has no room for one, and writes nothing before that.
  induction order generalizing s with
  | nil => exact absurd (by simp) full
  | cons entry rest ih =>
    obtain ⟨page, f⟩ := entry
    have first : ((page, f) :: rest).forM (fun entry => pin entry.2) s =
        (pin f >>= fun _ => rest.forM fun entry => pin entry.2) s := rfl
    rw [first, Action.run_bind]
    by_cases room : (s.frame f).pins + 1 < Frame.pinLimit
    · -- The first frame takes its pin, so one of the others does not.
      have others : ¬ ∀ entry ∈ rest, ((s.pinned f).frame entry.2).pins + 1 < Frame.pinLimit := by
        intro all
        apply full
        intro entry listed
        rcases List.mem_cons.mp listed with rfl | later
        · exact room
        · have spared := all entry later
          rwa [pinned, frame_reframed, if_neg (flushable.not_mem_tail later)] at spared
      obtain ⟨t, stopped, bytes, table, disk⟩ := ih flushable.pinned others
      rw [pin_eq room]
      exact ⟨t, stopped, fun g => (bytes g).trans (bytes_pinned s f g), table, disk⟩
    · rw [pin_eq_fault room]
      exact ⟨_, rfl, bytes_unpinned s f, rfl, rfl⟩

theorem flushFrames_overflow {order : List (PageId × Fin size)} (flushable : s.Flushable order)
    (full : ¬ ∀ entry ∈ order, (s.frame entry.2).pins + 1 < Frame.pinLimit) :
    ∃ t, flushFrames order s = .error (.fault .addOverflow) t ∧
      (∀ g, (t.frame g).bytes = (s.frame g).bytes) ∧ t.table = s.table ∧ t.disk = s.disk := by
  obtain ⟨t, stopped, kept⟩ := forM_pin_overflow flushable full
  exact ⟨t, by simp only [flushFrames, Action.run_bind, stopped], kept⟩

theorem flushFrames_spec (h : s.Proper written) {order : List (PageId × Fin size)}
    (listed : order.Perm s.dirtyFrames) :
    match flushFrames order s with
    | .ok _ t => Leads written s t s.bytesOf ∧ ∀ f, (t.frame f).dirty = false
    | .error why t => Fails written s why t := by
  have flushable := dirtyFrames_flushable h.sound listed
  by_cases room : ∀ entry ∈ order, (s.frame entry.2).pins + 1 < Frame.pinLimit
  · -- All can be pinned, so what is left is what was saved.
    have leads := h.leads_savedAll flushable.held
    have clean := clean_savedAll_dirtyFrames h.sound listed
    rw [(flushFrames_eq h.sound flushable room).sure]
    generalize savedAll order s = saving at leads clean
    obtain ⟨refused, t⟩ := saving
    cases refused with
    | some e => exact leads
    | none => exact ⟨leads, clean rfl⟩
  · obtain ⟨t, stopped, bytes, table, disk⟩ := flushFrames_overflow flushable room
    obtain ⟨_, f, -, most⟩ :
        ∃ page f, (page, f) ∈ order ∧ Frame.pinLimit ≤ (s.frame f).pins + 1 := by simpa using room
    rw [stopped]
    exact ⟨rfl, ⟨f, h.sound.pins_full (Nat.not_lt.mpr most)⟩, bytes, table, disk⟩

end PagedStorage.Pool
