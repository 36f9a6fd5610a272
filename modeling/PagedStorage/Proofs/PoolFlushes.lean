import PagedStorage.Proofs.PoolRequests

/-!
# Flushing

A flush pins what it writes and gives each pin up again, so all that is left of it is that pages were
saved. Flushing all pages saves the dirty ones one after the other and stops saving at the first that
is refused (`savedAll`), in whatever order they come.
-/

namespace PagedStorage.Pool

variable {size pageSize n : Nat} {s t : Pool size pageSize} {f g : Fin size} {page : PageId}

/-! ### One page -/

@[simp] theorem disk_pinned (s : Pool size pageSize) (f : Fin size) :
    (s.pinned f).disk = s.disk := rfl

@[simp] theorem dirty_pinned (s : Pool size pageSize) (f g : Fin size) :
    ((s.pinned f).frame g).dirty = (s.frame g).dirty := by
  rw [pinned, frame_reframed]
  split
  · next same => rw [same]
  · rfl

/-- Saving a page and pinning a frame do not get in each other's way. -/
theorem saved_pinned (s : Pool size pageSize) (f g : Fin size) (page : PageId) :
    (s.pinned g).saved f page = (s.saved f page).pinned g := by
  by_cases newer : (s.frame f).dirty = true ∧ page.index + 1 < 0x100000000
  · have also : ((s.pinned g).frame f).dirty = true ∧ page.index + 1 < 0x100000000 := by
      rwa [dirty_pinned]
    have disk : ((s.pinned g).saved f page).disk = ((s.saved f page).pinned g).disk := by
      rw [disk_saved, dif_pos also, bytes_pinned, disk_pinned, disk_pinned, disk_saved, dif_pos newer]
    -- Saving changes the dirty flag and pinning the pins, so the order shows in no frame.
    have frame : ∀ i, ((s.pinned g).saved f page).frame i = ((s.saved f page).pinned g).frame i := by
      intro i
      simp only [frame_saved _ _ _ newer.2, pinned, frame_reframed]
      by_cases first : f = i <;> by_cases second : g = i <;> by_cases both : g = f <;>
        simp_all [Frame.clearDirty]
    refine ext_frame frame ?_ ?_ ?_ disk ?_ <;> rw [saved, dif_pos also, saved, dif_pos newer] <;> rfl
  · have neither : ¬ (((s.pinned g).frame f).dirty = true ∧ page.index + 1 < 0x100000000) := by
      rwa [dirty_pinned]
    rw [saved, dif_neg neither, saved, dif_neg newer]

theorem spoiled_pinned (s : Pool size pageSize) (f g : Fin size) (page : PageId) :
    (s.pinned g).spoiled f page = (s.spoiled f page).pinned g := by
  rw [spoiled, bytes_pinned]
  rfl

theorem flush_eq (h : s.SoundAt n) (resident : s.table[page]? = some f)
    (room : (s.frame f).pins + 1 < Frame.pinLimit) :
    Barring n (flush page) s (flush page s =
      if (s.frame f).dirty = false then .ok false s
      else if s.disk.Takes page then .ok true (s.saved f page)
      else .error (.error (s.disk.refusal page)) (s.spoiled f page)) := by
  have held := (h.table_iff page f).mp resident
  refine (writeBack_eq (f := f) (s := s.pinned f) (h.addressable f page held)).imp
    (fun saving => ?_) fun stops => ?_
  · rw [saved_pinned, spoiled_pinned, dirty_pinned, disk_pinned] at saving
    have kept := unpin_pinned h held
    have marred := unpin_pinned (h.spoiled f page) held
    have left : unpin f ((s.saved f page).pinned f) = .ok () (s.saved f page) := by
      have there : ((s.saved f page).frame f).page = some page := by rwa [page_saved]
      exact unpin_pinned (h.saved held) there
    -- However saving ends, the pin is given up.
    simp only [flush, Action.run_bind, Action.run_get, resident, pin_eq room, Action.run_attempt,
      saving]
    by_cases clean : (s.frame f).dirty = false
    · simp [clean, kept]
    · by_cases granted : s.disk.Takes page
      · simp [clean, granted, left]
      · simp [clean, granted, marred]
  · apply Action.Faults.after (Action.run_get s)
    rw [resident]
    exact .after (pin_eq room) (stops.attempt.bind _)

/-! ### All pages -/

theorem pinned_comm (h : s.recency.Sound) (f g : Fin size) :
    (s.pinned f).pinned g = (s.pinned g).pinned f := by
  refine ext_frame ?_ rfl rfl (h.setEvictable_comm f g false) rfl rfl
  intro i
  simp only [pinned, frame_reframed]
  by_cases first : f = i <;> by_cases second : g = i <;> by_cases both : f = g <;> simp_all

/-- The pool with the frames of a list pinned. -/
def pinnedAll (s : Pool size pageSize) (order : List (PageId × Fin size)) : Pool size pageSize :=
  order.foldr (fun entry s => s.pinned entry.2) s

/-- Saves pages in their order up to the first that cannot be saved, and says why that one could not. -/
def savedAll : List (PageId × Fin size) → Pool size pageSize →
    Option StoreError × Pool size pageSize
  | [], s => (none, s)
  | (page, f) :: rest, s =>
    if s.disk.Takes page then savedAll rest (s.saved f page)
    else (some (s.disk.refusal page), s.spoiled f page)

/-- What each page that is saved keeps, and the one that cannot be saved, is kept by all of them. -/
theorem savedAll_keeps {R : Pool size pageSize → Pool size pageSize → Prop}
    (refl : ∀ s, R s s) (trans : ∀ s t u, R s t → R t u → R s u)
    (saved : ∀ s f page, R s (s.saved f page))
    (spoiled : ∀ s f page, R s (s.spoiled f page)) (order : List (PageId × Fin size))
    (s : Pool size pageSize) : R s (savedAll order s).2 := by
  induction order generalizing s with
  | nil => exact refl s
  | cons entry rest ih =>
    rw [savedAll]
    split
    · exact trans _ _ _ (saved s _ _) (ih _)
    · exact spoiled s _ _

/-- Dirty frames with their pages, each but once. -/
structure Flushable (s : Pool size pageSize) (order : List (PageId × Fin size)) : Prop where
  nodup : (order.map Prod.snd).Nodup
  held : ∀ entry ∈ order, (s.frame entry.2).page = some entry.1
  dirty : ∀ entry ∈ order, (s.frame entry.2).dirty = true

namespace Flushable

variable {rest : List (PageId × Fin size)}

theorem tail (h : s.Flushable ((page, f) :: rest)) : s.Flushable rest :=
  ⟨(List.nodup_cons.mp h.nodup).2, fun entry listed => h.held entry (List.mem_cons_of_mem _ listed),
    fun entry listed => h.dirty entry (List.mem_cons_of_mem _ listed)⟩

theorem not_mem_tail (h : s.Flushable ((page, f) :: rest)) {entry : PageId × Fin size}
    (listed : entry ∈ rest) : f ≠ entry.2 := by
  rintro rfl
  exact (List.nodup_cons.mp h.nodup).1 (List.mem_map.mpr ⟨entry, listed, rfl⟩)

/-- Saving a page does not touch the others. -/
theorem saved (h : s.Flushable ((page, f) :: rest)) (next : page.index + 1 < 0x100000000) :
    (s.saved f page).Flushable rest := by
  have kept : ∀ entry ∈ rest, (s.saved f page).frame entry.2 = s.frame entry.2 := by
    intro entry listed
    rw [frame_saved _ _ _ next, if_neg (h.not_mem_tail listed)]
  exact ⟨h.tail.nodup, fun entry listed => kept entry listed ▸ h.tail.held entry listed,
    fun entry listed => kept entry listed ▸ h.tail.dirty entry listed⟩

theorem spoiled (h : s.Flushable rest) : (s.spoiled f page).Flushable rest :=
  ⟨h.nodup, h.held, h.dirty⟩

theorem pinned (h : s.Flushable ((page, f) :: rest)) : (s.pinned f).Flushable rest := by
  have kept : ∀ entry ∈ rest, (s.pinned f).frame entry.2 = s.frame entry.2 := by
    intro entry listed
    rw [Pool.pinned, frame_reframed, if_neg (h.not_mem_tail listed)]
  exact ⟨h.tail.nodup, fun entry listed => kept entry listed ▸ h.tail.held entry listed,
    fun entry listed => kept entry listed ▸ h.tail.dirty entry listed⟩

end Flushable

theorem mem_dirtyFrames_iff (h : s.SoundAt n) {entry : PageId × Fin size} :
    entry ∈ s.dirtyFrames ↔
      (s.frame entry.2).page = some entry.1 ∧ (s.frame entry.2).dirty = true := by
  rw [dirtyFrames, List.mem_filter, Std.ExtTreeMap.mem_toList_iff_getElem?_eq_some, h.table_iff]

theorem dirtyFrames_eq_nil (h : s.SoundAt n) (clean : ∀ f, (s.frame f).dirty = false) :
    s.dirtyFrames = [] := by
  apply List.eq_nil_iff_forall_not_mem.mpr
  intro entry mem
  have newer := ((mem_dirtyFrames_iff h).mp mem).2
  simp [clean entry.2] at newer

/-- A dirty frame holds a page. -/
theorem SoundAt.page_of_dirty (h : s.SoundAt n) (newer : (s.frame f).dirty = true) :
    ∃ page, (s.frame f).page = some page := by
  cases held : (s.frame f).page with
  | some page => exact ⟨page, rfl⟩
  | none => simp [h.empty_of_free f held, Frame.empty] at newer

/-- The table lists each frame once. -/
theorem SoundAt.frames_nodup (h : s.SoundAt n) : (s.table.toList.map Prod.snd).Nodup := by
  have distinct : s.table.toList.Pairwise fun a b => ¬ compare a.1 b.1 = .eq :=
    Std.ExtTreeMap.distinct_keys_toList
  apply List.pairwise_map.mpr
  apply distinct.imp_of_mem
  intro a b ha hb apart same
  -- It lists each page once, and a frame has one page at most.
  have first := (h.table_iff _ _).mp (Std.ExtTreeMap.mem_toList_iff_getElem?_eq_some.mp ha)
  have second := (h.table_iff _ _).mp (Std.ExtTreeMap.mem_toList_iff_getElem?_eq_some.mp hb)
  rw [same, second] at first
  rw [Option.some.inj first] at apart
  exact apart Std.compare_self

/-- The dirty frames can be flushed in any order. -/
theorem dirtyFrames_flushable (h : s.SoundAt n) {order : List (PageId × Fin size)}
    (listed : order.Perm s.dirtyFrames) : s.Flushable order := by
  have nodup : (s.dirtyFrames.map Prod.snd).Nodup := h.frames_nodup.sublist
    (List.filter_sublist.map Prod.snd)
  constructor
  case nodup => exact (listed.map Prod.snd).nodup_iff.mpr nodup
  case held =>
    intro entry mem
    exact ((mem_dirtyFrames_iff h).mp (listed.mem_iff.mp mem)).1
  case dirty =>
    intro entry mem
    exact ((mem_dirtyFrames_iff h).mp (listed.mem_iff.mp mem)).2

section PinnedAll

variable {order rest : List (PageId × Fin size)}

theorem pinnedAll_cons (s : Pool size pageSize) (entry : PageId × Fin size)
    (rest : List (PageId × Fin size)) :
    s.pinnedAll (entry :: rest) = (s.pinnedAll rest).pinned entry.2 := rfl

@[simp] theorem disk_pinnedAll (s : Pool size pageSize) (order : List (PageId × Fin size)) :
    (s.pinnedAll order).disk = s.disk := by
  induction order with
  | nil => rfl
  | cons entry rest ih => exact ih

theorem frame_pinnedAll (apart : ∀ entry ∈ order, entry.2 ≠ f) :
    (s.pinnedAll order).frame f = s.frame f := by
  induction order with
  | nil => rfl
  | cons entry rest ih =>
    obtain ⟨first, others⟩ := List.forall_mem_cons.mp apart
    rw [pinnedAll_cons, pinned, frame_reframed, if_neg first, ih others]

theorem recency_pinnedAll (h : s.recency.Sound) (order : List (PageId × Fin size)) :
    (s.pinnedAll order).recency.Sound := by
  induction order with
  | nil => exact h
  | cons entry rest ih => exact ih.setEvictable entry.2 false

/-- It makes no difference which frame is pinned first. -/
theorem pinnedAll_pinned (h : s.recency.Sound) (order : List (PageId × Fin size)) (f : Fin size) :
    (s.pinned f).pinnedAll order = (s.pinnedAll order).pinned f := by
  induction order with
  | nil => rfl
  | cons entry rest ih =>
    rw [pinnedAll_cons, ih, pinnedAll_cons, pinned_comm (recency_pinnedAll h rest)]

theorem saved_pinnedAll (s : Pool size pageSize) (order : List (PageId × Fin size)) (f : Fin size)
    (page : PageId) : (s.pinnedAll order).saved f page = (s.saved f page).pinnedAll order := by
  induction order with
  | nil => rfl
  | cons entry rest ih =>
    rw [pinnedAll_cons, saved_pinned, ih, pinnedAll_cons]

theorem spoiled_pinnedAll (s : Pool size pageSize) (order : List (PageId × Fin size)) (f : Fin size)
    (page : PageId) : (s.pinnedAll order).spoiled f page = (s.spoiled f page).pinnedAll order := by
  induction order with
  | nil => rfl
  | cons entry rest ih =>
    rw [pinnedAll_cons, spoiled_pinned, ih, pinnedAll_cons]

theorem SoundAt.pinnedAll (h : s.SoundAt n) (flushable : s.Flushable order)
    (room : ∀ entry ∈ order, (s.frame entry.2).pins + 1 < Frame.pinLimit) :
    (s.pinnedAll order).SoundAt n := by
  induction order with
  | nil => exact h
  | cons entry rest ih =>
    obtain ⟨page, f⟩ := entry
    obtain ⟨first, others⟩ := List.forall_mem_cons.mp room
    have sound := ih flushable.tail others
    have kept : (s.pinnedAll rest).frame f = s.frame f :=
      frame_pinnedAll fun e listed => (flushable.not_mem_tail listed).symm
    have there : ((s.pinnedAll rest).frame f).page = some page := by
      rw [kept]
      exact flushable.held _ List.mem_cons_self
    apply sound.pinned there
    rw [kept]
    exact first

/-- Either all frames of a list are pinned, or one of them has all the pins it can have. -/
theorem forM_pin_eq (h : s.SoundAt n) (flushable : s.Flushable order)
    (room : ∀ entry ∈ order, (s.frame entry.2).pins + 1 < Frame.pinLimit) :
    order.forM (fun entry => pin entry.2) s = .ok () (s.pinnedAll order) := by
  -- Pins are taken one by one, each in the pool that the ones before have left.
  induction order generalizing s with
  | nil => rfl
  | cons entry rest ih =>
    obtain ⟨page, f⟩ := entry
    obtain ⟨first, others⟩ := List.forall_mem_cons.mp room
    have held := flushable.held _ List.mem_cons_self
    -- Frames in a list that has none twice have the same room after the first was pinned.
    have spared : ∀ e ∈ rest, ((s.pinned f).frame e.2).pins + 1 < Frame.pinLimit := by
      intro e listed
      rw [pinned, frame_reframed, if_neg (flushable.not_mem_tail listed)]
      exact others e listed
    have pinning := ih (h.pinned held first) flushable.pinned spared
    show (pin f >>= fun _ => rest.forM fun entry => pin entry.2) s = _
    simp only [Action.run_bind, pin_eq first, pinning, pinnedAll_pinned h.recency, pinnedAll_cons]

theorem unpin_pinnedAll (h : s.SoundAt n) (flushable : s.Flushable rest)
    (room : ∀ entry ∈ rest, (s.frame entry.2).pins + 1 < Frame.pinLimit)
    (held : (s.frame f).page = some page) (apart : ∀ entry ∈ rest, entry.2 ≠ f) :
    unpin f (s.pinnedAll ((page, f) :: rest)) = .ok () (s.pinnedAll rest) := by
  have there : ((s.pinnedAll rest).frame f).page = some page := by
    rw [frame_pinnedAll apart, held]
  exact unpin_pinned (h.pinnedAll flushable room) there

/-- The pins of a flush that has stopped are given up all the same. -/
theorem writeBackAll_stopped (h : s.SoundAt n) (flushable : s.Flushable order)
    (room : ∀ entry ∈ order, (s.frame entry.2).pins + 1 < Frame.pinLimit) (count : Nat)
    (e : StoreError) : writeBackAll order count (some e) (s.pinnedAll order) = .ok (.error e) s := by
  -- The frames that are still pinned are those of the list.
  induction order with
  | nil => rfl
  | cons entry rest ih =>
    obtain ⟨page, f⟩ := entry
    obtain ⟨-, others⟩ := List.forall_mem_cons.mp room
    have left := unpin_pinnedAll h flushable.tail others (flushable.held _ List.mem_cons_self)
      fun e listed => (flushable.not_mem_tail listed).symm
    simp only [writeBackAll, Action.run_bind, left, ih flushable.tail others]

theorem writeBackAll_eq (h : s.SoundAt n) (flushable : s.Flushable order)
    (room : ∀ entry ∈ order, (s.frame entry.2).pins + 1 < Frame.pinLimit) (count : Nat) :
    Barring n (writeBackAll order count none) (s.pinnedAll order)
      (writeBackAll order count none (s.pinnedAll order) =
        match savedAll order s with
        | (none, t) => .ok (.ok (count + order.length)) t
        | (some e, t) => .ok (.error e) t) := by
  -- Saving a page commutes with the pins of the others, so the rest starts from `s.saved f page`.
  induction order generalizing s count with
  | nil => exact .inl rfl
  | cons entry rest ih =>
    obtain ⟨page, f⟩ := entry
    obtain ⟨-, others⟩ := List.forall_mem_cons.mp room
    have held : (s.frame f).page = some page := flushable.held _ List.mem_cons_self
    have apart : ∀ entry ∈ rest, entry.2 ≠ f :=
      fun e listed => (flushable.not_mem_tail listed).symm
    have addressable := h.addressable f page held
    rcases writeBack_eq (f := f) (s := s.pinnedAll ((page, f) :: rest)) addressable with
      saving | ⟨larger, stops⟩
    · have newer : ((s.pinnedAll ((page, f) :: rest)).frame f).dirty = true := by
        rw [pinnedAll_cons, dirty_pinned, frame_pinnedAll apart]
        exact flushable.dirty _ List.mem_cons_self
      rw [saved_pinnedAll, spoiled_pinnedAll, disk_pinnedAll, newer] at saving
      -- The page is saved and its pin given up, or the flush stops here.
      by_cases granted : s.disk.Takes page
      · have tail := flushable.saved addressable.1
        have spared : ∀ entry ∈ rest, ((s.saved f page).frame entry.2).pins + 1 < Frame.pinLimit := by
          intro e listed
          rw [(Spares.saved s f page).pins]
          exact others e listed
        have named : ((s.saved f page).frame f).page = some page := by rwa [page_saved]
        have left := unpin_pinnedAll (h.saved held) tail spared named apart
        have counted : count + 1 + rest.length = count + (rest.length + 1) := by omega
        have running : writeBackAll ((page, f) :: rest) count none (s.pinnedAll ((page, f) :: rest)) =
            writeBackAll rest (count + 1) none ((s.saved f page).pinnedAll rest) := by
          simp [writeBackAll, saving, granted, left]
        refine (ih (h.saved held) tail spared (count + 1)).imp (fun ran => ?_)
          fun stops => stops.congr running
        rw [running, ran, savedAll, if_pos granted, counted, List.length_cons]
      · left
        have marred := h.spoiled f page
        have left := unpin_pinnedAll marred flushable.tail.spoiled others held apart
        simp [writeBackAll, saving, savedAll, granted, left,
          writeBackAll_stopped marred flushable.tail.spoiled others]
    · exact .inr ⟨larger, stops.attempt.bind _⟩

end PinnedAll

/-! ### What is saved -/

section SavedAll

variable {written : PageId → Prop}

/-- Saving any number of pages changes no byte of any page. -/
theorem Proper.leads_savedAll (h : s.Proper written) {order : List (PageId × Fin size)}
    (held : ∀ entry ∈ order, (s.frame entry.2).page = some entry.1) :
    Leads written s (savedAll order s).2 s.bytesOf := by
  -- Every page of the list is still in its frame when its turn comes.
  induction order generalizing s with
  | nil => exact h.leads_refl
  | cons entry rest ih =>
    obtain ⟨page, f⟩ := entry
    rw [savedAll]
    split
    · obtain ⟨first, rest_held⟩ := List.forall_mem_cons.mp held
      have saved := h.leads_saved first
      have others := ih saved.proper fun entry listed => by
        rw [page_saved]
        exact rest_held entry listed
      rw [saved.bytesOf_eq] at others
      exact saved.trans others
    · rw [spoiled_of_reliable h.reliable]
      exact h.leads_refl

@[simp] theorem table_savedAll (order : List (PageId × Fin size)) (s : Pool size pageSize) :
    (savedAll order s).2.table = s.table :=
  savedAll_keeps (R := fun s t => t.table = s.table) (fun _ => rfl)
    (fun _ _ _ first second => second.trans first) table_saved (fun _ _ _ => rfl) order s

theorem hasRoom_saved (f : Fin size) (page : PageId) {other : PageId}
    (room : s.disk.HasRoom other) : (s.saved f page).disk.HasRoom other := by
  unfold saved
  split
  · exact room.written ..
  · exact room

theorem hasRoom_saved_iff (f : Fin size) {other : PageId} (room : s.disk.HasRoom page) :
    (s.saved f page).disk.HasRoom other ↔ s.disk.HasRoom other := by
  unfold saved
  split
  · exact room.written_iff ..
  · exact Iff.rfl

theorem takes_saved_iff (f : Fin size) {other : PageId} (room : s.disk.HasRoom page) :
    (s.saved f page).disk.Takes other ↔ s.disk.Takes other := by
  unfold Disk.Takes
  rw [hasRoom_saved_iff f room, isOpen_saved, device_saved]

/-- Everything is saved exactly if the file takes all pages as it is. What is saved on the way makes no
difference, for it gives no other page room. -/
theorem savedAll_eq_none_iff {order : List (PageId × Fin size)} :
    (savedAll order s).1 = none ↔ ∀ entry ∈ order, s.disk.Takes entry.1 := by
  -- What the first page needs is asked of the file as it is, and what the others need after it.
  induction order generalizing s with
  | nil => simp [savedAll]
  | cons entry rest ih =>
    obtain ⟨page, f⟩ := entry
    rw [savedAll, List.forall_mem_cons]
    split
    · next granted =>
      rw [ih, and_iff_right granted]
      simp only [takes_saved_iff f granted.1]
    · next denied => simp [denied]

/-- What has been saved is clean, and so is what was clean. -/
theorem clean_savedAll (h : s.SoundAt n) {order : List (PageId × Fin size)}
    (flushable : s.Flushable order) (done : (savedAll order s).1 = none) {f : Fin size}
    (listed : (∃ entry ∈ order, entry.2 = f) ∨ (s.frame f).dirty = false) :
    ((savedAll order s).2.frame f).dirty = false := by
  -- Either the frame is clean by now, or it is still to come in the list.
  induction order generalizing s with
  | nil => exact listed.resolve_left (by simp)
  | cons entry rest ih =>
    obtain ⟨page, g⟩ := entry
    have held : (s.frame g).page = some page := flushable.held _ List.mem_cons_self
    have next := (h.addressable g page held).1
    rw [savedAll] at done ⊢
    split at done
    · next granted =>
      rw [if_pos granted]
      apply ih (h.saved held) (flushable.saved next) done
      rw [frame_saved _ _ _ next]
      rcases listed with ⟨entry, mem, rfl⟩ | clean
      · rcases List.mem_cons.mp mem with rfl | later
        · -- The frame that was saved just now is clean, and later saves leave it so.
          exact .inr (by rw [if_pos rfl]; rfl)
        · exact .inl ⟨entry, later, rfl⟩
      · right
        split
        · rfl
        · exact clean
    · cases done

/-- What is saved of the dirty frames leaves none of them dirty. -/
theorem clean_savedAll_dirtyFrames (h : s.SoundAt n) {order : List (PageId × Fin size)}
    (listed : order.Perm s.dirtyFrames) (done : (savedAll order s).1 = none) (f : Fin size) :
    ((savedAll order s).2.frame f).dirty = false := by
  apply clean_savedAll h (dirtyFrames_flushable h listed) done
  cases newer : (s.frame f).dirty with
  | false => exact .inr rfl
  | true =>
    obtain ⟨page, held⟩ := h.page_of_dirty newer
    have dirty : (page, f) ∈ s.dirtyFrames := (mem_dirtyFrames_iff h).mpr ⟨held, newer⟩
    exact .inl ⟨(page, f), listed.mem_iff.mpr dirty, rfl⟩

end SavedAll

/-- A flush of dirty frames that can all be pinned once more saves their pages in turn. -/
theorem flushFrames_eq (h : s.SoundAt n) {order : List (PageId × Fin size)}
    (flushable : s.Flushable order)
    (room : ∀ entry ∈ order, (s.frame entry.2).pins + 1 < Frame.pinLimit) :
    Barring n (flushFrames order) s (flushFrames order s =
      match savedAll order s with
      | (none, t) => .ok order.length t
      | (some e, t) => .error (.error e) t) := by
  have pinning := forM_pin_eq h flushable room
  refine (writeBackAll_eq h flushable room 0).imp (fun ran => ?_) fun stops => ?_
  · simp only [flushFrames, Action.run_bind, pinning, ran]
    cases savedAll order s with
    | mk refused t => cases refused <;> simp
  · exact .after pinning (stops.bind _)

end PagedStorage.Pool
