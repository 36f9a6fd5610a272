import PagedStorage.Proofs.PoolEffects

/-!
# Requests to a pool

How each request ends. A request for a resident page is a hit: it uses the page where it is. Any
other request is a miss and ends as bringing the page in ends (`Admits`), counted first. The pins
that reading and writing take for themselves are given up again and leave no trace.
-/

namespace PagedStorage.Pool

variable {size pageSize n : Nat} {s t : Pool size pageSize} {f : Fin size} {page : PageId}

def hitCounted (c : Counters) : Counters := { c with hits := c.hits + 1 }

def missCounted (c : Counters) : Counters := { c with misses := c.misses + 1 }

/-- The pool after a request has found its page resident. -/
def used (s : Pool size pageSize) (f : Fin size) : Pool size pageSize :=
  (s.touched f).tallied hitCounted

@[simp] theorem frame_used (s : Pool size pageSize) (f g : Fin size) :
    (s.used f).frame g = s.frame g := frame_touched s f g

theorem SoundAt.used (h : s.SoundAt n) (held : (s.frame f).page = some page) :
    (s.used f).SoundAt n :=
  (h.touched held).tallied _

/-! ### Pins that are given up -/

@[simp] theorem bytes_pinned (s : Pool size pageSize) (f g : Fin size) :
    ((s.pinned f).frame g).bytes = (s.frame g).bytes := by
  rw [pinned, frame_reframed]
  split
  · next same => rw [same]
  · rfl

theorem unpin_pinned (h : s.SoundAt n) (held : (s.frame f).page = some page) :
    unpin f (s.pinned f) = .ok () s := by
  -- The pin that is given up is at least the one that was taken.
  have more : 0 < ((s.pinned f).frame f).pins := by
    rw [pinned, frame_reframed_self]
    exact Nat.succ_pos _
  rw [unpin_eq more, unpinned_pinned h held]

theorem release_pinned (h : s.SoundAt n) (held : (s.frame f).page = some page) :
    release f false (s.pinned f) = .ok () s := by
  simp [release, unpin_pinned h held]

/-- Whoever could write leaves the frame dirty. -/
theorem release_written (h : s.SoundAt n) (held : (s.frame f).page = some page)
    (bytes : Block pageSize) (dirty : Bool) :
    release f true ((s.filled f bytes dirty).pinned f) = .ok () (s.filled f bytes true) := by
  have marked : editFrame f Frame.markDirty ((s.filled f bytes dirty).pinned f) =
      .ok () ((s.filled f bytes true).pinned f) := by
    simp only [editFrame_eq, pinned, filled, frame_reframed_self, reframed_reframed]
    rfl
  have sound := h.filled held bytes true
  have kept : ((s.filled f bytes true).frame f).page = some page := by
    rw [filled, frame_reframed_self]
    exact held
  simp [release, marked, unpin_pinned sound kept]

/-- A page that was just brought in may be evicted as soon as it is not pinned. -/
theorem evictable_guarded (h : s.SoundAt n) (held : (s.frame f).page = some page)
    (unpinned : (s.frame f).pins = 0) :
    editRecency (·.setEvictable f true) (s.guarded f) = .ok () s := by
  -- The frame was evictable before it was guarded, since it has no pin.
  have settled : (s.recency.setEvictable f false).setEvictable f true = s.recency := by
    rw [h.recency.setEvictable_setEvictable]
    apply Recency.setEvictable_of_standing
    simp [h.standing_of_page held, Frame.isPinned, unpinned]
  have recency : (s.guarded f).recency = s.recency.setEvictable f false := rfl
  rw [editRecency_eq _ f, recency, settled]
  simp only [guarded, frame_reframed_self, reframed_reframed, reframed_self]

theorem pinned_guarded (h : s.SoundAt n) : (s.guarded f).pinned f = s.pinned f := by
  have settled := h.recency.setEvictable_setEvictable f false false
  simp only [guarded, pinned, frame_reframed_self, reframed_reframed]
  exact congrArg _ settled

/-! ### Reading and writing -/

variable {fill : Fill pageSize}

theorem pinPage_hit (h : s.SoundAt n) (resident : s.table[page]? = some f)
    (room : (s.frame f).pins + 1 < Frame.pinLimit) :
    pinPage page fill s = .ok (f, true) ((s.used f).pinned f) := by
  have held := (h.table_iff page f).mp resident
  simp only [pinPage, Action.run_bind, Action.run_get, resident, pin_eq room, touch_eq,
    touched_pinned h held, count_eq, Action.run_pure]
  rfl

/-- One pin too many is a fault, and nothing but pins has changed. -/
theorem pinPage_overflow (resident : s.table[page]? = some f)
    (full : ¬ (s.frame f).pins + 1 < Frame.pinLimit) :
    pinPage page fill s =
      .error (.fault .addOverflow) (s.setFrame f { s.frame f with pins := 0 }) := by
  simp [pinPage, resident, pin_eq_fault full]

theorem pinPage_miss (h : s.SoundAt n) (absent : s.table[page]? = none)
    (addressable : page.Addressable n) (fill : Fill pageSize) :
    Barring n (pinPage page fill) s (∃ r t, (s.tallied missCounted).Admits page fill r t ∧
      pinPage page fill s =
        match r with
        | .ok f => .ok (f, false) (t.pinned f)
        | .error e => .error (.error e) t) := by
  have counted := h.tallied missCounted
  have missed : count (fun c => { c with misses := c.misses + 1 }) s =
      .ok () (s.tallied missCounted) := rfl
  refine (install_cases counted addressable fill).imp ?_ fun stops => ?_
  · rintro ⟨r, t, admits, installed⟩
    refine ⟨r, t, admits, ?_⟩
    cases r with
    | error e => simp only [pinPage, Action.run_bind, Action.run_get, absent, missed, installed]
    | ok f =>
      -- The page has only just come in, so this is its first pin.
      have unpinned := (admits.entered counted).2
      have room : ((t.guarded f).frame f).pins + 1 < Frame.pinLimit := by
        rw [guarded, frame_reframed_self, unpinned]
        decide
      have sound := admits.sound counted absent addressable
      simp only [pinPage, Action.run_bind, Action.run_get, absent, missed, installed, pin_eq room,
        pinned_guarded sound, Action.run_pure]
  · apply Action.Faults.after (Action.run_get s)
    rw [absent]
    exact .after missed (stops.bind _)

theorem fetch_hit (h : s.SoundAt n) (resident : s.table[page]? = some f)
    (room : (s.frame f).pins + 1 < Frame.pinLimit) :
    fetch page s = .ok f ((s.used f).pinned f) := by
  simp [fetch, pinPage_hit h resident room]

theorem fetch_miss (h : s.SoundAt n) (absent : s.table[page]? = none)
    (addressable : page.Addressable n) :
    Barring n (fetch page) s (∃ r t, (s.tallied missCounted).Admits page .load r t ∧
      fetch page s =
        match r with
        | .ok f => .ok f (t.pinned f)
        | .error e => .error (.error e) t) := by
  refine (pinPage_miss h absent addressable .load).imp ?_ fun stops => stops.bind _
  rintro ⟨r, t, admits, pinned⟩
  refine ⟨r, t, admits, ?_⟩
  cases r <;> simp [fetch, pinned]

theorem read_hit (h : s.SoundAt n) (resident : s.table[page]? = some f)
    (room : (s.frame f).pins + 1 < Frame.pinLimit) :
    read page s = .ok (s.frame f).bytes (s.used f) := by
  have held := (h.table_iff page f).mp resident
  have kept : ((s.used f).frame f).page = some page := by simpa using held
  have released := release_pinned (h.used held) kept
  simp [read, fetch_hit h resident room, released]

theorem read_miss (h : s.SoundAt n) (absent : s.table[page]? = none)
    (addressable : page.Addressable n) :
    Barring n (read page) s (∃ r t, (s.tallied missCounted).Admits page .load r t ∧
      read page s =
        match r with
        | .ok f => .ok (t.frame f).bytes t
        | .error e => .error (.error e) t) := by
  refine (fetch_miss h absent addressable).imp ?_ fun stops => stops.bind _
  rintro ⟨r, t, admits, fetched⟩
  refine ⟨r, t, admits, ?_⟩
  cases r with
  | error e => simp [read, fetched]
  | ok f =>
    have counted := h.tallied missCounted
    have sound := admits.sound counted absent addressable
    have released := release_pinned sound (admits.entered counted).1
    simp [read, fetched, released]

theorem writeBlock_hit (h : s.SoundAt n) (resident : s.table[page]? = some f)
    (room : (s.frame f).pins + 1 < Frame.pinLimit) (block : Block pageSize) :
    writeBlock page block s = .ok () ((s.used f).filled f block true) := by
  have held := (h.table_iff page f).mp resident
  have kept : ((s.used f).frame f).page = some page := by simpa using held
  have filling : editFrame f (·.setBytes block) ((s.used f).pinned f) =
      .ok () (((s.used f).filled f block (s.frame f).dirty).pinned f) := by
    simp only [editFrame_eq, pinned, filled, frame_reframed_self, reframed_reframed, frame_used]
    rfl
  simp [writeBlock, pinPage_hit h resident room, filling, release_written (h.used held) kept]

theorem writeBlock_miss (h : s.SoundAt n) (absent : s.table[page]? = none)
    (addressable : page.Addressable n) (block : Block pageSize) :
    Barring n (writeBlock page block) s (∃ r t, (s.tallied missCounted).Admits page (.put block) r t ∧
      writeBlock page block s =
        match r with
        | .ok _ => .ok () t
        | .error e => .error (.error e) t) := by
  refine (pinPage_miss h absent addressable (.put block)).imp ?_ fun stops => stops.bind _
  rintro ⟨r, t, admits, pinned⟩
  refine ⟨r, t, admits, ?_⟩
  cases r with
  | error e => simp [writeBlock, pinned]
  | ok f =>
    have counted := h.tallied missCounted
    have sound := admits.sound counted absent addressable
    simp [writeBlock, pinned, unpin_pinned sound (admits.entered counted).1]

/-! ### Making and dropping -/

theorem create_hit (resident : s.table[page]? = some f) :
    create page s =
      if (s.frame f).isPinned then .error (.error (.pagePinned page)) s
      else .ok () ((s.touched f).filled f .zero true) := by
  by_cases busy : (s.frame f).isPinned
  · simp [create, resident, busy]
  · -- The frame is filled before it is touched, which comes to the same.
    simp only [create, Action.run_bind, Action.run_get, resident, Action.run_ite, busy,
      editFrame_eq, touch_eq, touched, filled, frame_reframed_self, reframed_reframed]
    rfl

theorem create_miss (h : s.SoundAt n) (absent : s.table[page]? = none)
    (addressable : page.Addressable n) :
    Barring n (create page) s (∃ r t, s.Admits page (.put .zero) r t ∧
      create page s =
        match r with
        | .ok _ => .ok () t
        | .error e => .error (.error e) t) := by
  refine (install_cases h addressable (.put .zero)).imp ?_ fun stops => ?_
  · rintro ⟨r, t, admits, installed⟩
    refine ⟨r, t, admits, ?_⟩
    cases r with
    | error e => simp [create, absent, installed]
    | ok f =>
      -- Nobody pins the page that was made, so it is left evictable.
      obtain ⟨held, unpinned⟩ := admits.entered h
      have sound := admits.sound h absent addressable
      simp [create, absent, installed, evictable_guarded sound held unpinned]
  · apply Action.Faults.after (Action.run_get s)
    rw [absent]
    exact stops.bind _

def dropCounted (c : Counters) : Counters := { c with invalidations := c.invalidations + 1 }

theorem invalidate_eq (s : Pool size pageSize) (page : PageId) :
    invalidate page s =
      match s.table[page]? with
      | none => .ok false s
      | some f =>
        if (s.frame f).isPinned then .error (.error (.pagePinned page)) s
        else .ok true ((s.vacated f page).tallied dropCounted) := by
  cases resident : s.table[page]? with
  | none => simp [invalidate, resident]
  | some f =>
    by_cases busy : (s.frame f).isPinned
    · simp [invalidate, resident, busy]
    · simp only [invalidate, Action.run_bind, Action.run_get, resident, Action.run_ite, busy]
      exact congrArg (EStateM.Result.ok true) (ext_frame (fun _ => rfl) rfl rfl rfl rfl rfl)

/-! ### The file -/

/-- The pool after it has let go of its file. -/
def shut (s : Pool size pageSize) : Pool size pageSize :=
  { s with disk := { s.disk with isOpen := false } }

theorem SoundAt.shut (h : s.SoundAt n) : s.shut.SoundAt n := h.rebased ..

theorem sync_eq (s : Pool size pageSize) :
    sync s =
      if s.disk.isOpen then
        match s.disk.device.syncing with
        | some cause => .error (.error (.device cause)) s
        | none => .ok () s
      else .error (.error .closed) s := by
  by_cases opened : s.disk.isOpen
  · cases answer : s.disk.device.syncing <;>
      simp [sync, onDisk, Disk.sync, Disk.ensureOpen, opened, answer]
  · simp [sync, onDisk, Disk.sync, Disk.ensureOpen, opened]

/-- The file is let go of, whatever the operating system answers. -/
theorem close_eq (s : Pool size pageSize) :
    close s =
      if s.disk.isOpen then
        match s.disk.device.closing with
        | some cause => .error (.error (.device cause)) s.shut
        | none => .ok () s.shut
      else .error (.error .closed) s := by
  by_cases opened : s.disk.isOpen
  · cases answer : s.disk.device.closing <;>
      simp [close, onDisk, Disk.close, Disk.ensureOpen, opened, answer, shut]
  · simp [close, onDisk, Disk.close, Disk.ensureOpen, opened]

section Leaves

variable {good : Pool size pageSize → Prop} {broken : Fault → Prop}

/-- However a sync ends, the pool is as it was. -/
theorem sync_settles_of (here : good s) : Action.Settles sync s good broken := by
  have ran := sync_eq s
  by_cases opened : s.disk.isOpen = true
  · rw [if_pos opened] at ran
    cases answer : s.disk.device.syncing with
    | none => exact .of_ok (by rwa [answer] at ran) here
    | some cause => exact .of_error (by rwa [answer] at ran) here
  · exact .of_error (ran.trans (if_neg opened)) here

/-- However a close ends, the file was let go of, then or before. -/
theorem close_settles_of (there : good s.shut) : Action.Settles close s good broken := by
  have ran := close_eq s
  cases opened : s.disk.isOpen with
  | true =>
    rw [if_pos opened] at ran
    cases answer : s.disk.device.closing with
    | none => exact .of_ok (by rwa [answer] at ran) there
    | some cause => exact .of_error (by rwa [answer] at ran) there
  | false =>
    have same : s.shut = s := by rw [shut, ← opened]
    rw [same] at there
    exact .of_error (ran.trans (if_neg (by simp [opened]))) there

end Leaves

theorem sync_of_reliable (reliable : s.disk.Reliable) :
    sync s = if s.disk.isOpen then .ok () s else .error (.error .closed) s := by
  have none : s.disk.device.syncing = none := congrArg Device.syncing reliable
  rw [sync_eq, none]

theorem close_of_reliable (reliable : s.disk.Reliable) :
    close s = if s.disk.isOpen then .ok () s.shut else .error (.error .closed) s := by
  have none : s.disk.device.closing = none := congrArg Device.closing reliable
  rw [close_eq, none]

end PagedStorage.Pool
