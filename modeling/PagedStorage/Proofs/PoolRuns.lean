import PagedStorage.Proofs.PoolPages
import PagedStorage.Proofs.Runs

/-!
# How a pool runs

Each action of a pool ends in a state that the moves describe. A frame for a page is made by at most
two of them: the page that was used longest ago is saved and leaves (`MakesRoom`), and the new page
enters (`Admits`). Both relations also say when and how a request fails instead, and what it has
changed by then, which is little: a saturated pool changes nothing, a victim that cannot be saved
becomes the page used last, and a frame that was taken for a block that cannot be read is given back.

Pages may be so large that not every one of them ends at an offset. Then a request can be stopped by a
fault, and ends as the relations say if it is not (`Barring`).

Everything else about requests is derived from these relations, never from the text of the actions.
-/

namespace PagedStorage.Pool

variable {size pageSize n : Nat} {s : Pool size pageSize} {f : Fin size} {page : PageId}

/-- The action ends like this. Where pages are larger than is known to fit, it may be stopped by a
fault instead. -/
def Barring {α : Type} (n : Nat) (act : Action (Pool size pageSize) α) (s : Pool size pageSize)
    (ends : Prop) : Prop :=
  ends ∨ n < pageSize ∧ act.Faults s

theorem Barring.sure {α : Type} {act : Action (Pool size pageSize) α} {ends : Prop}
    (h : Barring pageSize act s ends) : ends :=
  h.resolve_right fun larger => Nat.lt_irrefl pageSize larger.1

theorem Barring.imp {α β : Type} {act : Action (Pool size pageSize) α}
    {other : Action (Pool size pageSize) β} {t : Pool size pageSize} {ends endsSo : Prop}
    (h : Barring n act s ends) (implies : ends → endsSo) (stops : act.Faults s → other.Faults t) :
    Barring n other t endsSo :=
  Or.imp implies (And.imp_right stops) h

/-! ### Moves in a row -/

theorem ext_frame {s t : Pool size pageSize} (frame : ∀ g, s.frame g = t.frame g)
    (table : s.table = t.table) (free : s.free = t.free) (recency : s.recency = t.recency)
    (disk : s.disk = t.disk) (counters : s.counters = t.counters) : s = t := by
  have frames : s.frames = t.frames := Vector.ext fun i hi => frame ⟨i, hi⟩
  cases s
  cases t
  simp_all

theorem reframed_frame (s : Pool size pageSize) (f : Fin size) (recency : Recency (Fin size)) :
    s.reframed f (s.frame f) recency = { s with recency } := by
  refine ext_frame ?_ rfl rfl rfl rfl rfl
  intro g
  rw [frame_reframed]
  split
  · next same =>
    rw [same]
    rfl
  · rfl

theorem reframed_self (s : Pool size pageSize) (f : Fin size) :
    s.reframed f (s.frame f) s.recency = s :=
  reframed_frame s f s.recency

theorem reframed_reframed (s : Pool size pageSize) (f : Fin size) (frame frame' : Frame pageSize)
    (recency recency' : Recency (Fin size)) :
    (s.reframed f frame recency).reframed f frame' recency' = s.reframed f frame' recency' := by
  refine ext_frame ?_ rfl rfl rfl rfl rfl
  intro g
  simp only [frame_reframed]
  split <;> rfl

theorem reframed_tallied (s : Pool size pageSize) (f : Fin size) (frame : Frame pageSize)
    (recency : Recency (Fin size)) (change : Counters → Counters) :
    (s.tallied change).reframed f frame recency = (s.reframed f frame recency).tallied change := rfl

/-- A pin that is given up at once leaves no trace. -/
theorem unpinned_pinned (h : s.SoundAt n) (held : (s.frame f).page = some page) :
    (s.pinned f).unpinned f = s := by
  have standing := h.standing_of_page held
  have recency : (s.pinned f).recency = s.recency.setEvictable f false := rfl
  -- The frame may be evicted again if no other pin is left on it, which is how it was.
  have settled : (if (s.frame f).pins = 0 then (s.recency.setEvictable f false).setEvictable f true
      else s.recency.setEvictable f false) = s.recency := by
    split
    · next last =>
      rw [h.recency.setEvictable_setEvictable]
      exact Recency.setEvictable_of_standing (by simp [standing, Frame.isPinned, last])
    · next more =>
      exact Recency.setEvictable_of_standing (by simp [standing, Frame.isPinned]; omega)
  rw [unpinned, recency]
  simp only [pinned, frame_reframed_self, Nat.add_sub_cancel, settled, reframed_reframed]
  exact reframed_self s f

theorem touched_pinned (h : s.SoundAt n) (held : (s.frame f).page = some page) :
    (s.pinned f).touched f = (s.touched f).pinned f := by
  have standing := h.standing_of_page held
  -- Using a frame does not say whether it may be evicted.
  have recency : (s.recency.setEvictable f false).touch f =
      (s.recency.touch f).setEvictable f false := by
    apply ((h.recency.setEvictable f false).touch f).eq_of_usage
      ((h.recency.touch f).setEvictable f false)
    · simp only [Recency.clock_touch, Recency.clock_setEvictable]
    · intro g
      simp only [Recency.usage_touch, Recency.usage_setEvictable, Recency.standing_setEvictable,
        Recency.clock_setEvictable, standing]
      by_cases same : f = g <;> simp [same]
  simp only [pinned, touched, frame_reframed_self, reframed_reframed]
  exact congrArg _ recency

/-! ### Single steps -/

@[simp] theorem count_eq (s : Pool size pageSize) (change : Counters → Counters) :
    count change s = .ok () (s.tallied change) := rfl

theorem editFrame_eq (s : Pool size pageSize) (f : Fin size)
    (change : Frame pageSize → Frame pageSize) :
    editFrame f change s = .ok () (s.reframed f (change (s.frame f)) s.recency) := rfl

theorem editRecency_eq (s : Pool size pageSize) (f : Fin size)
    (change : Recency (Fin size) → Recency (Fin size)) :
    editRecency change s = .ok () (s.reframed f (s.frame f) (change s.recency)) := by
  rw [reframed_frame]
  rfl

theorem touch_eq (s : Pool size pageSize) (f : Fin size) :
    editRecency (·.touch f) s = .ok () (s.touched f) :=
  editRecency_eq s f _

theorem pin_eq (room : (s.frame f).pins + 1 < Frame.pinLimit) : pin f s = .ok () (s.pinned f) := by
  simp [pin, onFrame, Frame.pin, room, editRecency, pinned, reframed]
  rfl

/-- Past the last count a pin is a fault, and the count starts anew. -/
theorem pin_eq_fault (full : ¬ (s.frame f).pins + 1 < Frame.pinLimit) :
    pin f s = .error (.fault .addOverflow) (s.setFrame f { s.frame f with pins := 0 }) := by
  simp [pin, onFrame, Frame.pin, full]

theorem unpin_eq (pins : 0 < (s.frame f).pins) : unpin f s = .ok () (s.unpinned f) := by
  by_cases last : (s.frame f).pins - 1 = 0 <;>
    simp [unpin, onFrame, Frame.unpin, pins, editRecency, unpinned, reframed, last] <;> rfl

theorem writeBack_eq (addressable : page.Addressable n) :
    Barring n (writeBack f page) s (writeBack f page s =
      if (s.frame f).dirty = false then .ok false s
      else if s.disk.Takes page then .ok true (s.saved f page)
      else .error (.error (s.disk.refusal page)) (s.spoiled f page)) := by
  cases newer : (s.frame f).dirty with
  | false =>
    left
    simp [writeBack, newer]
  | true =>
    by_cases fits : page.Addressable pageSize
    · left
      have written := s.disk.writeBlock_eq fits (s.frame f).bytes
      by_cases takes : s.disk.Takes page
      · rw [if_neg Bool.noConfusion, if_pos takes, saved, dif_pos ⟨newer, fits.1⟩]
        simp only [writeBack, Action.run_bind, Action.run_get, Action.run_ite, newer, if_true, onDisk,
          Action.run_within, written, if_pos takes]
        rfl
      · simp [writeBack, newer, onDisk, written, takes, spoiled]
    · right
      have stops := (s.disk.writeBlock_faults (addressable.end_of_not fits) (s.frame f).bytes).within
        fun disk s => { s with disk }
      refine ⟨addressable.lt_of_not fits, .after (Action.run_get s) ?_⟩
      rw [if_pos newer]
      exact stops.bind _

/-! ### Making room -/

def evictionCounted (c : Counters) : Counters := { c with evictions := c.evictions + 1 }

/-- How a pool comes to have a free frame `f` at the head of its list: it has one, or the page that
was used longest ago leaves. -/
inductive MakesRoom (s : Pool size pageSize) : Pool size pageSize → Fin size → Prop
  | free {f : Fin size} {rest : List (Fin size)} (head : s.free = f :: rest) : MakesRoom s s f
  | evict {f : Fin size} {victim : PageId} (full : s.free = []) (oldest : s.recency.IsOldest f)
      (held : (s.frame f).page = some victim)
      (saves : (s.frame f).dirty = true → s.disk.Takes victim) :
      MakesRoom s (((s.saved f victim).vacated f victim).tallied evictionCounted) f

/-- Why a pool has no room, and what the attempt has changed: nothing if all frames are pinned. If the
victim's bytes cannot be saved it is the order of use, and the place of the victim in the file where
the operating system gave up midway. -/
inductive LacksRoom (s : Pool size pageSize) : StoreError → Pool size pageSize → Prop
  | saturated (full : s.free = []) (pinned : ∀ f, (s.frame f).isPinned = true) :
      LacksRoom s (.poolSaturated size) s
  | stuck {f : Fin size} {victim : PageId} (full : s.free = []) (oldest : s.recency.IsOldest f)
      (held : (s.frame f).page = some victim) (newer : (s.frame f).dirty = true)
      (refused : ¬ s.disk.Takes victim) :
      LacksRoom s (s.disk.refusal victim) ((s.spoiled f victim).touched f)

/-- A frame that may be evicted holds a page and is not pinned. -/
theorem SoundAt.page_of_standing (h : s.SoundAt n) (movable : s.recency.standing f = some true) :
    (∃ page, (s.frame f).page = some page) ∧ (s.frame f).pins = 0 := by
  rw [h.standing_eq, Option.map_eq_some_iff] at movable
  obtain ⟨page, held, unpinned⟩ := movable
  exact ⟨⟨page, held⟩, by simpa [Frame.isPinned] using unpinned⟩

/-- What the choice of a victim comes to, with the outcome of saving it left open. -/
theorem evict_of_oldest (h : s.SoundAt n) (oldest : s.recency.IsOldest f)
    (held : (s.frame f).page = some page) :
    evict s =
      match writeBack f page { s with recency := s.recency.remove f } with
      | .ok _ t => .ok f ((({ t with table := t.table.erase page }.setFrame f
          (t.frame f).reset)).tallied evictionCounted)
      | .error (.error e) t =>
        .error (.error e) { t with recency := (t.recency.touch f).setEvictable f true }
      | .error (.fault e) t => .error (.fault e) t := by
  have chosen := h.recency.evict?_eq_some_iff.mpr ⟨oldest, rfl⟩
  have there : (({ s with recency := s.recency.remove f } : Pool size pageSize).frame f).page =
      some page := held
  simp only [evict, Action.run_bind, Action.run_get, chosen, Action.run_modify, there,
    Action.run_attempt]
  cases writeBack f page { s with recency := s.recency.remove f } with
  | ok b t => rfl
  | error why t => cases why <;> rfl

/-- How the choice of a victim ends, once there is one. -/
theorem evict_eq (h : s.SoundAt n) (oldest : s.recency.IsOldest f)
    (held : (s.frame f).page = some page) :
    Barring n evict s (evict s =
      if (s.frame f).dirty = false ∨ s.disk.Takes page then
        let t := ((s.saved f page).vacated f page).tallied evictionCounted
        .ok f { t with free := t.free.tail }
      else .error (.error (s.disk.refusal page)) ((s.spoiled f page).touched f)) := by
  have addressable := h.addressable f page held
  have frame : ({ s with recency := s.recency.remove f } : Pool size pageSize).frame f = s.frame f :=
    rfl
  refine (writeBack_eq (f := f) (s := { s with recency := s.recency.remove f }) addressable).imp
    (fun saving => ?_) fun stops => ?_
  · rw [evict_of_oldest h oldest held, saving]
    -- A clean victim leaves as it is, a dirty one is saved first or stays.
    by_cases clean : (s.frame f).dirty = false
    · rw [frame, if_pos clean, if_pos (.inl clean), saved, dif_neg (by simp [clean])]
      exact congrArg (EStateM.Result.ok f) (ext_frame (fun _ => rfl) rfl rfl rfl rfl rfl)
    · have newer : (s.frame f).dirty = true := by simpa using clean
      rw [frame, if_neg clean]
      by_cases takes : s.disk.Takes page
      · rw [if_pos takes, if_pos (.inr takes), saved, saved, dif_pos ⟨newer, addressable.1⟩,
          dif_pos ⟨newer, addressable.1⟩]
        exact congrArg (EStateM.Result.ok f) (ext_frame (fun _ => rfl) rfl rfl rfl rfl rfl)
      · rw [if_neg takes, if_neg fun either => either.elim clean takes]
        -- The victim comes back as the page used last, as if it had only been used.
        rw [touched, reframed_frame]
        simp only [spoiled, ← h.recency.touch_remove oldest.standing]
        rfl
  · obtain ⟨why, t, stops⟩ := stops
    exact ⟨why, t, by rw [evict_of_oldest h oldest held, stops]⟩

theorem acquire_cases (h : s.SoundAt n) :
    Barring n acquire s
      ((∃ t f, s.MakesRoom t f ∧ acquire s = .ok f { t with free := t.free.tail }) ∨
        ∃ e t, s.LacksRoom e t ∧ acquire s = .error (.error e) t) := by
  cases listed : s.free with
  | cons f rest =>
    left
    left
    exact ⟨s, f, .free listed, by simp [acquire, listed]⟩
  | nil =>
    cases chosen : s.recency.evict? with
    | none =>
      left
      right
      have unmovable := h.recency.evict?_eq_none_iff.mp chosen
      -- No frame is free, so each holds a page, and none of these may be evicted.
      have pinned : ∀ f, (s.frame f).isPinned = true := by
        intro f
        have named : (s.frame f).page ≠ none := by
          rw [Ne, ← h.mem_free_iff, listed]
          exact List.not_mem_nil
        obtain ⟨page, held⟩ := Option.ne_none_iff_exists'.mp named
        have standing := unmovable f
        rw [h.standing_of_page held] at standing
        simpa using standing
      exact ⟨_, s, .saturated listed pinned, by simp [acquire, listed, evict, chosen]⟩
    | some entry =>
      obtain ⟨f, recency⟩ := entry
      obtain ⟨oldest, rfl⟩ := h.recency.evict?_eq_some_iff.mp chosen
      obtain ⟨⟨victim, held⟩, -⟩ := h.page_of_standing oldest.standing
      have running : acquire s = evict s := by simp [acquire, listed]
      refine (evict_eq h oldest held).imp (fun evicted => ?_) fun stops => stops.congr running
      rw [running, evicted]
      by_cases saves : (s.frame f).dirty = false ∨ s.disk.Takes victim
      · left
        rw [if_pos saves]
        have granted : (s.frame f).dirty = true → s.disk.Takes victim :=
          fun newer => saves.resolve_left (by simp [newer])
        exact ⟨_, f, .evict listed oldest held granted, rfl⟩
      · right
        rw [if_neg saves]
        rw [not_or] at saves
        exact ⟨_, _, .stuck listed oldest held (by simpa using saves.1) saves.2, rfl⟩

namespace MakesRoom

variable {t : Pool size pageSize}

theorem sound (room : s.MakesRoom t f) (h : s.SoundAt n) : t.SoundAt n := by
  cases room with
  | free => exact h
  | @evict _ victim full oldest held saves =>
    have next := (h.addressable f victim held).1
    have unpinned := (h.page_of_standing oldest.standing).2
    -- Saving leaves the page in its frame, and the frame without a pin.
    have there : ((s.saved f victim).frame f).page = some victim := by rwa [page_saved]
    have loose : ((s.saved f victim).frame f).pins = 0 := by
      rw [frame_saved s f f next, if_pos rfl]
      exact unpinned
    exact ((h.saved held).vacated there loose).tallied _

theorem head (room : s.MakesRoom t f) : t.free = f :: t.free.tail := by
  cases room with
  | free listed => simp [listed]
  | evict => rfl

/-- Pages only leave. -/
theorem absent_of_absent (room : s.MakesRoom t f) (absent : s.table[page]? = none) :
    t.table[page]? = none := by
  cases room with
  | free => exact absent
  | @evict f victim full oldest held saves =>
    have gone := table_vacated (s.saved f victim) f victim page
    rw [table_saved, absent, ite_self] at gone
    exact gone

end MakesRoom

/-! ### Bringing a page in -/

/-- The bytes with which a page enters, and whether they are newer than the file. A page behind the end
is not found, whether the handle is open or not. -/
def Fill.source (fill : Fill pageSize) (d : Disk pageSize) (page : PageId) :
    Except StoreError (Block pageSize × Bool) :=
  match fill with
  | .put block => .ok (block, true)
  | .load =>
    if d.blockCount ≤ page.index then .error (.pageNotFound page)
    else (d.block? page).map (·, false)

/-- What is loaded is the block of the page, and no newer than the file. -/
theorem source_load_eq_ok_iff {d : Disk pageSize} {bytes : Block pageSize} {dirty : Bool} :
    Fill.load.source d page = .ok (bytes, dirty) ↔ d.block? page = .ok bytes ∧ dirty = false := by
  unfold Fill.source
  by_cases behind : d.blockCount ≤ page.index
  · simp [behind, Disk.block?]
  · rw [if_neg behind]
    cases d.block? page <;> simp [Except.map, eq_comm]

/-- Bytes that are not newer than the file have been read from it. -/
def readCounted (dirty : Bool) (c : Counters) : Counters :=
  if dirty then c else { c with reads := c.reads + 1 }

/-- How a page that is not resident is brought in, or why it is not. -/
inductive Admits (s : Pool size pageSize) (page : PageId) (fill : Fill pageSize) :
    Except StoreError (Fin size) → Pool size pageSize → Prop
  | full {e : StoreError} {t : Pool size pageSize} (lacks : s.LacksRoom e t) :
      Admits s page fill (.error e) t
  | unread {f : Fin size} {t : Pool size pageSize} {e : StoreError} (room : s.MakesRoom t f)
      (source : fill.source t.disk page = .error e) : Admits s page fill (.error e) t
  | enters {f : Fin size} {t : Pool size pageSize} {bytes : Block pageSize} {dirty : Bool}
      (room : s.MakesRoom t f) (source : fill.source t.disk page = .ok (bytes, dirty)) :
      Admits s page fill (.ok f) ((t.admitted f page bytes dirty).tallied (readCounted dirty))

namespace Admits

variable {t : Pool size pageSize} {fill : Fill pageSize}

/-- The page is in the frame, which is not pinned yet. -/
theorem entered (h : s.SoundAt n) (admits : s.Admits page fill (.ok f) t) :
    (t.frame f).page = some page ∧ (t.frame f).pins = 0 := by
  cases admits with
  | @enters _ t bytes dirty room source =>
    have empty := (room.sound h).head_free room.head
    simp [frame_admitted, empty, Frame.empty]

theorem sound (h : s.SoundAt n) (absent : s.table[page]? = none)
    (addressable : page.Addressable n) (admits : s.Admits page fill (.ok f) t) :
    t.SoundAt n := by
  cases admits with
  | enters room source =>
    exact ((room.sound h).admitted room.head (room.absent_of_absent absent) addressable _ _).tallied _

end Admits

/-- The pool with a frame marked as one that may not be evicted. -/
def guarded (s : Pool size pageSize) (f : Fin size) : Pool size pageSize :=
  s.reframed f (s.frame f) (s.recency.setEvictable f false)

/-- The load of a page that is found fills the frame with its block. One that fails may leave anything
in it. -/
def LoadsInto (s : Pool size pageSize) (f : Fin size) (page : PageId) : Prop :=
  ∃ rest, load page f s =
    match Fill.load.source s.disk page with
    | .ok (bytes, _) => .ok () ((s.filled f bytes (s.frame f).dirty).tallied (readCounted false))
    | .error e => .error (.error e) (s.filled f rest (s.frame f).dirty)

/-- A page behind the end is not looked for. -/
theorem loadsInto_of_behind (behind : s.disk.blockCount ≤ page.index) : s.LoadsInto f page := by
  refine ⟨(s.frame f).bytes, ?_⟩
  simp only [load, Fill.source, behind, if_true, Action.run_bind, Action.run_get, Action.run_ite,
    Action.run_reject]
  exact congrArg _ (reframed_self s f).symm

theorem loadsInto_of_begin_lt (begins : page.index * pageSize < 0x10000000000000000) :
    s.LoadsInto f page := by
  by_cases behind : s.disk.blockCount ≤ page.index
  · exact loadsInto_of_behind behind
  · obtain ⟨rest, reading⟩ := s.disk.readInto_eq_of_begin_lt begins (s.frame f).bytes
    refine ⟨rest, ?_⟩
    simp only [load, Fill.source, behind, if_false, Action.run_bind, Action.run_get, Action.run_ite,
      onBuffer, Action.run_within, reading]
    cases s.disk.block? page <;> rfl

theorem load_cases (addressable : page.Addressable n) (f : Fin size) :
    Barring n (load page f) s (s.LoadsInto f page) := by
  by_cases begins : page.index * pageSize < 0x10000000000000000
  · exact .inl (loadsInto_of_begin_lt begins)
  · by_cases behind : s.disk.blockCount ≤ page.index
    · exact .inl (loadsInto_of_behind behind)
    · right
      have beyond : ¬ page.Addressable pageSize :=
        fun fits => begins (PageId.begin_lt_of_end_lt fits.2)
      have stops : (onBuffer f (Disk.readInto page)).Faults s := by
        obtain ⟨why, t, stops⟩ :=
          s.disk.readInto_faults (Nat.not_le.mp behind) begins (s.frame f).bytes
        refine ⟨why, { s.setFrame f ((s.frame f).setBytes t.2) with disk := t.1 }, ?_⟩
        simp only [onBuffer, Action.run_within, stops]
      refine ⟨addressable.lt_of_not beyond, .after (Action.run_get s) ?_⟩
      rw [if_neg behind]
      exact stops.bind _

/-- A free frame that was taken and is given back empty leaves no trace, whatever bytes it has held
meanwhile. -/
theorem given_back (h : s.SoundAt n) {rest : List (Fin size)} (head : s.free = f :: rest)
    (bytes : Block pageSize) (dirty : Bool) :
    { (s.filled f bytes dirty).setFrame f ((s.filled f bytes dirty).frame f).reset with
      free := f :: rest } = s := by
  have kept : ((s.filled f bytes dirty).frame f).reset = s.frame f := by
    rw [filled, frame_reframed_self, h.head_free head]
    rfl
  have same : (s.filled f bytes dirty).reframed f (s.frame f) s.recency = s := by
    rw [filled, reframed_reframed, reframed_self]
  rw [kept, ← head]
  exact same

/-- A page that was read or put into a free frame is settled in the table and used. -/
theorem entered (h : s.SoundAt n) {rest : List (Fin size)} (head : s.free = f :: rest)
    (page : PageId) (bytes : Block pageSize) (dirty : Bool) (change : Counters → Counters) :
    { s.reframed f { s.frame f with bytes, page := some page, dirty } (s.recency.touch f) with
      table := s.table.insert page f
      free := rest
      counters := change s.counters } =
      ((s.admitted f page bytes dirty).tallied change).guarded f := by
  have unknown := h.standing_eq f
  rw [h.head_free head] at unknown
  -- A page that is used for the first time may not be evicted, which is all that is marked here.
  have settled : ((s.recency.touch f).setEvictable f true).setEvictable f false =
      s.recency.touch f := by
    rw [(h.recency.touch f).setEvictable_setEvictable]
    apply Recency.setEvictable_of_standing
    simp [Recency.standing_touch, unknown, Frame.empty]
  have tail : (s.admitted f page bytes dirty).free = rest := congrArg List.tail head
  rw [guarded, reframed_frame, ← tail]
  show _ = { (s.admitted f page bytes dirty).tallied change with
    recency := ((s.recency.touch f).setEvictable f true).setEvictable f false }
  rw [settled]
  rfl

theorem install_cases (h : s.SoundAt n) (addressable : page.Addressable n)
    (fill : Fill pageSize) :
    Barring n (install page fill) s (∃ r t, s.Admits page fill r t ∧
      install page fill s =
        match r with
        | .ok f => .ok f (t.guarded f)
        | .error e => .error (.error e) t) := by
  rcases acquire_cases h with (⟨t, f, room, taken⟩ | ⟨e, t, lacks, refused⟩) | ⟨larger, stops⟩
  · have sound := room.sound h
    cases fill with
    | put block =>
      have settled := entered sound room.head page block true (readCounted true)
      refine .inl ⟨_, _, .enters room rfl, ?_⟩
      apply Eq.trans ?_ (congrArg (EStateM.Result.ok f) settled)
      simp only [install, Action.run_bind, taken, editFrame_eq, editRecency, Action.run_modify,
        Action.run_pure, frame_reframed_self, reframed_reframed]
      rfl
    | load =>
      rcases load_cases (s := { t with free := t.free.tail }) addressable f with
        ⟨rest, loading⟩ | ⟨larger, stops⟩
      · left
        cases source : Fill.load.source t.disk page with
        | error e =>
          -- The block is missing, and the frame goes back to where it was taken from.
          refine ⟨_, t, .unread room source, ?_⟩
          simp only [source] at loading
          simp only [install, Action.run_bind, taken, Action.run_attempt, loading, editFrame,
            giveBack, Action.run_modify, Action.run_reject]
          exact congrArg (EStateM.Result.error _) (given_back sound room.head rest (t.frame f).dirty)
        | ok entry =>
          obtain ⟨bytes, dirty⟩ := entry
          refine ⟨_, _, .enters room source, ?_⟩
          have settled := entered sound room.head page bytes dirty (readCounted dirty)
          apply Eq.trans ?_ (congrArg (EStateM.Result.ok f) settled)
          obtain ⟨-, rfl⟩ := source_load_eq_ok_iff.mp source
          -- The frame was empty, so it is as clean as a frame has to be that was read.
          have clean : (t.frame f).dirty = false := by
            rw [sound.head_free room.head]
            rfl
          simp only [source] at loading
          simp only [install, Action.run_bind, taken, Action.run_attempt, loading, editFrame_eq,
            editRecency, Action.run_modify, Action.run_pure, filled, reframed_tallied, frame_tallied,
            frame_reframed_self, reframed_reframed, ← clean]
          rfl
      · exact .inr ⟨larger, .after taken (stops.attempt.bind _)⟩
  · refine .inl ⟨_, t, .full lacks, ?_⟩
    simp [install, refused]
  · exact .inr ⟨larger, stops.bind _⟩

end PagedStorage.Pool
