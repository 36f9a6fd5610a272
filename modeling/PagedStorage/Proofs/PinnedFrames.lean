import PagedStorage.Proofs.PoolTransparency

/-!
# Pinned frames

No request to a pool touches a frame that is pinned: it keeps its page, its pins and its bytes, and
the pool stays sound (`Rests`). Requests for the pinned page itself are no exception. Reading uses
it where it is, flushing only saves it, and making or dropping it is refused; the one that would
write it is made only while nobody holds the page.

Nothing is asked of the file here. It may refuse to be read or written, or be another one than
before.
-/

namespace PagedStorage.Pool

open PagedStorage.Action (Settles)

variable {size pageSize n : Nat} {s t u : Pool size pageSize} {f : Fin size} {page : PageId}

/-- The pinned frames are left as they are. -/
structure RestsAt (n : Nat) (s t : Pool size pageSize) : Prop where
  sound : t.SoundAt n
  spares : s.Spares t
  bytes : ∀ f, 0 < (s.frame f).pins → (t.frame f).bytes = (s.frame f).bytes

abbrev Rests (s t : Pool size pageSize) : Prop := s.RestsAt pageSize t

/-- The fault of a page that has all the pins it can have. Pages larger than is known to fit may meet
other faults. -/
def FullAt (n : Nat) (s : Pool size pageSize) (why : Fault) : Prop :=
  pageSize ≤ n → why = .addOverflow ∧ ∃ f, (s.frame f).pins + 1 = Frame.pinLimit

abbrev Full (s : Pool size pageSize) (why : Fault) : Prop := s.FullAt pageSize why

theorem SoundAt.full (h : s.SoundAt n) (most : ¬ (s.frame f).pins + 1 < Frame.pinLimit) :
    s.FullAt n .addOverflow := fun _ => ⟨rfl, f, h.pins_full most⟩

theorem fullAt_of_larger (larger : n < pageSize) (why : Fault) : s.FullAt n why :=
  fun fits => absurd larger (Nat.not_lt.mpr fits)

theorem Barring.settles {α : Type} {act : Action (Pool size pageSize) α} {ends : Prop}
    {good : Pool size pageSize → Prop} (h : Barring n act s ends)
    (settles : ends → Settles act s good (s.FullAt n)) : Settles act s good (s.FullAt n) := by
  rcases h with ends | ⟨larger, stops⟩
  · exact settles ends
  · exact .of_faults stops (fullAt_of_larger larger)

/-! ### Moves -/

namespace RestsAt

theorem refl (h : s.SoundAt n) : s.RestsAt n s := ⟨h, Spares.refl s, fun _ _ => rfl⟩

theorem trans (first : s.RestsAt n t) (second : t.RestsAt n u) : s.RestsAt n u := by
  constructor
  case sound => exact second.sound
  case spares => exact first.spares.trans second.spares
  case bytes =>
    intro f pinned
    rw [second.bytes f (by rwa [first.spares.pins f]), first.bytes f pinned]

theorem tallied (rests : s.RestsAt n t) (change : Counters → Counters) :
    s.RestsAt n (t.tallied change) :=
  ⟨rests.sound.tallied change, ⟨rests.spares.pins, rests.spares.page⟩, rests.bytes⟩

/-- What follows a count follows the state before it. -/
theorem of_tallied {change : Counters → Counters} (rests : (s.tallied change).RestsAt n t) :
    s.RestsAt n t := ⟨rests.sound, ⟨rests.spares.pins, rests.spares.page⟩, rests.bytes⟩

theorem touched (h : s.SoundAt n) (held : (s.frame f).page = some page) :
    s.RestsAt n (s.touched f) := by
  have spares : s.Spares (s.touched f) := .reframed rfl (fun _ => rfl) _
  exact ⟨h.touched held, spares, fun g _ => by rw [frame_touched]⟩

theorem spoiled (h : s.SoundAt n) (f : Fin size) (page : PageId) : s.RestsAt n (s.spoiled f page) :=
  ⟨h.spoiled f page, ⟨fun _ => rfl, fun _ _ => rfl⟩, fun _ _ => rfl⟩

theorem saved (h : s.SoundAt n) (held : (s.frame f).page = some page) :
    s.RestsAt n (s.saved f page) :=
  ⟨h.saved held, Spares.saved s f page, fun g _ => bytes_saved s f g page⟩

/-- The bytes of a frame may change that is not pinned. -/
theorem filled (h : s.SoundAt n) (held : (s.frame f).page = some page)
    (unpinned : (s.frame f).pins = 0) (bytes : Block pageSize) (dirty : Bool) :
    s.RestsAt n (s.filled f bytes dirty) := by
  constructor
  case sound => exact h.filled held bytes dirty
  case spares =>
    apply Spares.reframed
    · rfl
    · exact fun _ => rfl
  case bytes =>
    intro g pinned
    rw [Pool.filled, frame_reframed, if_neg]
    rintro rfl
    omega

theorem vacated (h : s.SoundAt n) (held : (s.frame f).page = some page)
    (unpinned : (s.frame f).pins = 0) : s.RestsAt n (s.vacated f page) := by
  constructor
  case sound => exact h.vacated held unpinned
  case spares => exact .vacated unpinned
  case bytes =>
    intro g pinned
    rw [frame_vacated, if_neg]
    rintro rfl
    omega

theorem admitted (h : s.SoundAt n) {rest : List (Fin size)} (head : s.free = f :: rest)
    (absent : s.table[page]? = none) (addressable : page.Addressable n)
    (bytes : Block pageSize) (dirty : Bool) : s.RestsAt n (s.admitted f page bytes dirty) := by
  have empty := h.head_free head
  constructor
  case sound => exact h.admitted head absent addressable bytes dirty
  case spares => exact .admitted empty bytes dirty
  case bytes =>
    intro g pinned
    rw [frame_admitted, if_neg]
    rintro rfl
    simp [empty, Frame.empty] at pinned

/-- Saving any number of pages leaves all frames in place. -/
theorem savedAll (h : s.SoundAt n) {order : List (PageId × Fin size)}
    (held : ∀ entry ∈ order, (s.frame entry.2).page = some entry.1) :
    s.RestsAt n (savedAll order s).2 := by
  -- A page that is saved stays in its frame, so the rest of the list is as good as before.
  induction order generalizing s with
  | nil => exact refl h
  | cons entry rest ih =>
    obtain ⟨page, f⟩ := entry
    obtain ⟨first, others⟩ := List.forall_mem_cons.mp held
    rw [Pool.savedAll]
    split
    · have still : ∀ entry ∈ rest, ((s.saved f page).frame entry.2).page = some entry.1 := by
        intro entry listed
        rw [page_saved]
        exact others entry listed
      exact (saved h first).trans (ih (h.saved first) still)
    · exact spoiled h f page

end RestsAt

/-! ### Making room -/

/-- The page that makes room is not pinned. -/
theorem MakesRoom.rests (room : s.MakesRoom t f) (h : s.SoundAt n) : s.RestsAt n t := by
  cases room with
  | free => exact .refl h
  | @evict _ victim full oldest held saves =>
    have unpinned := (h.page_of_standing oldest.standing).2
    have there : ((s.saved f victim).frame f).page = some victim := by rwa [page_saved]
    have loose : ((s.saved f victim).frame f).pins = 0 := by
      rw [(Spares.saved s f victim).pins]
      exact unpinned
    exact ((RestsAt.saved h held).trans (.vacated (h.saved held) there loose)).tallied _

theorem LacksRoom.rests {e : StoreError} (lacks : s.LacksRoom e t) (h : s.SoundAt n) :
    s.RestsAt n t := by
  cases lacks with
  | saturated => exact .refl h
  | @stuck f victim full oldest held newer refused =>
    exact (RestsAt.spoiled h f victim).trans (.touched (h.spoiled f victim) held)

/-- A page that is brought in, or cannot be brought in, disturbs no pinned frame. -/
theorem Admits.rests {fill : Fill pageSize} {r : Except StoreError (Fin size)}
    (admits : s.Admits page fill r t) (h : s.SoundAt n) (absent : s.table[page]? = none)
    (addressable : page.Addressable n) : s.RestsAt n t := by
  cases admits with
  | full lacks => exact lacks.rests h
  | unread room => exact room.rests h
  | @enters _ _ bytes dirty room source =>
    have entered := RestsAt.admitted (room.sound h) room.head (room.absent_of_absent absent)
      addressable bytes dirty
    exact ((room.rests h).trans entered).tallied _

/-! ### Requests -/

section Requests

variable (h : s.SoundAt n)
include h

theorem RestsAt.used (held : (s.frame f).page = some page) : s.RestsAt n (s.used f) :=
  (touched h held).tallied _

/-- A fetch that succeeds adds one pin, and nothing else to what is pinned. -/
theorem fetch_rests (addressable : page.Addressable n) :
    match fetch page s with
    | .ok f t => ∃ u, t = u.pinned f ∧ s.RestsAt n u ∧ (u.frame f).page = some page ∧
        (u.frame f).pins + 1 < Frame.pinLimit
    | .error (.error _) t => s.RestsAt n t
    | .error (.fault why) _ => s.FullAt n why := by
  cases resident : s.table[page]? with
  | some f =>
    have held := (h.table_iff page f).mp resident
    by_cases room : (s.frame f).pins + 1 < Frame.pinLimit
    · rw [fetch_hit h resident room]
      exact ⟨s.used f, rfl, .used h held, by simpa using held, by simpa using room⟩
    · simp only [fetch, Action.run_bind, pinPage_overflow resident room]
      exact h.full room
  | none =>
    rcases fetch_miss h resident addressable with ⟨r, t, admits, fetched⟩ | ⟨larger, why, t, stops⟩
    · have counted := h.tallied missCounted
      have rests := (admits.rests counted resident addressable).of_tallied
      rw [fetched]
      cases r with
      | error e => exact rests
      | ok f =>
        obtain ⟨held, unpinned⟩ := admits.entered counted
        have room : (t.frame f).pins + 1 < Frame.pinLimit := by
          rw [unpinned]
          decide
        exact ⟨t, rfl, rests, held, room⟩
    · rw [stops]
      exact fullAt_of_larger larger why

theorem read_settles (addressable : page.Addressable n) :
    Settles (read page) s (s.RestsAt n) (s.FullAt n) := by
  cases resident : s.table[page]? with
  | some f =>
    have held := (h.table_iff page f).mp resident
    by_cases room : (s.frame f).pins + 1 < Frame.pinLimit
    · exact .of_ok (read_hit h resident room) (.used h held)
    · simp only [Settles, read, fetch, Action.run_bind, pinPage_overflow resident room]
      exact h.full room
  | none =>
    refine (read_miss h resident addressable).settles ?_
    rintro ⟨r, t, admits, ran⟩
    have rests := (admits.rests (h.tallied _) resident addressable).of_tallied
    cases r with
    | error e => exact .of_error ran rests
    | ok f => exact .of_ok ran rests

/-- A page that nobody holds may be written. -/
theorem writeBlock_settles (addressable : page.Addressable n)
    (unheld : ∀ f, s.table[page]? = some f → (s.frame f).pins = 0) (block : Block pageSize) :
    Settles (writeBlock page block) s (s.RestsAt n) (s.FullAt n) := by
  cases resident : s.table[page]? with
  | some f =>
    have held := (h.table_iff page f).mp resident
    have unpinned := unheld f resident
    have room : (s.frame f).pins + 1 < Frame.pinLimit := by
      rw [unpinned]
      decide
    have filled := RestsAt.filled (h.used held) (by simpa using held) (by simpa using unpinned)
      block true
    exact .of_ok (writeBlock_hit h resident room block) ((RestsAt.used h held).trans filled)
  | none =>
    refine (writeBlock_miss h resident addressable block).settles ?_
    rintro ⟨r, t, admits, ran⟩
    have rests := (admits.rests (h.tallied _) resident addressable).of_tallied
    cases r with
    | error e => exact .of_error ran rests
    | ok f => exact .of_ok ran rests

/-- Bytes that are not one page are refused, whoever holds the page. -/
theorem write_settles (addressable : page.Addressable n) (bytes : Array UInt8)
    (unheld : bytes.size = pageSize → ∀ f, s.table[page]? = some f → (s.frame f).pins = 0) :
    Settles (write page bytes) s (s.RestsAt n) (s.FullAt n) := by
  unfold write
  cases fits : (Block.ofArray? bytes : Option (Block pageSize)) with
  | none => exact .reject (.refl h)
  | some block =>
    have length : bytes.size = pageSize := by simp [Block.ofArray?_eq_some_iff.mp fits]
    exact writeBlock_settles h addressable (unheld length) block

theorem create_settles (addressable : page.Addressable n) :
    Settles (create page) s (s.RestsAt n) (s.FullAt n) := by
  cases resident : s.table[page]? with
  | some f =>
    have held := (h.table_iff page f).mp resident
    by_cases busy : (s.frame f).isPinned = true
    · exact .of_error ((create_hit resident).trans (if_pos busy)) (.refl h)
    · have unpinned : (s.frame f).pins = 0 := by simpa [Frame.isPinned] using busy
      have filled := RestsAt.filled (h.touched held) (by simpa using held) (by simpa using unpinned)
        .zero true
      exact .of_ok ((create_hit resident).trans (if_neg busy)) ((RestsAt.touched h held).trans filled)
  | none =>
    refine (create_miss h resident addressable).settles ?_
    rintro ⟨r, t, admits, ran⟩
    have rests := admits.rests h resident addressable
    cases r with
    | error e => exact .of_error ran rests
    | ok f => exact .of_ok ran rests

theorem invalidate_settles (page : PageId) :
    Settles (invalidate page) s (s.RestsAt n) (s.FullAt n) := by
  have ran := invalidate_eq s page
  cases resident : s.table[page]? with
  | none =>
    rw [resident] at ran
    exact .of_ok ran (.refl h)
  | some f =>
    have held := (h.table_iff page f).mp resident
    simp only [resident] at ran
    by_cases busy : (s.frame f).isPinned = true
    · exact .of_error (ran.trans (if_pos busy)) (.refl h)
    · have unpinned : (s.frame f).pins = 0 := by simpa [Frame.isPinned] using busy
      exact .of_ok (ran.trans (if_neg busy)) ((RestsAt.vacated h held unpinned).tallied _)

theorem flush_settles (page : PageId) : Settles (flush page) s (s.RestsAt n) (s.FullAt n) := by
  cases resident : s.table[page]? with
  | none =>
    have ran : flush page s = .ok false s := by simp [flush, resident]
    exact .of_ok ran (.refl h)
  | some f =>
    have held := (h.table_iff page f).mp resident
    by_cases room : (s.frame f).pins + 1 < Frame.pinLimit
    · refine (flush_eq h resident room).settles fun ran => ?_
      by_cases clean : (s.frame f).dirty = false
      · exact .of_ok (ran.trans (if_pos clean)) (.refl h)
      · rw [if_neg clean] at ran
        by_cases granted : s.disk.Takes page
        · exact .of_ok (ran.trans (if_pos granted)) (.saved h held)
        · exact .of_error (ran.trans (if_neg granted)) (.spoiled h f page)
    · simp only [Settles, flush, Action.run_bind, Action.run_get, resident, pin_eq_fault room]
      exact h.full room

/-- A flush of dirty frames in any order disturbs no frame, even if it is cut short by an error. -/
theorem flushFrames_settles {order : List (PageId × Fin size)} (listed : order.Perm s.dirtyFrames) :
    Settles (flushFrames order) s (s.RestsAt n) (s.FullAt n) := by
  have flushable := dirtyFrames_flushable h listed
  by_cases room : ∀ entry ∈ order, (s.frame entry.2).pins + 1 < Frame.pinLimit
  · refine (flushFrames_eq h flushable room).settles fun ran => ?_
    have rests := RestsAt.savedAll h flushable.held
    generalize savedAll order s = saving at ran rests
    obtain ⟨refused, t⟩ := saving
    cases refused with
    | none => exact .of_ok ran rests
    | some e => exact .of_error ran rests
  · obtain ⟨t, stopped, -⟩ := forM_pin_overflow flushable room
    obtain ⟨_, f, -, most⟩ :
        ∃ page f, (page, f) ∈ order ∧ Frame.pinLimit ≤ (s.frame f).pins + 1 := by simpa using room
    simp only [Settles, flushFrames, Action.run_bind, stopped]
    exact h.full (Nat.not_lt.mpr most)

theorem sync_settles : Settles sync s (s.RestsAt n) (s.FullAt n) := sync_settles_of (.refl h)

theorem close_settles : Settles close s (s.RestsAt n) (s.FullAt n) := by
  apply close_settles_of
  exact ⟨h.shut, ⟨fun _ => rfl, fun _ _ => rfl⟩, fun _ _ => rfl⟩

end Requests

end PagedStorage.Pool
