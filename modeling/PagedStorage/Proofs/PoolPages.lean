import Mathlib.Logic.Function.Basic
import PagedStorage.Proofs.PoolMoves

/-!
# A pool as a map from pages to bytes

To a caller a pool is a map from pages to bytes: those in the frame if the page is resident, and else
those in the file (`bytesOf`, `view`). `Turns` says what a step makes of this map, and with it the
two facts that everything about crashes rests on: no page is let go, and the file gets no bytes but
those its pages had.

A clean frame holds what the file holds (`Coherent`), so its page may leave unseen. Pages that are
being written through a guard are apart: their frames become dirty only when the guard is given up.
-/

namespace PagedStorage.Pool

variable {size pageSize : Nat}

/-- The bytes of a page: in its frame if it is resident, and else at its place in the file. -/
def bytesOf (s : Pool size pageSize) (page : PageId) : Block pageSize :=
  match s.table[page]? with
  | some f => (s.frame f).bytes
  | none => s.disk.blockAt page

/-- The page is resident, or the file has a block for it. -/
def Holds (s : Pool size pageSize) (page : PageId) : Prop :=
  s.table[page]?.isSome ∨ page.index < s.disk.blockCount

/-- What can be seen of a page. -/
def view (s : Pool size pageSize) (page : PageId) : Option (Block pageSize) :=
  match s.table[page]? with
  | some f => some (s.frame f).bytes
  | none => if page.index < s.disk.blockCount then some (s.disk.blockAt page) else none

theorem view_eq_some_iff {s : Pool size pageSize} {page : PageId} {block : Block pageSize} :
    s.view page = some block ↔ s.Holds page ∧ s.bytesOf page = block := by
  unfold view Holds bytesOf
  cases s.table[page]? with
  | none => simp
  | some f => simp

/-- A clean frame holds what the file holds, pages that are being written apart. -/
def Coherent (s : Pool size pageSize) (written : PageId → Prop) : Prop :=
  ∀ f page, (s.frame f).page = some page → (s.frame f).dirty = false → ¬ written page →
    page.index < s.disk.blockCount ∧ s.disk.blockAt page = (s.frame f).bytes

/-! ### What a move does to the pages -/

/-- From `s` to `t` the pages come to have the bytes `after`. No page is let go, the file keeps its
blocks, and where it has changed it has bytes that the page had in `s`. -/
structure Turns (s t : Pool size pageSize) (after : PageId → Block pageSize) : Prop where
  bytesOf : ∀ q, t.bytesOf q = after q
  holds : ∀ q, s.Holds q → t.Holds q
  blockAt : ∀ q, t.disk.blockAt q = s.disk.blockAt q ∨ t.disk.blockAt q = s.bytesOf q
  blockCount_le : s.disk.blockCount ≤ t.disk.blockCount
  maxFileSize_eq : t.disk.maxFileSize = s.disk.maxFileSize
  isOpen_eq : t.disk.isOpen = s.disk.isOpen

/-- All pages keep their bytes. -/
abbrev Carries (s t : Pool size pageSize) : Prop := s.Turns t s.bytesOf

namespace Turns

variable {s t u : Pool size pageSize} {after : PageId → Block pageSize}

theorem refl (s : Pool size pageSize) : s.Carries s :=
  ⟨fun _ => rfl, fun _ => id, fun _ => .inl rfl, Nat.le_refl _, rfl, rfl⟩

theorem trans (first : s.Carries t) (second : t.Turns u after) : s.Turns u after := by
  constructor
  case bytesOf => exact second.bytesOf
  case holds => exact fun q held => second.holds q (first.holds q held)
  case blockAt =>
    intro q
    rcases second.blockAt q with kept | saved
    · rw [kept]
      exact first.blockAt q
    · -- What is saved on the way from `t` are bytes of `t`, and these are the bytes of `s`.
      exact .inr (saved.trans (first.bytesOf q))
  case blockCount_le => exact Nat.le_trans first.blockCount_le second.blockCount_le
  case maxFileSize_eq => exact second.maxFileSize_eq.trans first.maxFileSize_eq
  case isOpen_eq => exact second.isOpen_eq.trans first.isOpen_eq

/-- The file keeps its room. -/
theorem hasRoom (turns : s.Turns t after) {page : PageId} (room : s.disk.HasRoom page) :
    t.disk.HasRoom page := by
  unfold Disk.HasRoom at *
  rw [turns.maxFileSize_eq]
  exact room.imp_left fun counted => Nat.lt_of_lt_of_le counted turns.blockCount_le

theorem carry (first : s.Carries t) (second : t.Carries u) : s.Carries u := by
  -- The pages have the same bytes in `t`, so the second step is one that starts in `s`.
  have same : t.bytesOf = s.bytesOf := funext first.bytesOf
  have second : t.Turns u s.bytesOf := same ▸ second
  exact first.trans second

end Turns

variable {s : Pool size pageSize} {f : Fin size} {page : PageId}

theorem bytesOf_of_resident (found : s.table[page]? = some f) :
    s.bytesOf page = (s.frame f).bytes := by
  rw [bytesOf, found]

theorem bytesOf_of_absent (absent : s.table[page]? = none) :
    s.bytesOf page = s.disk.blockAt page := by
  rw [bytesOf, absent]

theorem bytesOf_of_frame (h : s.Sound) (held : (s.frame f).page = some page) :
    s.bytesOf page = (s.frame f).bytes :=
  bytesOf_of_resident ((h.table_iff page f).mpr held)

theorem holds_of_frame (h : s.Sound) (held : (s.frame f).page = some page) : s.Holds page :=
  .inl (by simp [(h.table_iff page f).mpr held])

theorem turns_reframed (h : s.Sound) (held : (s.frame f).page = some page)
    (frame : Frame pageSize) (recency : Recency (Fin size)) :
    s.Turns (s.reframed f frame recency) (Function.update s.bytesOf page frame.bytes) := by
  constructor
  case bytesOf =>
    intro q
    -- Table and file are as they were, so all turns on the frame that the page is in.
    have table : (s.reframed f frame recency).table[q]? = s.table[q]? := rfl
    by_cases same : q = page
    · subst same
      rw [bytesOf_of_resident (table.trans ((h.table_iff q f).mpr held)), frame_reframed_self,
        Function.update_self]
    · rw [Function.update_of_ne same]
      cases found : s.table[q]? with
      | none =>
        rw [bytesOf_of_absent (table.trans found), bytesOf_of_absent found]
        rfl
      | some g =>
        rw [bytesOf_of_resident (table.trans found), bytesOf_of_resident found, frame_reframed,
          if_neg (h.frame_ne held found same)]
  case holds => exact fun q => id
  case blockAt => exact fun q => .inl rfl
  case blockCount_le => exact Nat.le_refl _
  case maxFileSize_eq => rfl
  case isOpen_eq => rfl

theorem carries_reframed (h : s.Sound) (held : (s.frame f).page = some page)
    {frame : Frame pageSize} (kept : frame.bytes = (s.frame f).bytes)
    (recency : Recency (Fin size)) : s.Carries (s.reframed f frame recency) := by
  have turns := turns_reframed h held frame recency
  rwa [kept, ← bytesOf_of_frame h held, Function.update_eq_self] at turns

theorem carries_saved (h : s.Sound) (held : (s.frame f).page = some page) :
    s.Carries (s.saved f page) := by
  have resident := (h.table_iff page f).mpr held
  by_cases newer : (s.frame f).dirty ∧ page.index + 1 < 0x100000000
  · have disk : (s.saved f page).disk = s.disk.written page (s.frame f).bytes newer.2 := by
      rw [disk_saved, dif_pos newer]
    have grown : s.disk.blockCount ≤ (s.saved f page).disk.blockCount := by
      rw [disk, Disk.blockCount_written]
      exact Nat.le_max_left ..
    constructor
    case bytesOf =>
      intro q
      have table : (s.saved f page).table[q]? = s.table[q]? := by rw [table_saved]
      cases found : s.table[q]? with
      | some g =>
        rw [bytesOf_of_resident (table.trans found), bytesOf_of_resident found,
          frame_saved s f g newer.2]
        split
        · next same => rw [← same, Frame.clearDirty]
        · rfl
      | none =>
        -- The page that was written is resident, so this is another one.
        have apart : q ≠ page := by
          rintro rfl
          simp [resident] at found
        rw [bytesOf_of_absent (table.trans found), bytesOf_of_absent found, disk,
          Disk.blockAt_written, if_neg apart]
    case holds =>
      intro q known
      rw [Holds, table_saved]
      exact known.imp_right fun counted => Nat.lt_of_lt_of_le counted grown
    case blockAt =>
      intro q
      rw [disk, Disk.blockAt_written]
      split
      · next same =>
        subst same
        exact .inr (bytesOf_of_frame h held).symm
      · exact .inl rfl
    case blockCount_le => exact grown
    case maxFileSize_eq => rw [disk, Disk.maxFileSize_written]
    case isOpen_eq => rw [disk, Disk.isOpen_written]
  · rw [saved, dif_neg newer]
    exact Turns.refl s

/-- A page that leaves its frame has from then on the bytes that the file has for it. -/
theorem bytesOf_vacated (h : s.Sound) (held : (s.frame f).page = some page) (q : PageId) :
    (s.vacated f page).bytesOf q = if q = page then s.disk.blockAt page else s.bytesOf q := by
  have table := table_vacated s f page q
  by_cases same : q = page
  · subst same
    rw [if_pos rfl] at table ⊢
    exact bytesOf_of_absent table
  · rw [if_neg (Ne.symm same)] at table
    rw [if_neg same]
    cases found : s.table[q]? with
    | none =>
      rw [bytesOf_of_absent (table.trans found), bytesOf_of_absent found]
      rfl
    | some g =>
      rw [bytesOf_of_resident (table.trans found), bytesOf_of_resident found, frame_vacated,
        if_neg (h.frame_ne held found same)]

/-- A page that the file has may leave its frame unseen. -/
theorem carries_vacated (h : s.Sound) (held : (s.frame f).page = some page)
    (counted : page.index < s.disk.blockCount) (same : s.disk.blockAt page = (s.frame f).bytes) :
    s.Carries (s.vacated f page) := by
  constructor
  case bytesOf =>
    intro q
    rw [bytesOf_vacated h held]
    split
    · next equal => rw [equal, same, bytesOf_of_frame h held]
    · rfl
  case holds =>
    intro q known
    -- The page that leaves is in the file.
    by_cases equal : q = page
    · exact .inr (equal ▸ counted)
    · rw [Holds, table_vacated, if_neg (Ne.symm equal)]
      exact known
  case blockAt => exact fun q => .inl rfl
  case blockCount_le => exact Nat.le_refl _
  case maxFileSize_eq => rfl
  case isOpen_eq => rfl

theorem turns_admitted (h : s.Sound) {rest : List (Fin size)} (head : s.free = f :: rest)
    (bytes : Block pageSize) (dirty : Bool) :
    s.Turns (s.admitted f page bytes dirty) (Function.update s.bytesOf page bytes) := by
  have empty := h.head_free head
  constructor
  case bytesOf =>
    intro q
    have table := table_admitted s f page q bytes dirty
    by_cases same : q = page
    · subst same
      rw [if_pos rfl] at table
      rw [bytesOf_of_resident table, frame_admitted, if_pos rfl, Function.update_self]
    · rw [if_neg (Ne.symm same)] at table
      rw [Function.update_of_ne same]
      cases found : s.table[q]? with
      | none =>
        rw [bytesOf_of_absent (table.trans found), bytesOf_of_absent found]
        rfl
      | some g =>
        -- The frame that is filled was free, so it held no page.
        have apart : f ≠ g := by
          rintro rfl
          have := (h.table_iff q f).mp found
          simp [empty, Frame.empty] at this
        rw [bytesOf_of_resident (table.trans found), bytesOf_of_resident found, frame_admitted,
          if_neg apart]
  case holds =>
    intro q known
    rw [Holds, table_admitted]
    split
    · exact .inl rfl
    · exact known
  case blockAt => exact fun q => .inl rfl
  case blockCount_le => exact Nat.le_refl _
  case maxFileSize_eq => rfl
  case isOpen_eq => rfl

/-! ### Clean frames -/

namespace Coherent

variable {written : PageId → Prop}

theorem tallied (c : s.Coherent written) (change : Counters → Counters) :
    (s.tallied change).Coherent written := c

theorem reframed (c : s.Coherent written) {frame : Frame pageSize} (kept : frame.page = some page)
    (clean : frame.dirty = false → ¬ written page →
      page.index < s.disk.blockCount ∧ s.disk.blockAt page = frame.bytes)
    (recency : Recency (Fin size)) : (s.reframed f frame recency).Coherent written := by
  intro g q named unchanged apart
  rw [frame_reframed] at named unchanged ⊢
  -- Only the frame that changed has to be looked at.
  split at named
  · next same =>
    subst same
    rw [kept] at named
    cases named
    simp only [if_true] at unchanged ⊢
    exact clean unchanged apart
  · next other =>
    rw [if_neg other] at unchanged ⊢
    exact c g q named unchanged apart

/-- Whatever is changed of a frame besides its bytes, it stays as clean as it was. -/
theorem kept (c : s.Coherent written) (held : (s.frame f).page = some page)
    {frame : Frame pageSize} (kept : frame.page = some page)
    (bytes : frame.bytes = (s.frame f).bytes) (dirty : frame.dirty = (s.frame f).dirty)
    (recency : Recency (Fin size)) : (s.reframed f frame recency).Coherent written := by
  have clean : frame.dirty = false → ¬ written page →
      page.index < s.disk.blockCount ∧ s.disk.blockAt page = frame.bytes := by
    intro clean apart
    rw [bytes]
    exact c f page held (dirty ▸ clean) apart
  exact c.reframed kept clean recency

theorem saved (c : s.Coherent written) (h : s.Sound) (held : (s.frame f).page = some page) :
    (s.saved f page).Coherent written := by
  by_cases newer : (s.frame f).dirty ∧ page.index + 1 < 0x100000000
  · intro g q named unchanged apart
    rw [frame_saved s f g newer.2] at named unchanged ⊢
    rw [disk_saved, dif_pos newer, Disk.blockCount_written, Disk.blockAt_written]
    split at named
    · next same =>
      -- The frame was saved: the file has its bytes now.
      subst same
      obtain rfl : page = q := Option.some.inj (held.symm.trans named)
      simp only [if_true, Frame.clearDirty, and_true]
      omega
    · next other =>
      rw [if_neg other] at unchanged ⊢
      have elsewhere : q ≠ page := by
        rintro rfl
        exact other (h.frame_eq held named)
      rw [if_neg elsewhere]
      obtain ⟨counted, same⟩ := c g q named unchanged apart
      exact ⟨by omega, same⟩
  · rw [Pool.saved, dif_neg newer]
    exact c

theorem vacated (c : s.Coherent written) : (s.vacated f page).Coherent written := by
  intro g q named unchanged apart
  rw [frame_vacated] at named unchanged ⊢
  split at named
  · cases named
  · next other =>
    rw [if_neg other] at unchanged ⊢
    exact c g q named unchanged apart

theorem admitted (c : s.Coherent written) {bytes : Block pageSize} {dirty : Bool}
    (clean : dirty = false → page.index < s.disk.blockCount ∧ s.disk.blockAt page = bytes) :
    (s.admitted f page bytes dirty).Coherent written := by
  intro g q named unchanged apart
  rw [frame_admitted] at named unchanged ⊢
  split at named
  · next same =>
    subst same
    cases named
    simp only [if_true] at unchanged ⊢
    exact clean unchanged
  · next other =>
    rw [if_neg other] at unchanged ⊢
    exact c g q named unchanged apart

end Coherent

end PagedStorage.Pool
