import PagedStorage.Proofs.PinnedFrames

/-!
# The order in which a pool uses its pages

The order of use is kept for frames, but a pool is asked for pages. Seen by its pages, a request does
two things to the order at most (`Paces`): one page becomes the one used last, and one page leaves.
Pins, saves and bytes that change leave the order as it is.

A request for a page that is not resident chooses a victim if no frame is free. The victim leaves
(`evicted?`), or its bytes cannot be saved and it stays as the page used last (`retained?`). Whatever
else becomes of the request, it does nothing to the other pages.
-/

namespace PagedStorage.Pool

variable {size pageSize : Nat} {s t u : Pool size pageSize} {f : Fin size} {page : PageId}
  {used left : Option PageId}

/-! ### Victims -/

/-- The frame that an eviction takes, with its page. -/
def victim? (s : Pool size pageSize) : Option (Fin size × PageId) :=
  s.recency.evict?.bind fun entry => (s.frame entry.1).page.map fun page => (entry.1, page)

/-- The victim of a request for a page. There is none if the page is resident or a frame is free. -/
def chosen? (s : Pool size pageSize) (page : PageId) : Option (Fin size × PageId) :=
  if s.table[page]? = none ∧ s.free = [] then s.victim? else none

/-- The bytes of a frame are in the file, or can be written to it. -/
def canSave (s : Pool size pageSize) (entry : Fin size × PageId) : Bool :=
  match writeBack entry.1 entry.2 s with
  | .ok _ _ => true
  | .error _ _ => false

/-- The page that leaves for another one. -/
def evicted? (s : Pool size pageSize) (page : PageId) : Option PageId :=
  ((s.chosen? page).filter s.canSave).map Prod.snd

/-- The page that was to leave for another one, but could not be saved. -/
def retained? (s : Pool size pageSize) (page : PageId) : Option PageId :=
  ((s.chosen? page).filter fun entry => !s.canSave entry).map Prod.snd

theorem victim?_eq_some_iff (h : s.Sound) :
    s.victim? = some (f, page) ↔ s.recency.IsOldest f ∧ (s.frame f).page = some page := by
  simp only [victim?, Option.bind_eq_some_iff, Option.map_eq_some_iff, Prod.mk.injEq]
  constructor
  · rintro ⟨⟨g, rest⟩, chosen, q, held, rfl, rfl⟩
    exact ⟨(h.recency.evict?_eq_some_iff.mp chosen).1, held⟩
  · rintro ⟨oldest, held⟩
    exact ⟨_, h.recency.evict?_eq_some_iff.mpr ⟨oldest, rfl⟩, page, held, rfl, rfl⟩

/-- There is a victim unless all frames with a page are pinned. -/
theorem victim?_eq_none_iff (h : s.Sound) :
    s.victim? = none ↔ ∀ f page, (s.frame f).page = some page → (s.frame f).isPinned = true := by
  constructor
  · intro none f page held
    cases chosen : s.recency.evict? with
    | none =>
      have standing := h.recency.evict?_eq_none_iff.mp chosen f
      rw [h.standing_of_page held] at standing
      simpa using standing
    | some entry =>
      -- What is chosen may be evicted, so it has a page.
      obtain ⟨g, rest⟩ := entry
      have oldest := (h.recency.evict?_eq_some_iff.mp chosen).1
      obtain ⟨⟨q, there⟩, -⟩ := h.page_of_standing oldest.standing
      rw [(victim?_eq_some_iff h).mpr ⟨oldest, there⟩] at none
      cases none
  · intro pinned
    cases chosen : s.recency.evict? with
    | none => simp [victim?, chosen]
    | some entry =>
      obtain ⟨g, rest⟩ := entry
      obtain ⟨⟨q, there⟩, unpinned⟩ :=
        h.page_of_standing (h.recency.evict?_eq_some_iff.mp chosen).1.standing
      have busy := pinned g q there
      simp [Frame.isPinned, unpinned] at busy

/-- A frame has to be found for the page, and none is free. -/
theorem chosen?_of_full (absent : s.table[page]? = none) (full : s.free = []) :
    s.chosen? page = s.victim? := if_pos ⟨absent, full⟩

theorem chosen?_eq_some_iff {entry : Fin size × PageId} :
    s.chosen? page = some entry ↔
      (s.table[page]? = none ∧ s.free = []) ∧ s.victim? = some entry := by
  rw [chosen?]
  split
  · next needed => simp only [needed, true_and]
  · next needless => simp only [needless, false_and, reduceCtorEq]

theorem chosen?_eq_none (either : s.table[page]? ≠ none ∨ s.free ≠ []) : s.chosen? page = none :=
  if_neg fun both => either.elim (· both.1) (· both.2)

theorem evicted?_eq_some_iff {victim : PageId} :
    s.evicted? page = some victim ↔
      ∃ f, s.chosen? page = some (f, victim) ∧ s.canSave (f, victim) = true := by
  simp [evicted?, Option.map_eq_some_iff, Option.filter_eq_some_iff]

theorem retained?_eq_some_iff {victim : PageId} :
    s.retained? page = some victim ↔
      ∃ f, s.chosen? page = some (f, victim) ∧ s.canSave (f, victim) = false := by
  simp [retained?, Option.map_eq_some_iff, Option.filter_eq_some_iff]

/-- The victim either leaves or stays. -/
theorem retained?_eq_none {victim : PageId} (evicted : s.evicted? page = some victim) :
    s.retained? page = none := by
  obtain ⟨f, chosen, saved⟩ := evicted?_eq_some_iff.mp evicted
  rw [Option.eq_none_iff_forall_ne_some]
  intro other retained
  obtain ⟨g, also, unsaved⟩ := retained?_eq_some_iff.mp retained
  rw [chosen] at also
  cases also
  simp [saved] at unsaved

theorem canSave_iff (addressable : page.Addressable pageSize) :
    s.canSave (f, page) = true ↔
      (s.frame f).dirty = false ∨ s.disk.Takes page := by
  rw [canSave, (writeBack_eq addressable).sure]
  by_cases clean : (s.frame f).dirty = false
  · simp [clean]
  · by_cases takes : s.disk.Takes page <;> simp [clean, takes]

/-- Counts have no say in what can be saved. -/
theorem canSave_tallied (s : Pool size pageSize) (change : Counters → Counters) :
    (s.tallied change).canSave = s.canSave := by
  funext entry
  have disk : (s.tallied change).disk = s.disk := rfl
  by_cases newer : (s.frame entry.1).dirty = true
  · cases written : Disk.writeBlock entry.2 (s.frame entry.1).bytes s.disk <;>
      simp [canSave, writeBack, newer, onDisk, disk, written, editFrame]
  · simp [canSave, writeBack, newer]

theorem evicted?_tallied (s : Pool size pageSize) (change : Counters → Counters) (page : PageId) :
    (s.tallied change).evicted? page = s.evicted? page := by
  rw [evicted?, canSave_tallied]
  rfl

theorem retained?_tallied (s : Pool size pageSize) (change : Counters → Counters) (page : PageId) :
    (s.tallied change).retained? page = s.retained? page := by
  rw [retained?, canSave_tallied]
  rfl

/-! ### The order of use, page by page -/

/-- When a page was used last, if it is resident. -/
def lastUse? (s : Pool size pageSize) (page : PageId) : Option Nat :=
  s.table[page]?.bind s.recency.lastUse?

/-- What a request does to the order of use: at most one page is used, and at most one leaves. -/
structure Paces (s t : Pool size pageSize) (used left : Option PageId) : Prop where
  clock : t.recency.clock = s.recency.clock + used.toList.length
  uses : ∀ q, t.lastUse? q =
    if used = some q then some (s.recency.clock + 1)
    else if left = some q then none else s.lastUse? q

theorem lastUse?_of_table (resident : s.table[page]? = some f) :
    s.lastUse? page = s.recency.lastUse? f := by
  rw [Pool.lastUse?, resident]
  rfl

/-- The pages with a time of use are the resident ones. -/
theorem SoundAt.lastUse?_eq_none_iff {n : Nat} (h : s.SoundAt n) :
    s.lastUse? page = none ↔ s.table[page]? = none := by
  cases resident : s.table[page]? with
  | none => simp [Pool.lastUse?, resident]
  | some f =>
    have tracked := h.standing_of_page ((h.table_iff page f).mp resident)
    obtain ⟨u, known, -⟩ := Option.map_eq_some_iff.mp tracked
    simp [Pool.lastUse?, resident, Recency.lastUse?, known]

namespace Paces

theorem refl (s : Pool size pageSize) : s.Paces s none none := ⟨rfl, fun _ => rfl⟩

/-- One page leaves, and then one is used. -/
theorem trans (first : s.Paces t none left) (second : t.Paces u used none) :
    s.Paces u used left := by
  have clock : t.recency.clock = s.recency.clock := first.clock
  constructor
  case clock => rw [second.clock, clock]
  case uses =>
    intro q
    rw [second.uses, first.uses, clock]
    simp

/-- What comes first leaves the order as it is. -/
theorem of_rests (first : s.Paces t none none) (second : t.Paces u used left) :
    s.Paces u used left := by
  have clock : t.recency.clock = s.recency.clock := first.clock
  constructor
  case clock => rw [second.clock, clock]
  case uses =>
    intro q
    have same : t.lastUse? q = s.lastUse? q := first.uses q
    rw [second.uses, same, clock]

/-- What follows leaves the order as it is. -/
theorem then_rests (first : s.Paces t used left) (second : t.Paces u none none) :
    s.Paces u used left := by
  constructor
  case clock => exact second.clock.trans first.clock
  case uses => exact fun q => (second.uses q).trans (first.uses q)

theorem tallied (paces : s.Paces t used left) (change : Counters → Counters) :
    s.Paces (t.tallied change) used left := ⟨paces.clock, paces.uses⟩

/-- What follows a count follows the state before it. -/
theorem of_tallied {change : Counters → Counters} (paces : (s.tallied change).Paces t used left) :
    s.Paces t used left := ⟨paces.clock, paces.uses⟩

/-- Frames may change as long as no page moves and none is used. -/
theorem rests (table : t.table = s.table) (clock : t.recency.clock = s.recency.clock)
    (lastUse? : ∀ f, t.recency.lastUse? f = s.recency.lastUse? f) : s.Paces t none none := by
  constructor
  case clock => exact clock
  case uses =>
    intro q
    have same : t.recency.lastUse? = s.recency.lastUse? := funext lastUse?
    simp [Pool.lastUse?, table, same]

theorem pinned (s : Pool size pageSize) (f : Fin size) : s.Paces (s.pinned f) none none :=
  rests rfl (Recency.clock_setEvictable ..) fun _ => Recency.lastUse?_setEvictable ..

theorem unpinned (s : Pool size pageSize) (f : Fin size) : s.Paces (s.unpinned f) none none := by
  unfold Pool.unpinned
  split
  · exact rests rfl (Recency.clock_setEvictable ..) fun _ => Recency.lastUse?_setEvictable ..
  · exact rests rfl rfl fun _ => rfl

theorem filled (s : Pool size pageSize) (f : Fin size) (bytes : Block pageSize) (dirty : Bool) :
    s.Paces (s.filled f bytes dirty) none none := rests rfl rfl fun _ => rfl

theorem saved (s : Pool size pageSize) (f : Fin size) (page : PageId) :
    s.Paces (s.saved f page) none none := by
  unfold Pool.saved
  split
  · exact rests rfl rfl fun _ => rfl
  · exact refl s

theorem spoiled (s : Pool size pageSize) (f : Fin size) (page : PageId) :
    s.Paces (s.spoiled f page) none none := rests rfl rfl fun _ => rfl

theorem savedAll (order : List (PageId × Fin size)) (s : Pool size pageSize) :
    s.Paces (savedAll order s).2 none none :=
  savedAll_keeps (R := fun s t => s.Paces t none none) refl (fun _ _ _ => of_rests) saved spoiled
    order s

theorem touched (h : s.Sound) (held : (s.frame f).page = some page) :
    s.Paces (s.touched f) (some page) none := by
  have resident := (h.table_iff page f).mpr held
  constructor
  case clock => exact Recency.clock_touch ..
  case uses =>
    intro q
    have use : (s.touched f).lastUse? q = s.table[q]?.bind (s.recency.touch f).lastUse? := rfl
    rw [use]
    by_cases same : page = q
    · subst same
      simp [resident, Recency.lastUse?_touch]
    · -- Another page is in another frame.
      have apart : ∀ g, s.table[q]? = some g → f ≠ g :=
        fun g found => h.frame_ne held found (Ne.symm same)
      cases found : s.table[q]? with
      | none => simp [Pool.lastUse?, found, same]
      | some g => simp [Pool.lastUse?, found, same, Recency.lastUse?_touch, apart g found]

theorem vacated (h : s.Sound) (held : (s.frame f).page = some page) :
    s.Paces (s.vacated f page) none (some page) := by
  constructor
  case clock => exact Recency.clock_remove ..
  case uses =>
    intro q
    have use : (s.vacated f page).lastUse? q =
        (s.vacated f page).table[q]?.bind (s.recency.remove f).lastUse? := rfl
    rw [use, table_vacated]
    by_cases same : page = q
    · simp [same]
    · cases found : s.table[q]? with
      | none => simp [Pool.lastUse?, found, same]
      | some g =>
        have apart := h.frame_ne held found (Ne.symm same)
        simp [Pool.lastUse?, found, same, Recency.lastUse?_remove, apart]

theorem admitted (h : s.Sound) {rest : List (Fin size)} (head : s.free = f :: rest)
    (page : PageId) (bytes : Block pageSize) (dirty : Bool) :
    s.Paces (s.admitted f page bytes dirty) (some page) none := by
  have empty := h.head_free head
  constructor
  case clock => exact (Recency.clock_setEvictable ..).trans (Recency.clock_touch ..)
  case uses =>
    intro q
    have use : (s.admitted f page bytes dirty).lastUse? q =
        (s.admitted f page bytes dirty).table[q]?.bind
          ((s.recency.touch f).setEvictable f true).lastUse? := rfl
    rw [use, table_admitted]
    by_cases same : page = q
    · simp [same, Recency.lastUse?_setEvictable, Recency.lastUse?_touch]
    · cases found : s.table[q]? with
      | none => simp [Pool.lastUse?, found, same]
      | some g =>
        -- The frame was empty, so no page was in it.
        have apart : f ≠ g := by
          rintro rfl
          have there := (h.table_iff q f).mp found
          rw [empty] at there
          cases there
        simp [Pool.lastUse?, found, same, Recency.lastUse?_setEvictable, Recency.lastUse?_touch,
          apart]

end Paces

/-! ### Making room -/

/-- Whoever makes room evicts the victim, if one was chosen. -/
theorem MakesRoom.paces (room : s.MakesRoom t f) (h : s.Sound) (absent : s.table[page]? = none) :
    s.Paces t none (s.evicted? page) ∧ s.retained? page = none := by
  cases room with
  | free head =>
    have unchosen : s.chosen? page = none := chosen?_eq_none (.inr (by simp [head]))
    simp only [evicted?, retained?, unchosen, Option.filter_none, Option.map_none, and_true]
    exact .refl s
  | @evict _ victim full oldest held saves =>
    have chosen := (chosen?_of_full absent full).trans
      ((victim?_eq_some_iff h).mpr ⟨oldest, held⟩)
    have saved : s.canSave (f, victim) = true := by
      rw [canSave_iff (h.addressable f victim held)]
      by_cases newer : (s.frame f).dirty = true
      · exact .inr (saves newer)
      · exact .inl (by simpa using newer)
    have there : ((s.saved f victim).frame f).page = some victim := by rwa [page_saved]
    simp only [evicted?, retained?, chosen, Option.filter_some, saved, if_true, Option.map_some,
      Bool.not_true, Bool.false_eq_true, if_false, Option.map_none, and_true]
    exact ((Paces.saved s f victim).of_rests (.vacated (h.saved held) there)).tallied _

/-- Whoever does not make room leaves all pages where they are. -/
theorem LacksRoom.paces {e : StoreError} (lacks : s.LacksRoom e t) (h : s.Sound)
    (absent : s.table[page]? = none) : s.Paces t (s.retained? page) (s.evicted? page) := by
  cases lacks with
  | saturated full pinned =>
    have chosen := (chosen?_of_full absent full).trans
      ((victim?_eq_none_iff h).mpr fun f _ _ => pinned f)
    simp only [evicted?, retained?, chosen, Option.filter_none, Option.map_none]
    exact .refl s
  | @stuck f victim full oldest held newer refused =>
    have chosen := (chosen?_of_full absent full).trans
      ((victim?_eq_some_iff h).mpr ⟨oldest, held⟩)
    have stays : s.canSave (f, victim) = false := by
      rw [Bool.eq_false_iff, Ne, canSave_iff (h.addressable f victim held)]
      simp [newer, refused]
    simp only [evicted?, retained?, chosen, Option.filter_some, stays, Bool.not_false, if_true,
      Option.map_some, Bool.false_eq_true, if_false, Option.map_none]
    exact (Paces.spoiled s f victim).of_rests (.touched (h.spoiled f victim) held)

/-- A page that comes in is used, after the victim has left. A request that fails uses no page but a
victim that had to stay. -/
theorem Admits.paces {fill : Fill pageSize} {r : Except StoreError (Fin size)}
    (admits : s.Admits page fill r t) (h : s.Sound) (absent : s.table[page]? = none) :
    match r with
    | .ok _ => s.Paces t (some page) (s.evicted? page) ∧ s.retained? page = none
    | .error _ => s.Paces t (s.retained? page) (s.evicted? page) := by
  cases admits with
  | full lacks => exact lacks.paces h absent
  | unread room =>
    obtain ⟨paces, left⟩ := room.paces h absent
    rw [left]
    exact paces
  | @enters f t bytes dirty room =>
    obtain ⟨paces, left⟩ := room.paces h absent
    have entered := Paces.admitted (room.sound h) room.head page bytes dirty
    exact ⟨(paces.trans entered).tallied _, left⟩

/-! ### Requests -/

/-- A request for a page uses it if it succeeds, and what it does to other pages concerns the victim
alone. A fault moves no page. -/
def Orders {α : Type} (act : Action (Pool size pageSize) α) (page : PageId)
    (s : Pool size pageSize) : Prop :=
  match act s with
  | .ok _ t => s.Paces t (some page) (s.evicted? page) ∧ s.retained? page = none
  | .error (.error _) t => s.Paces t (s.retained? page) (s.evicted? page)
  | .error (.fault _) t => t.table = s.table

/-- An action that leaves the order as it is, faults apart. -/
def Idles {α : Type} (act : Action (Pool size pageSize) α) (s : Pool size pageSize) : Prop :=
  match act s with
  | .ok _ t | .error (.error _) t => s.Paces t none none
  | .error (.fault _) t => t.table = s.table

theorem evicted?_of_resident (resident : s.table[page]? = some f) :
    s.evicted? page = none ∧ s.retained? page = none := by
  have unchosen : s.chosen? page = none := chosen?_eq_none (.inl (by simp [resident]))
  simp [evicted?, retained?, unchosen]

/-- A hit asks nobody to leave. -/
theorem Paces.hit (paces : s.Paces t (some page) none) (resident : s.table[page]? = some f) :
    s.Paces t (some page) (s.evicted? page) ∧ s.retained? page = none := by
  obtain ⟨unmoved, unasked⟩ := evicted?_of_resident resident
  rw [unmoved]
  exact ⟨paces, unasked⟩

/-- A miss that is counted first. -/
theorem Admits.paces_of_missed {fill : Fill pageSize} {r : Except StoreError (Fin size)}
    (admits : (s.tallied missCounted).Admits page fill r t) (h : s.Sound)
    (absent : s.table[page]? = none) :
    match r with
    | .ok _ => s.Paces t (some page) (s.evicted? page) ∧ s.retained? page = none
    | .error _ => s.Paces t (s.retained? page) (s.evicted? page) := by
  have paces := admits.paces (h.tallied _) absent
  rw [evicted?_tallied, retained?_tallied] at paces
  cases r with
  | ok => exact ⟨paces.1.of_tallied, paces.2⟩
  | error => exact paces.of_tallied

section Requests

variable (h : s.Sound)
include h

theorem paces_used (held : (s.frame f).page = some page) : s.Paces (s.used f) (some page) none :=
  (Paces.touched h held).tallied _

theorem fetch_orders (addressable : page.Addressable pageSize) : Orders (fetch page) page s := by
  cases resident : s.table[page]? with
  | some f =>
    have held := (h.table_iff page f).mp resident
    by_cases room : (s.frame f).pins + 1 < Frame.pinLimit
    · simp only [Orders, fetch_hit h resident room]
      exact ((paces_used h held).then_rests (.pinned _ f)).hit resident
    · simp only [Orders, fetch, Action.run_bind, pinPage_overflow resident room]
      rfl
  | none =>
    obtain ⟨r, t, admits, fetched⟩ := (fetch_miss h resident addressable).sure
    have paces := admits.paces_of_missed h resident
    rw [Orders, fetched]
    cases r with
    | error e => exact paces
    | ok f => exact ⟨paces.1.then_rests (.pinned t f), paces.2⟩

theorem read_orders (addressable : page.Addressable pageSize) : Orders (read page) page s := by
  cases resident : s.table[page]? with
  | some f =>
    have held := (h.table_iff page f).mp resident
    by_cases room : (s.frame f).pins + 1 < Frame.pinLimit
    · simp only [Orders, read_hit h resident room]
      exact (paces_used h held).hit resident
    · simp only [Orders, read, fetch, Action.run_bind, pinPage_overflow resident room]
      rfl
  | none =>
    obtain ⟨r, t, admits, ran⟩ := (read_miss h resident addressable).sure
    have paces := admits.paces_of_missed h resident
    rw [Orders, ran]
    cases r <;> exact paces

theorem writeBlock_orders (addressable : page.Addressable pageSize) (block : Block pageSize) :
    Orders (writeBlock page block) page s := by
  cases resident : s.table[page]? with
  | some f =>
    have held := (h.table_iff page f).mp resident
    by_cases room : (s.frame f).pins + 1 < Frame.pinLimit
    · simp only [Orders, writeBlock_hit h resident room]
      exact ((paces_used h held).then_rests (.filled _ f block true)).hit resident
    · simp only [Orders, writeBlock, Action.run_bind, pinPage_overflow resident room]
      rfl
  | none =>
    obtain ⟨r, t, admits, ran⟩ := (writeBlock_miss h resident addressable block).sure
    have paces := admits.paces_of_missed h resident
    rw [Orders, ran]
    cases r <;> exact paces

theorem create_orders (addressable : page.Addressable pageSize) : Orders (create page) page s := by
  cases resident : s.table[page]? with
  | some f =>
    have held := (h.table_iff page f).mp resident
    by_cases busy : (s.frame f).isPinned = true
    · -- A page that is pinned is not made anew, and nobody is asked to leave for it.
      obtain ⟨unmoved, unasked⟩ := evicted?_of_resident resident
      simp only [Orders, (create_hit resident).trans (if_pos busy), unmoved, unasked]
      exact .refl s
    · simp only [Orders, (create_hit resident).trans (if_neg busy)]
      exact ((Paces.touched h held).then_rests (.filled _ f .zero true)).hit resident
  | none =>
    obtain ⟨r, t, admits, ran⟩ := (create_miss h resident addressable).sure
    have paces := admits.paces h resident
    rw [Orders, ran]
    cases r <;> exact paces

theorem flush_idles (page : PageId) : Idles (flush page) s := by
  cases resident : s.table[page]? with
  | none =>
    simp only [Idles, flush, Action.run_bind, Action.run_get, resident, Action.run_pure]
    exact .refl s
  | some f =>
    by_cases room : (s.frame f).pins + 1 < Frame.pinLimit
    · rw [Idles, (flush_eq h resident room).sure]
      by_cases clean : (s.frame f).dirty = false
      · simp only [if_pos clean]
        exact .refl s
      · by_cases granted : s.disk.Takes page
        · simp only [if_neg clean, if_pos granted]
          exact .saved s f page
        · simp only [if_neg clean, if_neg granted]
          exact .spoiled s f page
    · simp only [Idles, flush, Action.run_bind, Action.run_get, resident, pin_eq_fault room]
      rfl

theorem flushFrames_idles {order : List (PageId × Fin size)} (listed : order.Perm s.dirtyFrames) :
    Idles (flushFrames order) s := by
  have flushable := dirtyFrames_flushable h listed
  by_cases room : ∀ entry ∈ order, (s.frame entry.2).pins + 1 < Frame.pinLimit
  · have paces := Paces.savedAll order s
    rw [Idles, (flushFrames_eq h flushable room).sure]
    generalize savedAll order s = saving at paces
    obtain ⟨refused, t⟩ := saving
    cases refused <;> exact paces
  · obtain ⟨t, stopped, -, table, -⟩ := forM_pin_overflow flushable room
    simp only [Idles, flushFrames, Action.run_bind, stopped]
    exact table

end Requests

theorem sync_idles (s : Pool size pageSize) : Idles sync s := by
  rw [Idles, sync_eq]
  by_cases opened : s.disk.isOpen = true
  · cases answer : s.disk.device.syncing <;> simp only [if_pos opened] <;> exact .refl s
  · simp only [if_neg opened]
    exact .refl s

theorem close_idles (s : Pool size pageSize) : Idles close s := by
  have shut : s.Paces s.shut none none := .rests rfl rfl fun _ => rfl
  rw [Idles, close_eq]
  by_cases opened : s.disk.isOpen = true
  · cases answer : s.disk.device.closing <;> simp only [if_pos opened] <;> exact shut
  · simp only [if_neg opened]
    exact .refl s

end PagedStorage.Pool
