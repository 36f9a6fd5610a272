import PagedStorage.Proofs.PoolTransparency
import PagedStorage.Session.GuardedPool

/-!
# Guards on a pool

The pins of a frame are the guards held on it, so a page with a guard stays where it is, and a page
whose guard may write is one whose frame the pool does not trust (`GuardedPool.Sound`). Every request
keeps this, whatever order a flush of all pages takes, and with it a pool with guards is a plain map
of pages that only the requests to write, make, drop or poke a page change (`steps_shows`).

A run goes on after every request but one: the fault of a page that has all the pins it can have.
-/

namespace PagedStorage

/-! ### Pins taken and given up -/

namespace Pool

variable {size pageSize : Nat} {s : Pool size pageSize} {f : Fin size} {page : PageId}
  {written writtenAfter : PageId → Prop}

theorem carries_pinned (h : s.Sound) (held : (s.frame f).page = some page) :
    s.Carries (s.pinned f) := by
  apply carries_reframed h held
  rfl

theorem carries_unpinned (h : s.Sound) (held : (s.frame f).page = some page) :
    s.Carries (s.unpinned f) := by
  apply carries_reframed h held
  rfl

theorem page_pinned (s : Pool size pageSize) (f g : Fin size) :
    ((s.pinned f).frame g).page = (s.frame g).page := by
  rw [pinned, frame_reframed]
  split
  · next same => rw [same]
  · rfl

theorem page_unpinned (s : Pool size pageSize) (f g : Fin size) :
    ((s.unpinned f).frame g).page = (s.frame g).page := by
  rw [unpinned, frame_reframed]
  split
  · next same => rw [same]
  · rfl

/-- Whoever takes a pin may be one that writes. -/
theorem Proper.pinned (h : s.Proper written) (held : (s.frame f).page = some page)
    (room : (s.frame f).pins + 1 < Frame.pinLimit) (wider : ∀ q, written q → writtenAfter q)
    (only : ∀ q, writtenAfter q → written q ∨ q = page) : (s.pinned f).Proper writtenAfter := by
  have coherent : (s.pinned f).Coherent written := by
    apply h.coherent.kept held
    · exact held
    · rfl
    · rfl
  constructor
  case sound => exact h.sound.pinned held room
  case counted => exact h.counted
  case reliable => exact h.reliable
  case coherent =>
    intro g q named clean apart
    exact coherent g q named clean fun busy => apart (wider q busy)
  case anchored =>
    intro q busy
    rcases only q busy with before | rfl
    · obtain ⟨g, there, pins⟩ := h.anchored q before
      refine ⟨g, (page_pinned s f g).trans there, ?_⟩
      rw [Pool.pinned, frame_reframed]
      split
      · exact Nat.succ_pos _
      · exact pins
    · refine ⟨f, (page_pinned s f f).trans held, ?_⟩
      rw [Pool.pinned, frame_reframed_self]
      exact Nat.succ_pos _

/-- A page that is no longer being written is left dirty. -/
theorem Proper.unpinned (h : s.Proper written) (held : (s.frame f).page = some page)
    (fewer : ∀ q, writtenAfter q → written q)
    (dirty : ∀ q, written q → writtenAfter q ∨ q = page ∧ (s.frame f).dirty = true)
    (still : writtenAfter page → 1 < (s.frame f).pins) : (s.unpinned f).Proper writtenAfter := by
  have coherent : (s.unpinned f).Coherent written := by
    apply h.coherent.kept held
    · exact held
    · rfl
    · rfl
  constructor
  case sound => exact h.sound.unpinned held
  case counted => exact h.counted
  case reliable => exact h.reliable
  case coherent =>
    intro g q named clean apart
    apply coherent g q named clean
    intro before
    rcases dirty q before with after | ⟨rfl, newer⟩
    · exact apart after
    · -- The page was being written until now, so its frame is not clean.
      have same : f = g := h.sound.frame_eq held ((page_unpinned s f g).symm.trans named)
      subst same
      rw [Pool.unpinned, frame_reframed_self] at clean
      exact Bool.noConfusion (newer.symm.trans clean)
  case anchored =>
    intro q busy
    obtain ⟨g, there, pins⟩ := h.anchored q (fewer q busy)
    refine ⟨g, (page_unpinned s f g).trans there, ?_⟩
    rw [Pool.unpinned, frame_reframed]
    split
    · next same =>
      subst same
      rw [held] at there
      cases there
      exact Nat.sub_pos_of_lt (still busy)
    · exact pins

theorem release_eq (s : Pool size pageSize) (pins : 0 < (s.frame f).pins) (wrote : Bool) :
    release f wrote s =
      .ok () ((if wrote then s.filled f (s.frame f).bytes true else s).unpinned f) := by
  cases wrote with
  | false => simp [release, unpin_eq pins]
  | true =>
    have marked : editFrame f Frame.markDirty s = .ok () (s.filled f (s.frame f).bytes true) := rfl
    have kept : 0 < ((s.filled f (s.frame f).bytes true).frame f).pins := by
      rw [filled, frame_reframed_self]
      exact pins
    simp [release, marked, unpin_eq kept]

end Pool

/-! ### Runs -/

/-- The request names no page without a successor. -/
def PoolRequest.Numbered : PoolRequest → Prop
  | .fetch page .. | .read page | .write page _ | .create page | .invalidate page | .flush page
  | .info page => page.index + 1 < 0x100000000
  | _ => True

namespace GuardedPool

variable {size pageSize : Nat} {s t : GuardedPool size pageSize} {request : PoolRequest}
  {outcome : Outcome PoolReply}

/-- A request and how it ends. A flush of all pages may take them in any order in which it comes to none
that the thread is writing. -/
inductive Steps (s : GuardedPool size pageSize) :
    PoolRequest → Outcome PoolReply → GuardedPool size pageSize → Prop
  | made (request : PoolRequest) : Steps s request (s.step request).1 (s.step request).2
  | flushed {order : List (PageId × Fin size)} (unmet : s.meetsWriter order = false)
      (listed : order.Perm s.pool.dirtyFrames) :
      Steps s .flushAll (s.perform (Pool.flushFrames order) .count).1
        (s.perform (Pool.flushFrames order) .count).2

/-- What can become of a pool over a file that was made or opened. -/
inductive Reached : GuardedPool size pageSize → Prop
  | created {maxFileSize : Nat} {pool : Pool size pageSize}
      (made : Pool.ofDisk (Disk.ofNew maxFileSize) = .ok pool) : Reached ⟨pool, []⟩
  | opened {maxFileSize : Nat} {file : File} {disk : Disk pageSize} {pool : Pool size pageSize}
      (opened : Disk.ofFile maxFileSize file = .ok disk) (made : Pool.ofDisk disk = .ok pool) :
      Reached ⟨pool, []⟩
  | step {s t : GuardedPool size pageSize} {request : PoolRequest} {outcome : Outcome PoolReply}
      (reached : Reached s) (numbered : request.Numbered) (steps : s.Steps request outcome t)
      (unbroken : ∀ why, outcome ≠ .failed (.fault why)) : Reached t

/-- Each guard is a pin on the frame of its page, and there are no other pins. -/
structure Matched (s : GuardedPool size pageSize) : Prop where
  names : (s.guards.map Prod.fst).Nodup
  frames : ∀ entry ∈ s.guards, (s.pool.frame entry.2.frame).page = some entry.2.page
  pins : ∀ f, (s.pool.frame f).pins = s.guards.countP fun entry => entry.2.frame = f

/-- Pins and guards are the same. -/
structure Sound (s : GuardedPool size pageSize) : Prop where
  proper : s.pool.Proper fun page => s.isWritten page = true
  names : (s.guards.map Prod.fst).Nodup
  frames : ∀ entry ∈ s.guards, (s.pool.frame entry.2.frame).page = some entry.2.page
  pins : ∀ f, (s.pool.frame f).pins = s.guards.countP fun entry => entry.2.frame = f

/-! ### What a request shows -/

/-- A page that is shown has the bytes that the request finds, which are those that could be seen of it
if it was there. -/
structure Sees (s t : Pool size pageSize) (page : PageId) (seen : Page) : Prop where
  keeps : s.Keeps t
  id : seen.id = page
  bytes : ∃ block, s.Finds page block ∧ t.view page = some block ∧ seen.bytes = block.toArray

/-- What a request tells and does by its outcome, seen through the map of pages. Whatever is not
named here changes nothing. -/
def Shows (s t : GuardedPool size pageSize) : PoolRequest → Outcome PoolReply → Prop
  | .fetch page _ _, .done (.pinned seen _) => Sees s.pool t.pool page seen
  | .read page, .done (.page seen) => Sees s.pool t.pool page seen
  | .peek name, .done (.page seen) =>
    ∃ g block, s.guards.lookup name = some g ∧ seen.id = g.page ∧
      s.pool.view g.page = some block ∧ seen.bytes = block.toArray ∧ s.pool.Keeps t.pool
  | .poke name start bytes, .done _ =>
    ∃ g block, s.guards.lookup name = some g ∧ g.access = .exclusive ∧
      s.pool.view g.page = some block ∧ t.pool.view g.page = some (block.overlay start bytes) ∧
      Pool.KeepsBut (· = g.page) s.pool t.pool
  | .write page bytes, .done _ =>
    (∃ block, block.toArray = bytes ∧ t.pool.view page = some block) ∧
      Pool.KeepsBut (· = page) s.pool t.pool
  | .create page, .done _ =>
    t.pool.view page = some .zero ∧ Pool.KeepsBut (· = page) s.pool t.pool
  | .invalidate page, .done (.flag true) =>
    t.pool.view page =
        (if page.index < s.pool.disk.blockCount then some (s.pool.disk.blockAt page) else none) ∧
      Pool.KeepsBut (· = page) s.pool t.pool
  | _, _ => s.pool.Keeps t.pool

/-- After all but the fault of a pin too many, pins and guards are the same again. -/
def Ends (s t : GuardedPool size pageSize) (outcome : Outcome PoolReply) : Prop :=
  match outcome with
  | .failed (.fault why) => Pool.Overflows why s.pool t.pool
  | _ => t.Sound

/-- A run does not go on after a fault, so pins and guards are the same again. -/
theorem Ends.sound (ends : Ends s t outcome) (unbroken : ∀ why, outcome ≠ .failed (.fault why)) :
    t.Sound := by
  cases outcome with
  | failed why =>
    cases why with
    | error => exact ends
    | fault why => exact absurd rfl (unbroken why)
  | done | wouldBlock | refused => exact ends

/-! ### Requests to the pool itself -/

theorem perform_cases {α : Type} {act : Action (Pool size pageSize) α} {reply : α → PoolReply}
    {P : Outcome PoolReply → GuardedPool size pageSize → Prop}
    (done : ∀ a pool, act s.pool = .ok a pool → P (.done (reply a)) { s with pool })
    (failed : ∀ why pool, act s.pool = .error why pool → P (.failed why) { s with pool }) :
    P (s.perform act reply).1 (s.perform act reply).2 := by
  unfold perform Outcome.ofAction
  cases ran : act s.pool with
  | ok a pool => exact done a pool ran
  | error why pool => exact failed why pool ran

/-- A page with a guard is pinned. -/
theorem Matched.pinned (h : s.Matched) {entry : String × Guard size} (held : entry ∈ s.guards) :
    0 < (s.pool.frame entry.2.frame).pins := by
  rw [h.pins, List.countP_pos_iff]
  exact ⟨entry, held, by simp⟩

/-- What spares the pins spares the guards. -/
theorem Matched.spared (h : s.Matched) {pool : Pool size pageSize} (spares : s.pool.Spares pool) :
    Matched { s with pool } := by
  constructor
  case names => exact h.names
  case frames =>
    intro entry held
    exact (spares.page _ (h.pinned held)).trans (h.frames entry held)
  case pins =>
    intro f
    exact (spares.pins f).trans (h.pins f)

namespace Sound

theorem matched (h : s.Sound) : s.Matched := ⟨h.names, h.frames, h.pins⟩

theorem performed (h : s.Sound) {pool : Pool size pageSize}
    (proper : pool.Proper fun page => s.isWritten page = true) (spares : s.pool.Spares pool) :
    Sound { s with pool } := by
  have matched := h.matched.spared spares
  exact ⟨proper, matched.names, matched.frames, matched.pins⟩

theorem led (h : s.Sound) {pool : Pool size pageSize} {after : PageId → Block pageSize}
    (leads : Pool.Leads (fun page => s.isWritten page = true) s.pool pool after) :
    Sound { s with pool } := h.performed leads.proper leads.spares

theorem failed (h : s.Sound) {why : Failure} {pool : Pool size pageSize}
    (fails : Pool.Fails (fun page => s.isWritten page = true) s.pool why pool) :
    Ends s { s with pool } (.failed why) := by
  cases why with
  | error => exact h.led fails
  | fault => exact fails

end Sound

/-- The request is answered as it should be, and the run can go on. -/
abbrev Serves (s : GuardedPool size pageSize) (request : PoolRequest)
    (outcome : Outcome PoolReply) (t : GuardedPool size pageSize) : Prop :=
  Ends s t outcome ∧ s.Shows t request outcome

section Requests

variable {page : PageId}

theorem Sound.read (h : s.Sound) (addressable : page.Addressable pageSize) :
    s.Serves (.read page) (s.serve (.read page)).1 (s.serve (.read page)).2 := by
  have spec := Pool.read_spec h.proper addressable
  refine perform_cases (P := s.Serves (.read page)) ?done ?failed
  case done =>
    intro block pool ran
    rw [ran] at spec
    obtain ⟨leads, seen, there⟩ := spec
    exact ⟨h.led leads, leads.turns.keeps, rfl, block, .of_carries leads.turns seen there, seen, rfl⟩
  case failed =>
    intro why pool ran
    rw [ran] at spec
    exact ⟨h.failed spec, Pool.Fails.keeps spec⟩

theorem Sound.write (h : s.Sound) (addressable : page.Addressable pageSize)
    (bytes : Array UInt8) :
    s.Serves (.write page bytes) (s.serve (.write page bytes)).1
      (s.serve (.write page bytes)).2 := by
  have spec := Pool.write_spec h.proper addressable bytes
  refine perform_cases (P := s.Serves (.write page bytes)) ?done ?failed
  case done =>
    intro _ pool ran
    rw [ran] at spec
    obtain ⟨block, same, leads, seen⟩ := spec
    exact ⟨h.led leads, ⟨block, same, seen⟩, leads.turns.keepsBut_update⟩
  case failed =>
    intro why pool ran
    rw [ran] at spec
    exact ⟨h.failed spec, Pool.Fails.keeps spec⟩

theorem Sound.create (h : s.Sound) (addressable : page.Addressable pageSize) :
    s.Serves (.create page) (s.serve (.create page)).1 (s.serve (.create page)).2 := by
  have spec := Pool.create_spec h.proper addressable
  refine perform_cases (P := s.Serves (.create page)) ?done ?failed
  case done =>
    intro _ pool ran
    rw [ran] at spec
    exact ⟨h.led spec.1, spec.2, spec.1.turns.keepsBut_update⟩
  case failed =>
    intro why pool ran
    rw [ran] at spec
    exact ⟨h.failed spec, Pool.Fails.keeps spec⟩

theorem Sound.invalidate (h : s.Sound) (page : PageId) :
    s.Serves (.invalidate page) (s.serve (.invalidate page)).1
      (s.serve (.invalidate page)).2 := by
  have spec := Pool.invalidate_spec h.proper page
  refine perform_cases (P := s.Serves (.invalidate page)) ?done ?failed
  case done =>
    intro dropped pool ran
    rw [ran] at spec
    cases dropped with
    | true => exact ⟨h.performed spec.proper spec.spares, spec.view_eq, spec.keepsBut⟩
    | false =>
      obtain ⟨rfl, -⟩ := spec
      exact ⟨h, (Pool.Turns.refl _).keeps⟩
  case failed =>
    intro why pool ran
    rw [ran] at spec
    exact ⟨h.failed spec, Pool.Fails.keeps spec⟩

theorem Sound.flush (h : s.Sound) (page : PageId) :
    s.Serves (.flush page) (s.serve (.flush page)).1 (s.serve (.flush page)).2 := by
  have spec := Pool.flush_spec h.proper page
  refine perform_cases (P := s.Serves (.flush page)) ?done ?failed
  case done =>
    intro wrote pool ran
    rw [ran] at spec
    exact ⟨h.led spec, spec.turns.keeps⟩
  case failed =>
    intro why pool ran
    rw [ran] at spec
    exact ⟨h.failed spec, Pool.Fails.keeps spec⟩

theorem Sound.flushFrames (h : s.Sound) {order : List (PageId × Fin size)}
    (listed : order.Perm s.pool.dirtyFrames) :
    s.Serves .flushAll (s.perform (Pool.flushFrames order) .count).1
      (s.perform (Pool.flushFrames order) .count).2 := by
  have spec := Pool.flushFrames_spec h.proper listed
  refine perform_cases (P := s.Serves .flushAll) ?done ?failed
  case done =>
    intro wrote pool ran
    rw [ran] at spec
    exact ⟨h.led spec.1, spec.1.turns.keeps⟩
  case failed =>
    intro why pool ran
    rw [ran] at spec
    exact ⟨h.failed spec, Pool.Fails.keeps spec⟩

end Requests

/-! ### Guards taken and given up -/

section Guards

variable {page : PageId} {access : Access} {name : String} {g : Guard size}

theorem isWritten_cons (pool : Pool size pageSize) (entry : String × Guard size)
    (guards : List (String × Guard size)) (q : PageId) :
    (⟨pool, entry :: guards⟩ : GuardedPool size pageSize).isWritten q = true ↔
      entry.2.page = q ∧ entry.2.access = .exclusive ∨
        (⟨pool, guards⟩ : GuardedPool size pageSize).isWritten q = true := by
  simp [isWritten]

/-- A pin that is taken for a guard under a new name. -/
theorem Matched.taken (h : s.Matched) {f : Fin size} (held : (s.pool.frame f).page = some page)
    (fresh : ¬ (s.guards.lookup name).isSome = true) (access : Access) :
    Matched ⟨s.pool.pinned f, (name, ⟨page, f, access⟩) :: s.guards⟩ := by
  constructor
  case names =>
    apply List.nodup_cons.mpr
    refine ⟨fun taken => fresh ?_, h.names⟩
    obtain ⟨entry, mem, same⟩ := List.mem_map.mp taken
    exact List.lookup_isSome_iff.mpr ⟨entry, mem, by simp [same]⟩
  case frames =>
    intro entry mem
    rw [Pool.page_pinned]
    rcases List.mem_cons.mp mem with rfl | older
    · exact held
    · exact h.frames entry older
  case pins =>
    intro i
    rw [Pool.pinned, Pool.frame_reframed, List.countP_cons]
    by_cases same : f = i
    · subst same
      simp [h.pins]
    · simp [same, h.pins]

theorem Sound.taken (h : s.Sound) {f : Fin size} (held : (s.pool.frame f).page = some page)
    (room : (s.pool.frame f).pins + 1 < Frame.pinLimit)
    (fresh : ¬ (s.guards.lookup name).isSome = true) :
    Sound ⟨s.pool.pinned f, (name, ⟨page, f, access⟩) :: s.guards⟩ := by
  have matched := h.matched.taken held fresh access
  refine ⟨?_, matched.names, matched.frames, matched.pins⟩
  apply h.proper.pinned held room
  · intro q busy
    exact (isWritten_cons ..).mpr (.inr busy)
  · intro q busy
    rcases (isWritten_cons ..).mp busy with ⟨same, -⟩ | before
    · exact .inr same.symm
    · exact .inl before

theorem Sound.fetch (h : s.Sound) (addressable : page.Addressable pageSize) (access : Access)
    (name : String) :
    s.Serves (.fetch page access name) (s.serve (.fetch page access name)).1
      (s.serve (.fetch page access name)).2 := by
  have spec := Pool.fetch_spec h.proper addressable
  show s.Serves _ (s.fetch page access name).1 (s.fetch page access name).2
  unfold GuardedPool.fetch
  by_cases used : (s.guards.lookup name).isSome = true
  · rw [if_pos used]
    exact ⟨h, (Pool.Turns.refl _).keeps⟩
  · rw [if_neg used]
    cases ran : Pool.fetch page s.pool with
    | error why pool =>
      rw [ran] at spec
      exact ⟨h.failed spec, Pool.Fails.keeps spec⟩
    | ok f pool =>
      rw [ran] at spec
      obtain ⟨u, rfl, leads, held, room, there⟩ := spec
      have taken : Sound ⟨u.pinned f, (name, ⟨page, f, access⟩) :: s.guards⟩ :=
        (h.led leads).taken held room used
      have kept := Pool.carries_pinned leads.proper.sound held
      have seen := Pool.view_of_frame taken.proper.sound ((Pool.page_pinned u f f).trans held)
      have carries := leads.turns.carry kept
      exact ⟨taken, carries.keeps, rfl, _, .of_carries carries seen there, seen, rfl⟩

/-- The guard of a name is one of those held, and the others are those of other names. -/
theorem perm_of_lookup {guards : List (String × Guard size)} (names : (guards.map Prod.fst).Nodup)
    (found : guards.lookup name = some g) :
    guards.Perm ((name, g) :: guards.filter fun entry => entry.1 ≠ name) := by
  -- The entry that is found is the only one of its name, so taking out the name takes out the entry.
  obtain ⟨earlier, later, rfl, apart⟩ := List.lookup_eq_some_iff.mp found
  have first : ∀ entry ∈ earlier, entry.1 ≠ name := by
    intro entry mem same
    simpa [same] using apart entry mem
  have last : ∀ entry ∈ later, entry.1 ≠ name := by
    rintro entry mem rfl
    rw [List.map_append, List.nodup_append] at names
    exact (List.nodup_cons.mp names.2.1).1 (List.mem_map.mpr ⟨entry, mem, rfl⟩)
  have others : (earlier ++ (name, g) :: later).filter (fun entry => entry.1 ≠ name) =
      earlier ++ later := by
    rw [List.filter_append, List.filter_cons_of_neg (by simp),
      List.filter_eq_self.mpr fun entry mem => by simpa using first entry mem,
      List.filter_eq_self.mpr fun entry mem => by simpa using last entry mem]
  rw [others]
  exact List.perm_middle

/-- The pool after a guard was given up. Whoever could write leaves the page dirty. -/
def poolAfter (s : GuardedPool size pageSize) (g : Guard size) : Pool size pageSize :=
  (if g.access == .exclusive then s.pool.filled g.frame (s.pool.frame g.frame).bytes true
    else s.pool).unpinned g.frame

theorem frame_poolAfter (s : GuardedPool size pageSize) (g : Guard size) (f : Fin size) :
    ((s.poolAfter g).frame f).page = (s.pool.frame f).page ∧
      ((s.poolAfter g).frame f).bytes = (s.pool.frame f).bytes ∧
      ((s.poolAfter g).frame f).pins =
        if g.frame = f then (s.pool.frame f).pins - 1 else (s.pool.frame f).pins := by
  unfold poolAfter
  by_cases same : g.frame = f
  · subst same
    split <;> simp [Pool.unpinned, Pool.filled, Pool.frame_reframed]
  · split <;> simp [Pool.unpinned, Pool.filled, Pool.frame_reframed, same]

/-- The pins of a frame are those of the other guards, and the one that is given up. -/
theorem Matched.released (h : s.Matched) {others : List (String × Guard size)}
    (listed : s.guards.Perm ((name, g) :: others)) : Matched ⟨s.poolAfter g, others⟩ := by
  constructor
  case names =>
    have names := h.names
    rw [(listed.map Prod.fst).nodup_iff] at names
    exact (List.nodup_cons.mp names).2
  case frames =>
    intro entry other
    rw [(s.frame_poolAfter g _).1]
    exact h.frames entry (listed.mem_iff.mpr (List.mem_cons_of_mem _ other))
  case pins =>
    intro f
    have count := h.pins f
    rw [listed.countP_eq, List.countP_cons] at count
    rw [(s.frame_poolAfter g f).2.2, count]
    by_cases same : g.frame = f <;> simp [same]

/-- A guard that could write marks the frame before it gives up the pin. -/
theorem Sound.poolAfter_eq (h : s.Sound) (held : (s.pool.frame g.frame).page = some g.page) :
    ∃ u, s.poolAfter g = u.unpinned g.frame ∧
      Pool.Leads (fun page => s.isWritten page = true) s.pool u s.pool.bytesOf ∧
      (u.frame g.frame).page = some g.page ∧
      (g.access = .exclusive → (u.frame g.frame).dirty = true) := by
  cases kind : g.access with
  | shared =>
    refine ⟨s.pool, ?_, h.proper.leads_refl, held, nofun⟩
    simp [GuardedPool.poolAfter, kind]
  | exclusive =>
    refine ⟨_, ?_, h.proper.leads_marked held, ?_, ?_⟩
    · simp [GuardedPool.poolAfter, kind]
    · rw [Pool.filled, Pool.frame_reframed_self]
      exact held
    · intro _
      rw [Pool.filled, Pool.frame_reframed_self]

theorem Sound.poolAfter (h : s.Sound) {others : List (String × Guard size)}
    (listed : s.guards.Perm ((name, g) :: others)) :
    Sound ⟨s.poolAfter g, others⟩ ∧ s.pool.Carries (s.poolAfter g) := by
  have mem : (name, g) ∈ s.guards := listed.mem_iff.mpr List.mem_cons_self
  have held : (s.pool.frame g.frame).page = some g.page := h.frames _ mem
  have busy_iff : ∀ q, s.isWritten q = true ↔ g.page = q ∧ g.access = .exclusive ∨
      (⟨s.poolAfter g, others⟩ : GuardedPool size pageSize).isWritten q = true := by
    intro q
    rw [← isWritten_cons _ (name, g) others q]
    simp only [isWritten, listed.any_eq]
  have matched := h.matched.released listed
  obtain ⟨u, marked, leads, there, dirty⟩ := h.poolAfter_eq held
  rw [marked] at matched ⊢
  refine ⟨⟨?_, matched.names, matched.frames, matched.pins⟩,
    leads.turns.carry (Pool.carries_unpinned leads.proper.sound there)⟩
  apply leads.proper.unpinned there
  · intro q busy
    exact (busy_iff q).mpr (.inr busy)
  · intro q busy
    rcases (busy_iff q).mp busy with ⟨same, writes⟩ | still
    · exact .inr ⟨same.symm, dirty writes⟩
    · exact .inl still
  · intro busy
    -- Another guard on the page writes, so it has another pin.
    obtain ⟨entry, other, writes⟩ := List.any_eq_true.mp busy
    have writes : entry.2.page = g.page ∧ entry.2.access = .exclusive := by simpa using writes
    have also := matched.frames entry other
    rw [Pool.page_unpinned, writes.1] at also
    have same := leads.proper.sound.frame_eq also there
    have more := matched.pinned other
    rw [same, Pool.unpinned, Pool.frame_reframed_self] at more
    exact Nat.lt_of_sub_pos more

theorem release_of_lookup (found : s.guards.lookup name = some g)
    (pins : 0 < (s.pool.frame g.frame).pins) :
    s.release name = (.done .done, ⟨s.poolAfter g, s.guards.filter fun entry => entry.1 ≠ name⟩) := by
  simp only [GuardedPool.release, found, perform, Outcome.ofAction, Pool.release_eq s.pool pins,
    Outcome.map]
  rfl

theorem Sound.release (h : s.Sound) (name : String) :
    s.Serves (.release name) (s.serve (.release name)).1 (s.serve (.release name)).2 := by
  show s.Serves _ (s.release name).1 (s.release name).2
  cases found : s.guards.lookup name with
  | none =>
    simp only [GuardedPool.release, found]
    exact ⟨h, (Pool.Turns.refl _).keeps⟩
  | some g =>
    have listed := perm_of_lookup h.names found
    rw [release_of_lookup found (h.matched.pinned (listed.mem_iff.mpr List.mem_cons_self))]
    obtain ⟨sound, carries⟩ := h.poolAfter listed
    exact ⟨sound, carries.keeps⟩

theorem Sound.peek (h : s.Sound) (name : String) :
    s.Serves (.peek name) (s.serve (.peek name)).1 (s.serve (.peek name)).2 := by
  cases found : s.guards.lookup name with
  | none =>
    simp only [serve, found]
    exact ⟨h, (Pool.Turns.refl _).keeps⟩
  | some g =>
    have mem := (perm_of_lookup h.names found).mem_iff.mpr List.mem_cons_self
    simp only [serve, found]
    exact ⟨h, g, _, found, rfl, Pool.view_of_frame h.proper.sound (h.frames _ mem), rfl,
      (Pool.Turns.refl _).keeps⟩

theorem Sound.poke (h : s.Sound) (name : String) (start : Nat) (bytes : Array UInt8) :
    s.Serves (.poke name start bytes) (s.serve (.poke name start bytes)).1
      (s.serve (.poke name start bytes)).2 := by
  show s.Serves _ (s.poke name start bytes).1 (s.poke name start bytes).2
  unfold GuardedPool.poke
  split
  · next q f found =>
    split
    · next fits =>
      have mem := (perm_of_lookup h.names found).mem_iff.mpr List.mem_cons_self
      have held : (s.pool.frame f).page = some q := h.frames _ mem
      have busy : s.isWritten q = true := List.any_eq_true.mpr ⟨_, mem, by simp⟩
      -- The frame stays as clean as it was, but the pool does not trust it while it is written.
      have leads := h.proper.leads_filled held ((s.pool.frame f).bytes.overlay start bytes)
        (s.pool.frame f).dirty (.inr busy)
      have kept : ((s.pool.filled f ((s.pool.frame f).bytes.overlay start bytes)
          (s.pool.frame f).dirty).frame f).page = some q := by
        rw [Pool.filled, Pool.frame_reframed_self]
        exact held
      exact ⟨h.led leads, ⟨q, f, .exclusive⟩, (s.pool.frame f).bytes, found, rfl,
        Pool.view_of_frame h.proper.sound held, leads.view_update kept,
        leads.turns.keepsBut_update⟩
    · exact ⟨h, (Pool.Turns.refl _).keeps⟩
  · exact ⟨h, (Pool.Turns.refl _).keeps⟩

end Guards

/-! ### Every request -/

theorem Sound.sync (h : s.Sound) : s.Serves .sync (s.serve .sync).1 (s.serve .sync).2 := by
  have kept := (Pool.Turns.refl s.pool).keeps
  refine perform_cases (P := s.Serves .sync) ?done ?failed
  case done =>
    intro _ pool ran
    rw [Pool.sync_of_reliable h.proper.reliable] at ran
    split at ran <;> cases ran
    exact ⟨h, kept⟩
  case failed =>
    intro why pool ran
    rw [Pool.sync_of_reliable h.proper.reliable] at ran
    split at ran <;> cases ran
    exact ⟨h, kept⟩

theorem Sound.close (h : s.Sound) : s.Serves .close (s.serve .close).1 (s.serve .close).2 := by
  obtain ⟨proper, spares, keeps⟩ := h.proper.shut
  refine perform_cases (P := s.Serves .close) ?done ?failed
  case done =>
    intro _ pool ran
    rw [Pool.close_of_reliable h.proper.reliable] at ran
    split at ran <;> cases ran
    exact ⟨h.performed proper spares, keeps⟩
  case failed =>
    intro why pool ran
    rw [Pool.close_of_reliable h.proper.reliable] at ran
    split at ran <;> cases ran
    exact ⟨h, (Pool.Turns.refl _).keeps⟩

/-- A flush of all pages takes them in the order of the table, which is one of its orders. -/
theorem serve_flushAll (s : GuardedPool size pageSize) :
    s.serve .flushAll = s.perform (Pool.flushFrames s.pool.dirtyFrames) .count := by
  have any : Pool.flushAll s.pool = Pool.flushFrames s.pool.dirtyFrames s.pool := by
    simp [Pool.flushAll]
  simp only [GuardedPool.serve, perform, Outcome.ofAction, any]

theorem Sound.serve (h : s.Sound) (small : pageSize < 0x100000000) (numbered : request.Numbered) :
    s.Serves request (s.serve request).1 (s.serve request).2 := by
  have kept := (Pool.Turns.refl s.pool).keeps
  cases request with
  | fetch page access name => exact h.fetch (.of_small numbered small) access name
  | release name => exact h.release name
  | peek name => exact h.peek name
  | poke name start bytes => exact h.poke name start bytes
  | read page => exact h.read (.of_small numbered small)
  | write page bytes => exact h.write (.of_small numbered small) bytes
  | create page => exact h.create (.of_small numbered small)
  | invalidate page => exact h.invalidate page
  | flush page => exact h.flush page
  | flushAll =>
    rw [serve_flushAll]
    exact h.flushFrames (List.Perm.refl _)
  | sync => exact h.sync
  | close => exact h.close
  | info page => exact ⟨h, kept⟩
  | counters => exact ⟨h, kept⟩
  | sizes => exact ⟨h, kept⟩

/-- One step: a request is answered as it should be, and pins and guards stay the same. -/
theorem Sound.steps (h : s.Sound) (small : pageSize < 0x100000000) (numbered : request.Numbered)
    (steps : s.Steps request outcome t) : s.Serves request outcome t := by
  cases steps with
  | made =>
    unfold step
    split
    · -- A request that would wait for its own guards is not begun.
      have kept := (Pool.Turns.refl s.pool).keeps
      refine ⟨h, ?_⟩
      cases request <;> exact kept
    · exact h.serve small numbered
  | flushed unmet listed => exact h.flushFrames listed

theorem sound_ofPool {pool : Pool size pageSize} (proper : pool.Proper fun _ => False)
    (empty : ∀ f, pool.frame f = .empty) : Sound ⟨pool, []⟩ := by
  constructor
  case proper =>
    have none : (fun page => isWritten ⟨pool, []⟩ page = true) = fun _ => False := by
      funext page
      simp [isWritten]
    rw [none]
    exact proper
  case names => exact List.nodup_nil
  case frames => exact List.forall_mem_nil _
  case pins =>
    intro f
    rw [empty]
    rfl

/-- A run: pins and guards are always the same. -/
theorem Reached.sound (small : pageSize < 0x100000000) (reached : Reached s) : s.Sound := by
  -- A run begins without guards, and `Sound.steps` is what one request keeps.
  induction reached with
  | created made =>
    exact sound_ofPool
      (Pool.proper_ofDisk (Disk.counted_ofNew _) (Disk.reliable_ofNew _) made) (Pool.frame_ofDisk made)
  | opened opened made =>
    exact sound_ofPool
      (Pool.proper_ofDisk (Disk.counted_of_ofFile opened) (Disk.reliable_of_ofFile opened) made)
      (Pool.frame_ofDisk made)
  | @step s t request outcome _ numbered steps unbroken ih =>
    exact (ih.steps small numbered steps).1.sound unbroken

/-- Whatever has been asked of a pool with guards, the next request sees and changes a plain map of
pages, and the one fault it can meet is that of a page with all the pins it can have. A page that is
not there is shown only if room had to be made for it and the page that left lies behind it. -/
theorem Reached.steps_shows (small : pageSize < 0x100000000) (reached : Reached s)
    (numbered : request.Numbered) (steps : s.Steps request outcome t) :
    s.Shows t request outcome ∧
      ∀ why, outcome = .failed (.fault why) → ∃ f, (s.pool.frame f).pins + 1 = Frame.pinLimit := by
  obtain ⟨ends, shows⟩ := (reached.sound small).steps small numbered steps
  refine ⟨shows, ?_⟩
  rintro why rfl
  exact ends.full

/-- A pool with one frame, over a new file that may grow to four pages of two bytes. -/
def oneFrame : GuardedPool 1 2 :=
  ⟨⟨Vector.replicate 1 .empty, ∅, List.finRange 1, .empty, .ofNew 8, {}⟩, []⟩

/-- A page is made, fetched for writing, and poked. -/
theorem steps_shows_poke :
    let page : PageId := ⟨1, by decide⟩
    let s := ((oneFrame.step (.create page)).2.step (.fetch page .exclusive "w")).2
    let request := PoolRequest.poke "w" 1 #[9]
    (s.step request).1 = .done .done ∧
      s.Shows (s.step request).2 request (s.step request).1 ∧
      ∀ why, (s.step request).1 = .failed (.fault why) →
        ∃ f, (s.pool.frame f).pins + 1 = Frame.pinLimit := by
  intro page s request
  have next : page.index + 1 < 0x100000000 := by decide
  have start : Reached oneFrame := .created (show Pool.ofDisk (Disk.ofNew 8) = .ok _ from rfl)
  have made : Reached (oneFrame.step (.create page)).2 :=
    .step start (show (PoolRequest.create page).Numbered from next) (.made _) nofun
  have fetched : Reached s :=
    .step made (show (PoolRequest.fetch page .exclusive "w").Numbered from next) (.made _) nofun
  exact ⟨rfl, fetched.steps_shows (by decide) trivial (.made request)⟩

/-- A page that is in no frame and behind the end of the file is shown all the same: the one frame is
needed, and writing back what is in it lengthens the file. -/
theorem shows_absent_page :
    let absent : PageId := ⟨0, by decide⟩
    let s := (oneFrame.step (.create ⟨1, by decide⟩)).2
    Reached s ∧ s.pool.view absent = none ∧
      (s.step (.read absent)).1 = .done (.page ⟨absent, #[0, 0]⟩) := by
  intro absent s
  have next : (⟨1, by decide⟩ : PageId).index + 1 < 0x100000000 := by decide
  have start : Reached oneFrame := .created (show Pool.ofDisk (Disk.ofNew 8) = .ok _ from rfl)
  have made : Reached s :=
    .step start (show (PoolRequest.create ⟨1, by decide⟩).Numbered from next) (.made _) nofun
  exact ⟨made, by decide +kernel, by decide +kernel⟩

end GuardedPool

end PagedStorage
