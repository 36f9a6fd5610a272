import PagedStorage.Proofs.PoolRecency
import PagedStorage.Proofs.Representation

/-!
# The order of evictions

A pool evicts the page that was used longest ago, and what that means is told without the pool here:
by a log of the accesses that its requests have made since it was new (`Logged`). A fetch, a read or a
write of a page is an access if it succeeds, and so is the making of one. A page that was to be evicted
and could not be saved counts as accessed too. Whatever is done with guards, and every flush, is none.

A page is evicted only for one that is not resident, and only if no frame is free. It is the page
whose last access is the earliest among the resident pages without a guard, and it is the only one
(`Logged.evicts_in_order`).
-/

namespace PagedStorage

open Pool (Paces Orders Idles)

/-! ### Accesses -/

/-- How many accesses there were up to the last one of a page, in a log that begins with the latest.
There were none if the page was never accessed. -/
def lastAccess (page : PageId) : List PageId → Nat
  | [] => 0
  | latest :: earlier => if latest = page then earlier.length + 1 else lastAccess page earlier

/-- The page that a request uses. A write needs the bytes of exactly one page. -/
def PoolRequest.target? (pageSize : Nat) : PoolRequest → Option PageId
  | .fetch page .. | .read page | .create page => some page
  | .write page bytes => if bytes.size = pageSize then some page else none
  | _ => none

namespace GuardedPool

variable {size pageSize : Nat} {s t : GuardedPool size pageSize} {request : PoolRequest}
  {outcome : Outcome PoolReply} {page : PageId} {log : List PageId}

/-- The page that a request has accessed: its own, or the victim that could not be saved. -/
def accessed? (s : GuardedPool size pageSize) (request : PoolRequest) :
    Outcome PoolReply → Option PageId
  | .done _ => request.target? pageSize
  | .failed (.error _) => (request.target? pageSize).bind s.pool.retained?
  | _ => none

/-- The page that has left to make room for the one that was asked for. -/
def evicted? (s : GuardedPool size pageSize) (request : PoolRequest) :
    Outcome PoolReply → Option PageId
  | .done _ | .failed (.error _) => (request.target? pageSize).bind s.pool.evicted?
  | _ => none

/-- The page that has left, be it to make room or because it was dropped. -/
def left? (s : GuardedPool size pageSize) (request : PoolRequest) (outcome : Outcome PoolReply) :
    Option PageId :=
  match request, outcome with
  | .invalidate page, .done (.flag true) => some page
  | _, _ => s.evicted? request outcome

/-- The pages that a pool has accessed since it was new, the latest first. Meanwhile anything may
happen to its file. -/
inductive Logged : GuardedPool size pageSize → List PageId → Prop
  | made {disk : Disk pageSize} {pool : Pool size pageSize} (made : Pool.ofDisk disk = .ok pool) :
      Logged ⟨pool, []⟩ []
  | step {s t : GuardedPool size pageSize} {request : PoolRequest} {outcome : Outcome PoolReply}
      {log : List PageId} (logged : Logged s log) (numbered : request.Numbered)
      (steps : s.Steps request outcome t) (unbroken : ∀ why, outcome ≠ .failed (.fault why)) :
      Logged t ((s.accessed? request outcome).toList ++ log)
  | meanwhile {s : GuardedPool size pageSize} {log : List PageId} (logged : Logged s log)
      (disk : Disk pageSize) : Logged (s.rebased disk) log

/-! ### Every request -/

/-- The order of use changes by the page that is accessed and the one that leaves. -/
def Ordered (s : GuardedPool size pageSize) (request : PoolRequest) (outcome : Outcome PoolReply)
    (t : GuardedPool size pageSize) : Prop :=
  match outcome with
  | .failed (.fault _) => t.pool.table = s.pool.table
  | .done _ =>
    s.pool.Paces t.pool (s.accessed? request outcome) (s.left? request outcome) ∧
      (request.target? pageSize).bind s.pool.retained? = none
  | _ => s.pool.Paces t.pool (s.accessed? request outcome) (s.left? request outcome)

theorem left?_of_target (target : request.target? pageSize = some page) :
    s.left? request outcome = s.evicted? request outcome := by
  cases request with
  | invalidate => cases target
  | _ => rfl

theorem target?_of_size_ne {bytes : Array UInt8} (wrong : bytes.size ≠ pageSize) :
    (PoolRequest.write page bytes).target? pageSize = none := if_neg wrong

/-- A request for a page does what its action does. -/
theorem perform_orders {α : Type} {act : Action (Pool size pageSize) α} {reply : α → PoolReply}
    (orders : Orders act page s.pool) (target : request.target? pageSize = some page) :
    s.Ordered request (s.perform act reply).1 (s.perform act reply).2 := by
  refine perform_cases (P := s.Ordered request) ?done ?failed
  case done =>
    intro a pool ran
    rw [Orders, ran] at orders
    simpa [Ordered, left?_of_target target, evicted?, accessed?, target] using orders
  case failed =>
    intro why pool ran
    rw [Orders, ran] at orders
    cases why with
    | error e => simpa [Ordered, left?_of_target target, evicted?, accessed?, target] using orders
    | fault why => exact orders

/-- A request that is not for a page leaves the order as it is. -/
theorem perform_idles {α : Type} {act : Action (Pool size pageSize) α} {reply : α → PoolReply}
    (idles : Idles act s.pool) (target : request.target? pageSize = none)
    (unmoved : ∀ outcome, s.left? request outcome = s.evicted? request outcome) :
    s.Ordered request (s.perform act reply).1 (s.perform act reply).2 := by
  refine perform_cases (P := s.Ordered request) ?done ?failed
  case done =>
    intro a pool ran
    rw [Idles, ran] at idles
    simpa [Ordered, unmoved, evicted?, accessed?, target] using idles
  case failed =>
    intro why pool ran
    rw [Idles, ran] at idles
    cases why with
    | error e => simpa [Ordered, unmoved, evicted?, accessed?, target] using idles
    | fault why => exact idles

namespace Latched

theorem fetch_ordered (h : s.Latched) (addressable : page.Addressable pageSize) (access : Access)
    (name : String) :
    s.Ordered (.fetch page access name) (s.fetch page access name).1
      (s.fetch page access name).2 := by
  have orders := Pool.fetch_orders h.sound addressable
  unfold GuardedPool.fetch
  by_cases used : (s.guards.lookup name).isSome = true
  · rw [if_pos used]
    exact Paces.refl s.pool
  · rw [if_neg used]
    cases ran : Pool.fetch page s.pool with
    | ok f pool =>
      rw [Orders, ran] at orders
      exact orders
    | error why pool =>
      rw [Orders, ran] at orders
      cases why <;> exact orders

theorem release_ordered (h : s.Latched) (name : String) :
    s.Ordered (.release name) (s.release name).1 (s.release name).2 := by
  cases found : s.guards.lookup name with
  | none =>
    simp only [GuardedPool.release, found]
    exact Paces.refl s.pool
  | some g =>
    rw [release_of_lookup found (h.matched.pinned (h.matched.mem_of_lookup found))]
    have paces : s.pool.Paces (s.poolAfter g) none none := by
      unfold GuardedPool.poolAfter
      split
      · exact (Paces.filled ..).of_rests (.unpinned ..)
      · exact .unpinned ..
    exact ⟨paces, rfl⟩

theorem write_ordered (h : s.Latched) (addressable : page.Addressable pageSize)
    (bytes : Array UInt8) :
    s.Ordered (.write page bytes) (s.serve (.write page bytes)).1
      (s.serve (.write page bytes)).2 := by
  cases exact_size : (Block.ofArray? bytes : Option (Block pageSize)) with
  | none =>
    have wrong := Block.ofArray?_eq_none_iff.mp exact_size
    refine perform_idles ?_ (target?_of_size_ne wrong) fun _ => rfl
    simp only [Idles, Pool.write, exact_size]
    exact Paces.refl s.pool
  | some block =>
    have right : bytes.size = pageSize := by
      rw [Block.ofArray?_eq_some_iff.mp exact_size, Vector.size_toArray]
    have target : (PoolRequest.write page bytes).target? pageSize = some page := if_pos right
    refine perform_orders ?_ target
    have orders := Pool.writeBlock_orders h.sound addressable block
    simpa only [Orders, Pool.write, exact_size] using orders

theorem invalidate_ordered (h : s.Latched) (page : PageId) :
    s.Ordered (.invalidate page) (s.serve (.invalidate page)).1
      (s.serve (.invalidate page)).2 := by
  have ran := Pool.invalidate_eq s.pool page
  cases resident : s.pool.table[page]? with
  | none =>
    rw [resident] at ran
    simp only [GuardedPool.serve, perform, Outcome.ofAction, ran]
    exact ⟨Paces.refl s.pool, rfl⟩
  | some f =>
    have held := (h.sound.table_iff page f).mp resident
    simp only [resident] at ran
    by_cases busy : (s.pool.frame f).isPinned = true
    · simp only [GuardedPool.serve, perform, Outcome.ofAction, ran, if_pos busy]
      exact Paces.refl s.pool
    · simp only [GuardedPool.serve, perform, Outcome.ofAction, ran, if_neg busy]
      exact ⟨(Paces.vacated h.sound held).tallied _, rfl⟩

theorem serve_ordered (h : s.Latched) (small : pageSize < 0x100000000)
    (numbered : request.Numbered) :
    s.Ordered request (s.serve request).1 (s.serve request).2 := by
  have same : s.pool.Paces s.pool none none := .refl s.pool
  cases request with
  | fetch page access name => exact h.fetch_ordered (.of_small numbered small) access name
  | release name => exact h.release_ordered name
  | peek name =>
    cases found : s.guards.lookup name <;> simp only [GuardedPool.serve, found]
    · exact same
    · exact ⟨same, rfl⟩
  | poke name start bytes =>
    show s.Ordered _ (s.poke name start bytes).1 (s.poke name start bytes).2
    unfold GuardedPool.poke
    split
    · split
      · exact ⟨.filled .., rfl⟩
      · exact same
    · exact same
  | read page => exact perform_orders (Pool.read_orders h.sound (.of_small numbered small)) rfl
  | write page bytes => exact h.write_ordered (.of_small numbered small) bytes
  | create page => exact perform_orders (Pool.create_orders h.sound (.of_small numbered small)) rfl
  | invalidate page => exact h.invalidate_ordered page
  | flush page => exact perform_idles (Pool.flush_idles h.sound page) rfl fun _ => rfl
  | flushAll =>
    rw [serve_flushAll]
    exact perform_idles (Pool.flushFrames_idles h.sound (List.Perm.refl _)) rfl fun _ => rfl
  | sync => exact perform_idles (Pool.sync_idles s.pool) rfl fun _ => rfl
  | close => exact perform_idles (Pool.close_idles s.pool) rfl fun _ => rfl
  | info | counters | sizes => exact ⟨same, rfl⟩

/-- One step, with the dirty frames of a flush in any order. -/
theorem steps_ordered (h : s.Latched) (small : pageSize < 0x100000000)
    (numbered : request.Numbered) (steps : s.Steps request outcome t) :
    s.Ordered request outcome t := by
  cases steps with
  | made =>
    unfold step
    split
    · have same : s.pool.Paces s.pool none none := .refl s.pool
      cases request <;> exact same
    · exact h.serve_ordered small numbered
  | flushed unmet listed =>
    exact perform_idles (Pool.flushFrames_idles h.sound listed) rfl fun _ => rfl

end Latched

/-! ### What the log tells of a pool -/

/-- The times of use are those of the log. -/
structure Remembers (s : GuardedPool size pageSize) (log : List PageId) : Prop where
  latched : s.Latched
  clock : s.pool.recency.clock = log.length
  lastUse : ∀ page time, s.pool.lastUse? page = some time → lastAccess page log = time

/-- What a request does to the order of use, faults apart. -/
theorem Ordered.paces (ordered : s.Ordered request outcome t)
    (unbroken : ∀ why, outcome ≠ .failed (.fault why)) :
    s.pool.Paces t.pool (s.accessed? request outcome) (s.left? request outcome) := by
  cases outcome with
  | done => exact ordered.1
  | failed why =>
    cases why with
    | error => exact ordered
    | fault why => exact absurd rfl (unbroken why)
  | wouldBlock | refused => exact ordered

theorem Remembers.after (h : s.Remembers log) (latched : t.Latched) {used left : Option PageId}
    (paces : s.pool.Paces t.pool used left) : t.Remembers (used.toList ++ log) := by
  constructor
  case latched => exact latched
  case clock => rw [paces.clock, h.clock, List.length_append, Nat.add_comm]
  case lastUse =>
    intro page time known
    rw [paces.uses] at known
    cases used with
    | none =>
      -- Whoever is still there has the time that it had.
      by_cases gone : left = some page
      · simp [gone] at known
      · exact h.lastUse page time (by simpa [gone] using known)
    | some latest =>
      by_cases now : latest = page
      · -- The page that was used just now has the time of the log's end.
        simp only [now, if_true, Option.some.injEq, h.clock] at known
        simp [lastAccess, now, known]
      · by_cases gone : left = some page
        · simp [now, gone] at known
        · simpa [lastAccess, now] using h.lastUse page time (by simpa [now, gone] using known)

/-- A run: the times of use are always those of the log. -/
theorem Logged.remembers (logged : Logged s log) (small : pageSize < 0x100000000) :
    s.Remembers log := by
  -- A new pool has no resident page, and `Remembers.after` is what one request keeps.
  induction logged with
  | @made disk pool made =>
    refine ⟨latched_ofDisk made, ?_, ?_⟩
    · obtain ⟨-, rfl⟩ := Pool.ofDisk_eq_ok made
      rfl
    · intro page time known
      have absent : pool.table[page]? = none := by
        obtain ⟨-, rfl⟩ := Pool.ofDisk_eq_ok made
        exact Std.ExtTreeMap.getElem?_empty
      simp [Pool.lastUse?, absent] at known
  | step _ numbered steps unbroken ih =>
    have latched := ih.latched.moved ((ih.latched.steps small numbered steps).unbroken unbroken)
    exact ih.after latched ((ih.latched.steps_ordered small numbered steps).paces unbroken)
  | meanwhile _ disk ih => exact ⟨ih.latched.rebased disk, ih.clock, ih.lastUse⟩

/-! ### Evictions -/

def Resident (s : GuardedPool size pageSize) (page : PageId) : Prop := s.pool.table[page]? ≠ none

/-- A page has left its frame, and not because it was dropped. -/
structure Evicts (s t : GuardedPool size pageSize) (request : PoolRequest) (page : PageId) :
    Prop where
  before : s.Resident page
  after : ¬ t.Resident page
  undropped : request ≠ .invalidate page

/-- The request was made of the pool, which has answered it. -/
def Answered (outcome : Outcome PoolReply) : Prop :=
  (∃ reply, outcome = .done reply) ∨ ∃ e, outcome = .failed (.error e)

/-- The request has to find a frame for a page, and none is free. -/
def Needs (s : GuardedPool size pageSize) (request : PoolRequest) : Prop :=
  ∃ page, request.target? pageSize = some page ∧ ¬ s.Resident page ∧ s.pool.free = []

/-- The page is the victim of the request. -/
def Chooses (s : GuardedPool size pageSize) (request : PoolRequest)
    (outcome : Outcome PoolReply) (victim : PageId) : Prop :=
  Answered outcome ∧ ∃ page f, request.target? pageSize = some page ∧
    s.pool.chosen? page = some (f, victim)

/-- A victim could not be saved, so it has not left and the request has failed. -/
structure Retains (s t : GuardedPool size pageSize) (outcome : Outcome PoolReply)
    (victim : PageId) : Prop where
  unsaved : ∃ f, s.pool.table[victim]? = some f ∧ s.pool.canSave (f, victim) = false
  failed : ∃ e, outcome = .failed (.error e)
  after : t.Resident victim

/-- The page may leave, and no page that may leave was accessed before it. -/
structure Oldest (s : GuardedPool size pageSize) (log : List PageId) (page : PageId) : Prop where
  resident : s.Resident page
  unheld : s.isHeld page = false
  earliest : ∀ other, other ≠ page → s.Resident other → s.isHeld other = false →
    lastAccess page log < lastAccess other log

/-- How a request evicts, after the accesses of the log. -/
structure EvictsInOrder (s t : GuardedPool size pageSize) (log : List PageId)
    (request : PoolRequest) (outcome : Outcome PoolReply) : Prop where
  /-- No page is evicted but the victim. -/
  only : ∀ page, s.Evicts t request page → s.Chooses request outcome page
  needed : ∀ victim, s.Chooses request outcome victim → s.Needs request
  unique : ∀ victim other, s.Chooses request outcome victim → s.Chooses request outcome other →
    victim = other
  oldest : ∀ victim, s.Chooses request outcome victim → s.Oldest log victim
  settled : ∀ victim, s.Chooses request outcome victim →
    s.Evicts t request victim ∨ s.Retains t outcome victim
  /-- There is a victim if one is needed and some resident page has no guard. -/
  found : Answered outcome → s.Needs request → (∃ page, s.Resident page ∧ s.isHeld page = false) →
    ∃ victim, s.Chooses request outcome victim

theorem Latched.isHeld_eq_false_iff (h : s.Latched) {f : Fin size}
    (there : s.pool.table[page]? = some f) :
    s.isHeld page = false ↔ (s.pool.frame f).pins = 0 := by
  rw [h.pins_eq there, List.countP_eq_zero, isHeld, List.any_eq_false]

theorem Chooses.victim_eq {victim : PageId} (chooses : s.Chooses request outcome victim) :
    ∃ f, s.pool.victim? = some (f, victim) := by
  obtain ⟨-, page, f, -, chosen⟩ := chooses
  exact ⟨f, (Pool.chosen?_eq_some_iff.mp chosen).2⟩

theorem Chooses.needs {victim : PageId} (chooses : s.Chooses request outcome victim) :
    s.Needs request := by
  obtain ⟨-, page, f, target, chosen⟩ := chooses
  obtain ⟨⟨absent, full⟩, -⟩ := Pool.chosen?_eq_some_iff.mp chosen
  exact ⟨page, target, not_not.mpr absent, full⟩

theorem Chooses.unique {victim other : PageId} (first : s.Chooses request outcome victim)
    (second : s.Chooses request outcome other) : victim = other := by
  obtain ⟨f, chosen⟩ := first.victim_eq
  obtain ⟨g, also⟩ := second.victim_eq
  rw [chosen] at also
  cases also
  rfl

/-- The victim is the page that the log says, for the pool's times of use are the log's. -/
theorem Remembers.oldest (h : s.Remembers log) {victim : PageId}
    (chooses : s.Chooses request outcome victim) : s.Oldest log victim := by
  have sound := h.latched.sound
  obtain ⟨f, chosen⟩ := chooses.victim_eq
  obtain ⟨oldest, held⟩ := (Pool.victim?_eq_some_iff sound).mp chosen
  have there := (sound.table_iff victim f).mpr held
  have loose := (sound.page_of_standing oldest.standing).2
  constructor
  case resident => exact fun absent => by simp [absent] at there
  case unheld => exact (h.latched.isHeld_eq_false_iff there).mpr loose
  case earliest =>
    intro other apart resident unheld
    obtain ⟨g, found⟩ := Option.ne_none_iff_exists'.mp resident
    have unpinned := (h.latched.isHeld_eq_false_iff found).mp unheld
    have movable : s.pool.recency.standing g = some true := by
      rw [sound.standing_of_page ((sound.table_iff other g).mp found)]
      simp [Frame.isPinned, unpinned]
    obtain ⟨earlier, later, first, second, before⟩ :=
      sound.recency.lastUse?_lt oldest movable (sound.frame_ne held found apart).symm
    rw [h.lastUse victim earlier ((Pool.lastUse?_of_table there).trans first),
      h.lastUse other later ((Pool.lastUse?_of_table found).trans second)]
    exact before

/-- A page that has left and was not dropped is the victim. -/
theorem Latched.chooses_of_evicts (h : s.Latched) (ordered : s.Ordered request outcome t)
    (evicts : s.Evicts t request page) : s.Chooses request outcome page := by
  have before : s.pool.lastUse? page ≠ none := mt h.sound.lastUse?_eq_none_iff.mp evicts.before
  have absent : t.pool.table[page]? = none := not_not.mp evicts.after
  have after : t.pool.lastUse? page = none := by simp [Pool.lastUse?, absent]
  have unbroken : ∀ why, outcome ≠ .failed (.fault why) := by
    rintro why rfl
    have table : t.pool.table = s.pool.table := ordered
    exact evicts.before (table ▸ absent)
  -- The page has no time of use any more, so it is the one that has left.
  have left : s.left? request outcome = some page := by
    rw [(ordered.paces unbroken).uses] at after
    by_contra other
    by_cases now : s.accessed? request outcome = some page <;> simp_all
  have evicted : s.evicted? request outcome = some page := by
    unfold left? at left
    split at left
    · exact absurd (congrArg PoolRequest.invalidate (Option.some.inj left)) evicts.undropped
    · exact left
  unfold GuardedPool.evicted? at evicted
  split at evicted
  · next reply =>
    obtain ⟨wanted, target, chosen⟩ := Option.bind_eq_some_iff.mp evicted
    obtain ⟨f, chosen, -⟩ := Pool.evicted?_eq_some_iff.mp chosen
    exact ⟨.inl ⟨reply, rfl⟩, wanted, f, target, chosen⟩
  · next e =>
    obtain ⟨wanted, target, chosen⟩ := Option.bind_eq_some_iff.mp evicted
    obtain ⟨f, chosen, -⟩ := Pool.evicted?_eq_some_iff.mp chosen
    exact ⟨.inr ⟨e, rfl⟩, wanted, f, target, chosen⟩
  · cases evicted

theorem Answered.unbroken (answered : Answered outcome) : ∀ why, outcome ≠ .failed (.fault why) := by
  rintro why rfl
  simp [Answered] at answered

/-- A victim that is saved is gone, whether or not the page comes in for which it leaves. -/
theorem Ordered.victim_gone (ordered : s.Ordered request outcome t) (answered : Answered outcome)
    (target : request.target? pageSize = some page) (absent : s.pool.table[page]? = none)
    {victim : PageId} {f : Fin size} (there : s.pool.table[victim]? = some f)
    (evicted : s.pool.evicted? page = some victim) : t.pool.lastUse? victim = none := by
  have apart : page ≠ victim := by
    rintro rfl
    simp [absent] at there
  have uses := (ordered.paces answered.unbroken).uses victim
  rw [left?_of_target target] at uses
  have stays := Pool.retained?_eq_none evicted
  rcases answered with ⟨reply, rfl⟩ | ⟨e, rfl⟩ <;>
    simpa [accessed?, evicted?, target, evicted, stays, apart] using uses

/-- The victim leaves, or it cannot be saved. -/
theorem Latched.settled (h : s.Latched) (after : t.Latched)
    (ordered : s.Ordered request outcome t) {victim : PageId}
    (chooses : s.Chooses request outcome victim) :
    s.Evicts t request victim ∨ s.Retains t outcome victim := by
  obtain ⟨answered, page, f, target, chosen⟩ := chooses
  obtain ⟨⟨absent, -⟩, first⟩ := Pool.chosen?_eq_some_iff.mp chosen
  have there := (h.sound.table_iff victim f).mpr ((Pool.victim?_eq_some_iff h.sound).mp first).2
  cases saved : s.pool.canSave (f, victim) with
  | true =>
    have evicted := Pool.evicted?_eq_some_iff.mpr ⟨f, chosen, saved⟩
    have gone := ordered.victim_gone answered target absent there evicted
    refine .inl ⟨by simp [Resident, there], ?_, ?_⟩
    · simpa [Resident] using after.sound.lastUse?_eq_none_iff.mp gone
    · rintro rfl
      cases target
  | false =>
    have stays := Pool.retained?_eq_some_iff.mpr ⟨f, chosen, saved⟩
    have uses := (ordered.paces answered.unbroken).uses victim
    rcases answered with ⟨reply, rfl⟩ | ⟨e, rfl⟩
    · -- No request succeeds whose victim has to stay.
      have absurd := ordered.2
      simp [target, stays] at absurd
    · refine .inr ⟨⟨f, there, saved⟩, ⟨e, rfl⟩, fun missing => ?_⟩
      rw [after.sound.lastUse?_eq_none_iff.mpr missing] at uses
      simp [accessed?, target, stays] at uses

theorem Latched.chooses_of_needs (h : s.Latched) (answered : Answered outcome)
    (needs : s.Needs request) (resident : s.Resident page) (unheld : s.isHeld page = false) :
    ∃ victim, s.Chooses request outcome victim := by
  obtain ⟨wanted, target, absent, full⟩ := needs
  obtain ⟨f, there⟩ := Option.ne_none_iff_exists'.mp resident
  have loose := (h.isHeld_eq_false_iff there).mp unheld
  have some_victim : s.pool.victim? ≠ none := by
    intro none
    have busy := (Pool.victim?_eq_none_iff h.sound).mp none f page ((h.sound.table_iff _ _).mp there)
    simp [Frame.isPinned, loose] at busy
  obtain ⟨⟨g, victim⟩, chosen⟩ := Option.ne_none_iff_exists'.mp some_victim
  exact ⟨victim, answered, wanted, g, target,
    (Pool.chosen?_of_full (not_not.mp absent) full).trans chosen⟩

/-- Whatever has been asked of a pool since it was new, and whatever happened to its file meanwhile,
the next request evicts the page without a guard that was accessed longest ago, and only if it has to
evict one. -/
theorem Logged.evicts_in_order (small : pageSize < 0x100000000) (logged : Logged s log)
    (numbered : request.Numbered) (steps : s.Steps request outcome t) :
    s.EvictsInOrder t log request outcome := by
  have remembers := logged.remembers small
  have latched := remembers.latched
  have ordered := latched.steps_ordered small numbered steps
  constructor
  case only => exact fun page => latched.chooses_of_evicts ordered
  case needed => exact fun victim => Chooses.needs
  case unique => exact fun victim other => Chooses.unique
  case oldest => exact fun victim => remembers.oldest
  case settled =>
    intro victim chooses
    have unbroken : ∀ why, outcome ≠ .failed (.fault why) := by
      rintro why rfl
      simpa [Answered] using chooses.1
    have after := latched.moved ((latched.steps small numbered steps).unbroken unbroken)
    exact latched.settled after ordered chooses
  case found =>
    rintro answered needs ⟨page, resident, unheld⟩
    exact latched.chooses_of_needs answered needs resident unheld

/-- A request that succeeds accesses its page. -/
theorem Logged.done {reply : PoolReply} (logged : Logged s log)
    (done : (s.step request).1 = .done reply) (numbered : request.Numbered) :
    Logged (s.step request).2 ((request.target? pageSize).toList ++ log) := by
  have next := logged.step numbered (.made request) fun why broken => by simp [done] at broken
  rwa [done] at next

/-- A request that fails accesses no page but a victim that had to stay. -/
theorem Logged.failed {e : StoreError} (logged : Logged s log)
    (failed : (s.step request).1 = .failed (.error e)) (numbered : request.Numbered) :
    Logged (s.step request).2 (((request.target? pageSize).bind s.pool.retained?).toList ++ log) := by
  have next := logged.step numbered (.made request) fun why broken => by simp [failed] at broken
  rwa [failed] at next

/-- A pool with two frames, over a file that is full with two pages of two bytes. -/
def twoFrames : GuardedPool 2 2 :=
  ⟨⟨Vector.replicate 2 .empty, ∅, List.finRange 2, .empty,
    ⟨4, 2, true, .hole 4, .reliable, by decide⟩, {}⟩, []⟩

/-- The pool after the first page was read, the third was made, and the first was read again. -/
def twoFramesUsed : GuardedPool 2 2 :=
  (((twoFrames.step (.read ⟨0, by decide⟩)).2.step (.create ⟨2, by decide⟩)).2.step
    (.read ⟨0, by decide⟩)).2

/-- The pool after the third page, which has no room in the file, could not make room for the second. -/
def twoFramesRefused : GuardedPool 2 2 := (twoFramesUsed.step (.read ⟨1, by decide⟩)).2

theorem logged_twoFramesRefused :
    Logged twoFramesRefused [⟨2, by decide⟩, ⟨0, by decide⟩, ⟨2, by decide⟩, ⟨0, by decide⟩] := by
  let first : PageId := ⟨0, by decide⟩
  let third : PageId := ⟨2, by decide⟩
  have start : Logged twoFrames [] := .made (show Pool.ofDisk _ = .ok _ from rfl)
  have read : (twoFrames.step (.read ⟨0, by decide⟩)).1 =
      .done (.page ⟨⟨0, by decide⟩, #[0, 0]⟩) := by decide +kernel
  have one : Logged _ [first] := start.done read (show 0 + 1 < 0x100000000 by decide)
  have made : ((twoFrames.step (.read ⟨0, by decide⟩)).2.step (.create ⟨2, by decide⟩)).1 =
      .done .done := by decide +kernel
  have two : Logged _ [third, first] := one.done made (show 2 + 1 < 0x100000000 by decide)
  have again : (((twoFrames.step (.read ⟨0, by decide⟩)).2.step (.create ⟨2, by decide⟩)).2.step
      (.read ⟨0, by decide⟩)).1 = .done (.page ⟨⟨0, by decide⟩, #[0, 0]⟩) := by decide +kernel
  have three : Logged twoFramesUsed [first, third, first] :=
    two.done again (show 0 + 1 < 0x100000000 by decide)
  have refused : (twoFramesUsed.step (.read ⟨1, by decide⟩)).1 =
      .failed (.error (.allocationExhausted 6 4)) := by decide +kernel
  have stays : twoFramesUsed.pool.retained? ⟨1, by decide⟩ = some ⟨2, by decide⟩ := by decide +kernel
  have four := three.failed refused (show 1 + 1 < 0x100000000 by decide)
  simp only [PoolRequest.target?, Option.bind_some, stays] at four
  exact four

/-- The third page was accessed before the first one, but as it has stayed, the first one leaves when
the second is asked for again. -/
theorem evicts_in_order_retained :
    let s := twoFramesRefused
    let request := PoolRequest.read ⟨1, by decide⟩
    s.Evicts (s.step request).2 request ⟨0, by decide⟩ ∧
      s.EvictsInOrder (s.step request).2
        [⟨2, by decide⟩, ⟨0, by decide⟩, ⟨2, by decide⟩, ⟨0, by decide⟩] request
        (s.step request).1 := by
  intro s request
  have there : twoFramesRefused.pool.table[(⟨0, by decide⟩ : PageId)]? = some 0 := by decide +kernel
  have gone : (twoFramesRefused.step (.read ⟨1, by decide⟩)).2.pool.table[
      (⟨0, by decide⟩ : PageId)]? = none := by decide +kernel
  have numbered : request.Numbered := show 1 + 1 < 0x100000000 by decide
  refine ⟨⟨?before, ?after, ?undropped⟩,
    logged_twoFramesRefused.evicts_in_order (by decide) numbered (.made request)⟩
  case before => simp [s, Resident, there]
  case after => simp [s, request, Resident, gone]
  case undropped => simp [request]

end GuardedPool

end PagedStorage
