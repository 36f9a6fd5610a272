import PagedStorage.Proofs.EvictionOrder
import PagedStorage.Proofs.Footprints
import PagedStorage.Proofs.PinnedViews

/-!
# Saturation

A request for a page that is not resident fails at once if there is no frame for it. The pool does not
look at guards to find that out, nor at pins: it has no free frame, and the order of use has no frame
that may be evicted. After every run that is the case exactly when each frame holds a page with a guard
on it (`Runs.saturates`), so a resident page is never turned away for want of a frame, and as soon as
some page has lost its last guard no page is.
-/

namespace PagedStorage

/-! ### Pages that are not resident -/

namespace Pool

variable {size pageSize : Nat} {s t : Pool size pageSize} {page : PageId} {fill : Fill pageSize}
  {r : Except StoreError (Fin size)}

/-- A frame that room is made in was not pinned. -/
theorem MakesRoom.unpinned {f : Fin size} (room : s.MakesRoom t f) (h : s.Sound) :
    (s.frame f).pins = 0 := by
  cases room with
  | free head =>
    rw [h.head_free head]
    rfl
  | evict full oldest => exact (h.page_of_standing oldest.standing).2

/-- Nothing comes into a pool whose frames are all pinned. -/
theorem Admits.saturated (admits : s.Admits page fill r t) (h : s.Sound)
    (pinned : ∀ f, 0 < (s.frame f).pins) : r = .error (.poolSaturated size) := by
  have movable : ∀ f, (s.frame f).pins ≠ 0 := fun f => Nat.ne_of_gt (pinned f)
  cases admits with
  | full lacks =>
    cases lacks with
    | saturated => rfl
    | stuck full oldest => exact absurd (h.page_of_standing oldest.standing).2 (movable _)
  | unread room => exact absurd (room.unpinned h) (movable _)
  | enters room => exact absurd (room.unpinned h) (movable _)

end Pool

namespace PoolRequest

variable {pageSize misses : Nat} {request : PoolRequest} {page : PageId}
  {fill : Pool.Fill pageSize}

/-- A request that uses a page looks for it if it is not resident. -/
theorem seeks_of_target (target : request.target? pageSize = some page) :
    ∃ fill misses, request.Seeks page (fill : Pool.Fill pageSize) misses := by
  cases request with
  | fetch p access name =>
    cases target
    exact ⟨_, _, .fetch ..⟩
  | read p =>
    cases target
    exact ⟨_, _, .read _⟩
  | create p =>
    cases target
    exact ⟨_, _, .create _⟩
  | write p bytes =>
    obtain ⟨right, same⟩ := Option.ite_none_right_eq_some.mp target
    cases same
    cases fits : (Block.ofArray? bytes : Option (Block pageSize)) with
    | none => exact absurd right (Block.ofArray?_eq_none_iff.mp fits)
    | some block =>
      obtain rfl := Block.ofArray?_eq_some_iff.mp fits
      exact ⟨_, _, .write ..⟩
  | _ => cases target

theorem Seeks.target (seeks : request.Seeks page fill misses) :
    request.target? pageSize = some page := by
  cases seeks with
  | write page block => exact if_pos (Vector.size_toArray block)
  | _ => rfl

/-- A request looks for one page. -/
theorem Seeks.page_eq {q : PageId} {other : Pool.Fill pageSize} {more : Nat}
    (seeks : request.Seeks page fill misses) (also : request.Seeks q other more) : page = q :=
  Option.some.inj (seeks.target.symm.trans also.target)

theorem Seeks.places (seeks : request.Seeks page fill misses) : request.places = true := by
  cases seeks <;> rfl

end PoolRequest

/-- Of all that can go wrong with a request, only one thing is called saturation. -/
theorem Pool.Footprint.saturated {size pageSize misses n : Nat} {s t : Pool size pageSize}
    {request : PoolRequest} {page : PageId} {fill : Pool.Fill pageSize}
    (footprint : s.Footprint request (.poolSaturated n) t)
    (seeks : request.Seeks page fill misses) :
    n = size ∧ s.table[page]? = none ∧ ∀ f, 0 < (s.frame f).pins := by
  generalize why : StoreError.poolSaturated n = e at footprint
  cases footprint with
  | mismatched | pinned => cases why
  | unadmitted also absent unadmitted =>
    obtain rfl := seeks.page_eq also
    cases unadmitted with
    | saturated full pinned =>
      cases why
      exact ⟨rfl, absent, pinned⟩
    | @stuck f victim =>
      have other := not_refusal_refusal s.disk victim
      rw [← why] at other
      cases other
    | unread _ _ source | evicted _ _ _ _ source =>
      have other := not_refusal_of_source source
      rw [← why] at other
      cases other

namespace GuardedPool

variable {size pageSize misses n : Nat} {s t : GuardedPool size pageSize} {request : PoolRequest}
  {page : PageId} {fill : Pool.Fill pageSize}

/-- The guard that the request asks for has a name that is not in use. -/
def Names (s : GuardedPool size pageSize) : PoolRequest → Prop
  | .fetch _ _ name => s.guards.lookup name = none
  | _ => True

/-- What becomes of a request once its page was brought in, or was not. A fetch leaves a pin. -/
def Follows (s : GuardedPool size pageSize) (fill : Pool.Fill pageSize) (pool : Pool size pageSize)
    (served : Outcome PoolReply × GuardedPool size pageSize) : Except StoreError (Fin size) → Prop
  | .ok f => ∃ reply u, served = (.done reply, u) ∧
      (u = { s with pool } ∨ fill = .load ∧ u.pool = pool.pinned f)
  | .error e => served = (.failed (.error e), { s with pool })

section Perform

variable {α : Type} {act : Action (Pool size pageSize) α} {reply : α → PoolReply}
  {pool : Pool size pageSize}

theorem perform_of_ok {a : α} (ran : act s.pool = .ok a pool) :
    s.perform act reply = (.done (reply a), { s with pool }) := by
  simp only [perform, Outcome.ofAction, ran, Outcome.map]

/-- A request to the pool itself ends as its action ends. -/
theorem perform_follows {base : Pool size pageSize} {answer : Fin size → Pool size pageSize → α}
    (ends : Pool.Barring n act s.pool (∃ r pool, base.Admits page fill r pool ∧
      act s.pool =
        match r with
        | .ok f => .ok (answer f pool) pool
        | .error e => .error (.error e) pool)) :
    (∃ r pool, base.Admits page fill r pool ∧ s.Follows fill pool (s.perform act reply) r) ∨
      n < pageSize ∧ ∃ why, (s.perform act reply).1 = .failed (.fault why) := by
  rcases ends with ⟨r, pool, admits, ran⟩ | ⟨larger, why, pool, stops⟩
  · refine .inl ⟨r, pool, admits, ?_⟩
    cases r with
    | ok f => exact ⟨_, _, perform_of_ok ran, .inl rfl⟩
    | error e => exact perform_of_error ran _
  · exact .inr ⟨larger, why, congrArg Prod.fst (perform_of_error stops reply)⟩

end Perform

namespace Latched

/-- A page that is not resident has no guard. -/
theorem unheld_of_absent (h : s.Latched) (absent : s.pool.table[page]? = none) :
    s.isHeld page = false := by
  rw [isHeld, List.any_eq_false]
  intro entry held same
  have there := h.resident held
  rw [of_decide_eq_true same, absent] at there
  cases there

/-- Nobody waits for a page that is not resident. -/
theorem step_of_absent (h : s.Latched) (seeks : request.Seeks page fill misses)
    (absent : s.pool.table[page]? = none) : s.step request = s.serve request := by
  have unheld := h.unheld_of_absent absent
  have unwritten : s.isWritten page = false := by
    rw [isHeld, List.any_eq_false] at unheld
    rw [isWritten, List.any_eq_false]
    intro entry held writes
    have writes : entry.2.page = page ∧ entry.2.access = .exclusive := of_decide_eq_true writes
    exact unheld entry held (decide_eq_true writes.1)
  have free : s.waitsForItself request = false := by
    cases seeks with
    | fetch page access name =>
      cases access with
      | shared => exact unwritten
      | exclusive => exact unheld
    | read => exact unwritten
    | write => simp [waitsForItself, unheld]
    | create => rfl
  rw [step, if_neg (by simp [free])]

end Latched

/-- A request for a page that is not resident ends as bringing the page in ends. Where pages are larger
than is known to fit, it may be stopped by a fault. -/
theorem LatchedAt.serve_absent (h : s.LatchedAt n) (small : n < 0x100000000)
    (numbered : request.Numbered) (seeks : request.Seeks page fill misses)
    (absent : s.pool.table[page]? = none) (names : s.Names request) :
    (∃ r pool, (s.pool.missed misses).Admits page fill r pool ∧
      s.Follows fill pool (s.serve request) r) ∨
    n < pageSize ∧ ∃ why, (s.serve request).1 = .failed (.fault why) := by
  cases seeks with
  | fetch page access name =>
    have fresh : ¬ (s.guards.lookup name).isSome = true := by
      rw [show s.guards.lookup name = none from names]
      exact Bool.noConfusion
    have served : s.serve (.fetch page access name) = s.fetch page access name := rfl
    rw [served, GuardedPool.fetch, if_neg fresh]
    refine Or.imp ?_ (And.imp_right ?_) (Pool.fetch_miss h.sound absent (.of_small numbered small))
    · rintro ⟨r, pool, admits, ran⟩
      refine ⟨r, pool, admits, ?_⟩
      rw [ran]
      cases r with
      | ok f => exact ⟨_, _, rfl, .inr ⟨rfl, rfl⟩⟩
      | error e => rfl
    · rintro ⟨why, pool, ran⟩
      rw [ran]
      exact ⟨why, rfl⟩
  | read page => exact perform_follows (Pool.read_miss h.sound absent (.of_small numbered small))
  | write page block =>
    have fits : Block.ofArray? block.toArray = some block := Block.ofArray?_eq_some_iff.mpr rfl
    have writes : Pool.write page block.toArray = (Pool.writeBlock page block :
        Action (Pool size pageSize) Unit) := by
      simp only [Pool.write, fits]
    rw [GuardedPool.serve, writes]
    exact perform_follows (Pool.writeBlock_miss h.sound absent (.of_small numbered small) block)
  | create page =>
    exact perform_follows (Pool.create_miss h.sound absent (.of_small numbered small))

theorem Latched.serve_miss (h : s.Latched) (small : pageSize < 0x100000000)
    (numbered : request.Numbered) (seeks : request.Seeks page fill misses)
    (absent : s.pool.table[page]? = none) (names : s.Names request) :
    ∃ r pool, (s.pool.missed misses).Admits page fill r pool ∧
      s.Follows fill pool (s.serve request) r :=
  (h.serve_absent small numbered seeks absent names).resolve_right
    fun larger => Nat.lt_irrefl pageSize larger.1

/-! ### Frames that cannot be had -/

/-- Every frame holds a page with a guard on it. -/
def Saturated (s : GuardedPool size pageSize) : Prop :=
  ∀ f, ∃ page : PageId, s.pool.table[page]? = some f ∧ s.isHeld page = true

theorem Latched.saturated_iff (h : s.Latched) :
    s.Saturated ↔ ∀ f, 0 < (s.pool.frame f).pins := by
  constructor
  · intro saturated f
    obtain ⟨page, there, held⟩ := saturated f
    apply Nat.pos_of_ne_zero
    rw [Ne, ← h.isHeld_eq_false_iff there, held]
    exact Bool.noConfusion
  · intro pinned f
    -- A frame that is pinned is not free, and its pins are the guards on its page.
    cases held : (s.pool.frame f).page with
    | none =>
      have none := pinned f
      rw [h.sound.empty_of_free f held] at none
      exact absurd none (Nat.lt_irrefl 0)
    | some page =>
      have there := (h.sound.table_iff page f).mpr held
      refine ⟨page, there, ?_⟩
      have busy := mt (h.isHeld_eq_false_iff there).mp (Nat.ne_of_gt (pinned f))
      simpa using busy

section Requests

variable (h : s.Latched) (small : pageSize < 0x100000000) (numbered : request.Numbered)
  (target : request.target? pageSize = some page)
include h small numbered target

theorem Latched.saturated_of_serve
    (failed : (s.serve request).1 = .failed (.error (.poolSaturated n))) :
    n = size ∧ ¬ s.Resident page ∧ s.Saturated := by
  obtain ⟨fill, misses, seeks⟩ := PoolRequest.seeks_of_target target
  obtain ⟨footprint, -⟩ := h.footprint small numbered seeks.places (Prod.ext failed rfl)
  obtain ⟨exactly, absent, pinned⟩ := footprint.saturated seeks
  exact ⟨exactly, not_not.mpr absent, h.saturated_iff.mpr pinned⟩

theorem Latched.saturated_of_step
    (failed : (s.step request).1 = .failed (.error (.poolSaturated n))) :
    n = size ∧ ¬ s.Resident page ∧ s.Saturated := by
  obtain ⟨fill, misses, seeks⟩ := PoolRequest.seeks_of_target target
  have steps := Steps.made (s := s) request
  rw [failed] at steps
  have served := serve_of_failed steps seeks.places rfl
  exact h.saturated_of_serve small numbered target (congrArg Prod.fst served)

theorem Latched.serve_of_saturated (names : s.Names request) (absent : ¬ s.Resident page)
    (saturated : s.Saturated) :
    (s.serve request).1 = .failed (.error (.poolSaturated size)) := by
  obtain ⟨fill, misses, seeks⟩ := PoolRequest.seeks_of_target target
  obtain ⟨r, pool, admits, served⟩ := h.serve_miss small numbered seeks (not_not.mp absent) names
  obtain rfl := admits.saturated (h.sound.tallied _) (h.saturated_iff.mp saturated)
  exact congrArg Prod.fst served

end Requests

/-- A page whose last guard was given up is in a frame that may be evicted. -/
theorem Latched.not_saturated_of_released (h : s.Latched) {name : String} {g : Guard size}
    (found : s.guards.lookup name = some g)
    (last : (s.guards.countP fun entry => entry.2.page = g.page) = 1) :
    ∃ t, s.step (.release name) = (.done .done, t) ∧ t.Latched ∧ ¬ t.Saturated := by
  have mem := h.matched.mem_of_lookup found
  have released := release_of_lookup found (h.matched.pinned mem)
  have latched : Latched _ := h.moved (.released found)
  refine ⟨_, released, latched, fun saturated => ?_⟩
  have busy := latched.saturated_iff.mp saturated g.frame
  have pins := h.pins_eq (h.resident mem)
  simp only [(s.frame_poolAfter g g.frame).2.2, if_true, pins, last] at busy
  exact absurd busy (Nat.lt_irrefl 0)

/-! ### Runs -/

/-- When requests are turned away because there is no frame. -/
structure Saturates (s : GuardedPool size pageSize) : Prop where
  step_iff : ∀ request page n, request.Numbered → request.target? pageSize = some page →
    s.Names request →
    ((s.step request).1 = .failed (.error (.poolSaturated n)) ↔
      n = size ∧ ¬ s.Resident page ∧ s.Saturated)
  /-- The same goes for a request that would have to wait and is made all the same. -/
  serve_iff : ∀ request page n, request.Numbered → request.target? pageSize = some page →
    s.Names request →
    ((s.serve request).1 = .failed (.error (.poolSaturated n)) ↔
      n = size ∧ ¬ s.Resident page ∧ s.Saturated)
  resident : ∀ request page n, request.Numbered → request.target? pageSize = some page →
    s.Resident page → (s.step request).1 ≠ .failed (.error (.poolSaturated n)) ∧
      (s.serve request).1 ≠ .failed (.error (.poolSaturated n))
  /-- Once the last guard on a page is given up, the next request finds a frame. -/
  released : ∀ name g, s.guards.lookup name = some g →
    (s.guards.countP fun entry => entry.2.page = g.page) = 1 →
    ∃ t, s.step (.release name) = (.done .done, t) ∧
      ∀ request page n, request.Numbered → request.target? pageSize = some page →
        (t.step request).1 ≠ .failed (.error (.poolSaturated n))

theorem Latched.saturates (h : s.Latched) (small : pageSize < 0x100000000) : s.Saturates := by
  constructor
  case step_iff =>
    intro request page n numbered target names
    refine ⟨h.saturated_of_step small numbered target, ?_⟩
    rintro ⟨rfl, absent, saturated⟩
    obtain ⟨fill, misses, seeks⟩ := PoolRequest.seeks_of_target target
    rw [h.step_of_absent seeks (not_not.mp absent)]
    exact h.serve_of_saturated small numbered target names absent saturated
  case serve_iff =>
    intro request page n numbered target names
    refine ⟨h.saturated_of_serve small numbered target, ?_⟩
    rintro ⟨rfl, absent, saturated⟩
    exact h.serve_of_saturated small numbered target names absent saturated
  case resident =>
    intro request page n numbered target resident
    exact ⟨fun failed => (h.saturated_of_step small numbered target failed).2.1 resident,
      fun failed => (h.saturated_of_serve small numbered target failed).2.1 resident⟩
  case released =>
    intro name g found last
    obtain ⟨t, released, latched, loose⟩ := h.not_saturated_of_released found last
    refine ⟨t, released, fun request page n numbered target failed => ?_⟩
    exact loose (latched.saturated_of_step small numbered target failed).2.2

namespace Runs

variable {history : List (PoolRequest × Outcome PoolReply)}

/-- Whatever has been asked of a pool since it was new, and whatever happened to its file meanwhile,
a request is turned away for want of a frame exactly if its page is not resident and all frames hold
pages with guards. -/
theorem saturates_of_made (small : pageSize < 0x100000000) {disk : Disk pageSize}
    {pool : Pool size pageSize} (made : Pool.ofDisk disk = .ok pool)
    (runs : Runs ⟨pool, []⟩ history s) : s.Saturates :=
  (runs.latched (latched_ofDisk made) small).saturates small

/-- The only frame holds a page with a guard. A second page is turned away until the guard is given
up. -/
theorem saturates_of_reader :
    let made : PageId := ⟨1, by decide⟩
    let sought : PageId := ⟨3, by decide⟩
    let s := ((oneFrame.step (.create made)).2.step (.fetch made .shared "r")).2
    Runs oneFrame
      [(.create made, .done .done),
        (.fetch made .shared "r", .done (.pinned ⟨made, #[0, 0]⟩ ⟨0⟩))] s ∧
      s.Saturates ∧
      (s.step (.create sought)).1 = .failed (.error (.poolSaturated 1)) ∧
      ((s.step (.release "r")).2.step (.create sought)).1 = .done .done := by
  intro made sought s
  have next : made.index + 1 < 0x100000000 := by decide
  refine ⟨?runs, saturates_of_made (by decide) rfl ?runs, ?refused, ?served⟩
  case runs =>
    refine .cons next (.made _) nofun ?_
    refine .cons next (.made _) nofun ?_
    exact .nil _
  case refused => decide +kernel
  case served => decide +kernel

end Runs

end GuardedPool

end PagedStorage
