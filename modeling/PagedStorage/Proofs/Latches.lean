import PagedStorage.Proofs.Guards
import PagedStorage.Proofs.PinnedFrames

/-!
# Latches

A guard that may write has its page alone. With the pins this is all that a holder of guards relies
on, and every request keeps it, whatever becomes of the file (`Latched`).

A request makes one of four moves (`Moves`): it leaves pinned frames alone, takes a guard, gives one
up, or writes through one. Whatever a run of requests keeps is shown for these.
-/

namespace PagedStorage

/-! ### How requests end -/

namespace Outcome

variable {α β : Type} {outcome : Outcome α} {broken : Fault → Prop} {good better : Prop}

/-- What holds after a request, unless it ends with one of the faults that are allowed. -/
def Leaves (outcome : Outcome α) (broken : Fault → Prop) (good : Prop) : Prop :=
  match outcome with
  | .failed (.fault why) => broken why
  | _ => good

theorem Leaves.unbroken (h : outcome.Leaves broken good)
    (unbroken : ∀ why, outcome ≠ .failed (.fault why)) : good := by
  unfold Leaves at h
  split at h
  · next why => exact absurd rfl (unbroken why)
  · exact h

theorem Leaves.imp (h : outcome.Leaves broken good) (implies : good → better) :
    outcome.Leaves broken better := by
  unfold Leaves at *
  split
  · exact h
  · exact implies (by simpa using h)

theorem leaves_map (reply : α → β) :
    (outcome.map reply).Leaves broken good ↔ outcome.Leaves broken good := by
  cases outcome with
  | failed why => cases why <;> rfl
  | done | wouldBlock | refused => rfl

/-- A request leaves what its action leaves. -/
theorem leaves_ofAction {σ : Type} {act : Action σ α} {s : σ} {good : σ → Prop}
    (settles : act.Settles s good broken) :
    (ofAction act s).1.Leaves broken (good (ofAction act s).2) := by
  unfold Action.Settles at settles
  unfold ofAction
  cases ran : act s with
  | ok a t =>
    rw [ran] at settles
    exact settles
  | error why t =>
    rw [ran] at settles
    cases why <;> exact settles

end Outcome

namespace GuardedPool

variable {size pageSize n : Nat} {s t : GuardedPool size pageSize} {request : PoolRequest}
  {outcome : Outcome PoolReply} {page : PageId} {name : String} {g : Guard size}

structure LatchedAt (n : Nat) (s : GuardedPool size pageSize) : Prop where
  sound : s.pool.SoundAt n
  matched : s.Matched
  /-- Whoever may write has the page alone. -/
  alone : ∀ entry ∈ s.guards, entry.2.access = .exclusive →
    ∀ other ∈ s.guards, other.2.page = entry.2.page → other = entry

abbrev Latched (s : GuardedPool size pageSize) : Prop := s.LatchedAt pageSize

/-- The bytes seen through the guard of a name, after a request was answered. -/
def poked {α : Type} (name : String) (block : Block pageSize) :
    PoolRequest → Outcome α → Block pageSize
  | .poke used start bytes, .done _ => if used = name then block.overlay start bytes else block
  | _, _ => block

/-- What a request makes of a pool and its guards. -/
inductive MovesAt (n : Nat) (s : GuardedPool size pageSize) :
    PoolRequest → Outcome PoolReply → GuardedPool size pageSize → Prop
  | rests {request : PoolRequest} {outcome : Outcome PoolReply} {pool : Pool size pageSize}
      (rests : s.pool.RestsAt n pool)
      (unpoked : ∀ name (block : Block pageSize), poked name block request outcome = block) :
      MovesAt n s request outcome { s with pool }
  | taken {page : PageId} {access : Access} {name : String} {reply : PoolReply}
      {pool : Pool size pageSize} {f : Fin size} (rests : s.pool.RestsAt n pool)
      (held : (pool.frame f).page = some page) (room : (pool.frame f).pins + 1 < Frame.pinLimit)
      (fresh : ¬ (s.guards.lookup name).isSome = true)
      (free : s.waitsForItself (.fetch page access name) = false) :
      MovesAt n s (.fetch page access name) (.done reply)
        ⟨pool.pinned f, (name, ⟨page, f, access⟩) :: s.guards⟩
  | released {name : String} {g : Guard size} (found : s.guards.lookup name = some g) :
      MovesAt n s (.release name) (.done .done)
        ⟨s.poolAfter g, s.guards.filter fun entry => entry.1 ≠ name⟩
  | poked {name : String} {start : Nat} {bytes : Array UInt8} {g : Guard size}
      (found : s.guards.lookup name = some g) (writes : g.access = .exclusive) :
      MovesAt n s (.poke name start bytes) (.done .done) { s with
        pool := s.pool.filled g.frame ((s.pool.frame g.frame).bytes.overlay start bytes)
          (s.pool.frame g.frame).dirty }

abbrev Moves (s : GuardedPool size pageSize) (request : PoolRequest) (outcome : Outcome PoolReply)
    (t : GuardedPool size pageSize) : Prop := s.MovesAt pageSize request outcome t

/-- A request makes a move, unless it meets the fault of a page with all the pins it can have. -/
def AdvancesAt (n : Nat) (s : GuardedPool size pageSize) (request : PoolRequest)
    (outcome : Outcome PoolReply) (t : GuardedPool size pageSize) : Prop :=
  outcome.Leaves (s.pool.FullAt n) (s.MovesAt n request outcome t)

/-- What a request to the pool itself leaves is what its action leaves. -/
theorem perform_advances {α : Type} {act : Action (Pool size pageSize) α}
    {reply : α → PoolReply} (settles : act.Settles s.pool (s.pool.RestsAt n) (s.pool.FullAt n))
    (unpoked : ∀ (outcome : Outcome PoolReply) name (block : Block pageSize),
      poked name block request outcome = block) :
    s.AdvancesAt n request (s.perform act reply).1 (s.perform act reply).2 := by
  have left := Outcome.leaves_ofAction settles
  exact (Outcome.leaves_map reply).mpr (left.imp fun rests => MovesAt.rests rests (unpoked _))

/-! ### Moves keep guards and pins together -/

/-- The guard of a name is one of those held. -/
theorem Matched.mem_of_lookup (h : s.Matched) (found : s.guards.lookup name = some g) :
    (name, g) ∈ s.guards :=
  (perm_of_lookup h.names found).mem_iff.mpr List.mem_cons_self

namespace LatchedAt

/-- The page of a guard is in the frame that the guard pins. -/
theorem resident (h : s.LatchedAt n) {entry : String × Guard size} (held : entry ∈ s.guards) :
    s.pool.table[entry.2.page]? = some entry.2.frame :=
  (h.sound.table_iff _ _).mpr (h.matched.frames entry held)

/-- A guard is on the page that is in its frame. -/
theorem frame_eq_iff (h : s.LatchedAt n) {f : Fin size} (there : s.pool.table[page]? = some f)
    {entry : String × Guard size} (held : entry ∈ s.guards) :
    entry.2.frame = f ↔ entry.2.page = page := by
  have named := h.matched.frames entry held
  constructor
  · rintro rfl
    rw [(h.sound.table_iff page _).mp there] at named
    exact (Option.some.inj named).symm
  · rintro rfl
    exact Option.some.inj ((h.resident held).symm.trans there)

/-- The pins of a page are the guards held on it. -/
theorem pins_eq (h : s.LatchedAt n) {f : Fin size} (there : s.pool.table[page]? = some f) :
    (s.pool.frame f).pins = s.guards.countP fun entry => entry.2.page = page := by
  rw [h.matched.pins]
  apply List.countP_congr
  intro entry held
  simp only [decide_eq_true_iff, h.frame_eq_iff there held]

theorem unpinned (h : s.LatchedAt n) (unheld : s.isHeld page = false) {f : Fin size}
    (there : s.pool.table[page]? = some f) : (s.pool.frame f).pins = 0 := by
  rw [h.pins_eq there, List.countP_eq_zero]
  intro entry held
  simpa using List.any_eq_false.mp unheld entry held

/-- The file is no part of what guards rely on. -/
theorem sound_poolAfter (h : s.LatchedAt n) (held : (name, g) ∈ s.guards) :
    (s.poolAfter g).SoundAt n := by
  have there := h.matched.frames _ held
  unfold GuardedPool.poolAfter
  split
  · apply (h.sound.filled there (s.pool.frame g.frame).bytes true).unpinned
    rw [Pool.filled, Pool.frame_reframed_self]
    exact there
  · exact h.sound.unpinned there

/-- Guards are at ease with whatever leaves pinned frames alone. -/
theorem spared (h : s.LatchedAt n) {pool : Pool size pageSize} (rests : s.pool.RestsAt n pool) :
    LatchedAt n { s with pool } :=
  ⟨rests.sound, h.matched.spared rests.spares, h.alone⟩

theorem moved (h : s.LatchedAt n) (moves : s.MovesAt n request outcome t) : t.LatchedAt n := by
  cases moves with
  | rests rests => exact h.spared rests
  | @taken page access name _ pool f rests held room fresh free =>
    refine ⟨rests.sound.pinned held room, (h.matched.spared rests.spares).taken held fresh access, ?_⟩
    -- Nobody who would have to wait has been let in.
    intro entry listed writes other also same
    rcases List.mem_cons.mp listed with rfl | older
    · obtain rfl : access = .exclusive := writes
      rcases List.mem_cons.mp also with rfl | before
      · rfl
      · have apart := List.any_eq_false.mp free other before
        simp [same] at apart
    · rcases List.mem_cons.mp also with rfl | before
      · cases access with
        | shared =>
          have apart := List.any_eq_false.mp free entry older
          simp [← same, writes] at apart
        | exclusive =>
          have apart := List.any_eq_false.mp free entry older
          simp [← same] at apart
      · exact h.alone entry older writes other before same
  | released found =>
    have listed := perm_of_lookup h.matched.names found
    refine ⟨h.sound_poolAfter (h.matched.mem_of_lookup found), h.matched.released listed, ?_⟩
    intro entry still writes other also
    exact h.alone entry (List.mem_filter.mp still).1 writes other (List.mem_filter.mp also).1
  | @poked name start bytes g found writes =>
    have held := h.matched.frames _ (h.matched.mem_of_lookup found)
    have spares : s.pool.Spares (s.pool.filled g.frame
        ((s.pool.frame g.frame).bytes.overlay start bytes) (s.pool.frame g.frame).dirty) := by
      apply Pool.Spares.reframed
      · rfl
      · exact fun _ => rfl
    exact ⟨h.sound.filled held _ _, h.matched.spared spares, h.alone⟩

/-! ### Every request makes a move -/

/-- A request that is refused, or only looks, leaves all as it is. -/
theorem idle (h : s.LatchedAt n)
    (unpoked : ∀ name (block : Block pageSize), poked name block request outcome = block) :
    s.MovesAt n request outcome s := .rests (.refl h.sound) unpoked

theorem fetch (h : s.LatchedAt n) (addressable : page.Addressable n) {access : Access}
    (free : s.waitsForItself (.fetch page access name) = false) :
    s.AdvancesAt n (.fetch page access name) (s.fetch page access name).1
      (s.fetch page access name).2 := by
  have rests := Pool.fetch_rests h.sound addressable
  unfold GuardedPool.fetch
  by_cases used : (s.guards.lookup name).isSome = true
  · rw [if_pos used]
    exact h.idle fun _ _ => rfl
  · rw [if_neg used]
    cases ran : Pool.fetch page s.pool with
    | ok f pool =>
      rw [ran] at rests
      obtain ⟨u, rfl, kept, held, room⟩ := rests
      exact .taken kept held room used free
    | error why pool =>
      rw [ran] at rests
      cases why with
      | error e => exact .rests rests fun _ _ => rfl
      | fault why => exact rests

theorem release (h : s.LatchedAt n) (name : String) :
    s.AdvancesAt n (.release name) (s.release name).1 (s.release name).2 := by
  cases found : s.guards.lookup name with
  | none =>
    simp only [GuardedPool.release, found]
    exact h.idle fun _ _ => rfl
  | some g =>
    have pins := h.matched.pinned (h.matched.mem_of_lookup found)
    rw [release_of_lookup found pins]
    exact .released found

theorem poke (h : s.LatchedAt n) (name : String) (start : Nat) (bytes : Array UInt8) :
    s.AdvancesAt n (.poke name start bytes) (s.poke name start bytes).1
      (s.poke name start bytes).2 := by
  unfold GuardedPool.poke
  split
  · next found =>
    split
    · exact .poked found rfl
    · exact h.idle fun _ _ => rfl
  · exact h.idle fun _ _ => rfl

theorem serve (h : s.LatchedAt n) (small : n < 0x100000000) (numbered : request.Numbered)
    (free : s.waitsForItself request = false) :
    s.AdvancesAt n request (s.serve request).1 (s.serve request).2 := by
  cases request with
  | fetch page access name => exact h.fetch (.of_small numbered small) free
  | release name => exact h.release name
  | peek name =>
    cases found : s.guards.lookup name <;> simp only [GuardedPool.serve, found] <;>
      exact h.idle fun _ _ => rfl
  | poke name start bytes => exact h.poke name start bytes
  | read page =>
    exact perform_advances (Pool.read_settles h.sound (.of_small numbered small)) fun _ _ _ => rfl
  | write page bytes =>
    have unheld : bytes.size = pageSize →
        ∀ f, s.pool.table[page]? = some f → (s.pool.frame f).pins = 0 := by
      intro fits f
      apply h.unpinned
      simpa [waitsForItself, fits] using free
    exact perform_advances (Pool.write_settles h.sound (.of_small numbered small) bytes unheld)
      fun _ _ _ => rfl
  | create page =>
    exact perform_advances (Pool.create_settles h.sound (.of_small numbered small)) fun _ _ _ => rfl
  | invalidate page =>
    exact perform_advances (Pool.invalidate_settles h.sound page) fun _ _ _ => rfl
  | flush page => exact perform_advances (Pool.flush_settles h.sound page) fun _ _ _ => rfl
  | flushAll =>
    rw [serve_flushAll]
    exact perform_advances (Pool.flushFrames_settles h.sound (List.Perm.refl _)) fun _ _ _ => rfl
  | sync => exact perform_advances (Pool.sync_settles h.sound) fun _ _ _ => rfl
  | close => exact perform_advances (Pool.close_settles h.sound) fun _ _ _ => rfl
  | info | counters | sizes => exact h.idle fun _ _ => rfl

/-- One step, with the dirty frames of a flush in any order. -/
theorem steps (h : s.LatchedAt n) (small : n < 0x100000000) (numbered : request.Numbered)
    (steps : s.Steps request outcome t) : s.AdvancesAt n request outcome t := by
  cases steps with
  | made =>
    unfold step
    split
    · refine h.idle fun name block => ?_
      cases request <;> rfl
    · next free => exact h.serve small numbered (by simpa using free)
  | flushed unmet listed =>
    exact perform_advances (Pool.flushFrames_settles h.sound listed) fun _ _ _ => rfl

end LatchedAt

end GuardedPool

end PagedStorage
