import PagedStorage.Proofs.PoolRecency
import PagedStorage.Proofs.Representation

/-!
# What a failed request leaves

A request for a page can fail before it has a frame, while it makes room for the page, or after, when
the page that made room is gone and the one that was asked for does not come. `Footprint` lists the
ways it can fail, each with its cause in the state before and with all that is different afterwards:
mostly a miss that was counted and nothing else. A victim whose bytes could not be saved is as it was
but for being the page used last (`Retains`), and a victim that has made room in vain is the only page
that has left, with its bytes in the file and its frame free (`Loses`).

Before the request anything may have happened to the file, and during the request the operating system
may fail a call that has moved some of the bytes. A victim that could not be saved may have spoiled its
own place in the file, but no other, and none if not a byte was moved. A block that was read in part has
left some bytes in the frame that was taken for it; of these nothing is left when the frame is free
again.
-/

namespace PagedStorage

/-- The request itself was at fault, or all frames were pinned. -/
def StoreError.isRefusal : StoreError → Bool
  | .pageSizeMismatch .. | .pagePinned _ | .poolSaturated _ => true
  | _ => false

namespace Pool

variable {size pageSize : Nat} {s t : Pool size pageSize} {f : Fin size} {page victim : PageId}
  {misses : Nat} {e : StoreError} {fill : Fill pageSize}

/-! ### Victims -/

/-- The page is the next to be evicted: of the resident pages without a pin it was used longest ago. -/
structure IsVictim (s : Pool size pageSize) (f : Fin size) (victim : PageId) : Prop where
  resident : s.table[victim]? = some f
  unpinned : (s.frame f).pins = 0
  oldest : ∀ (q : PageId) (g : Fin size), s.table[q]? = some g → (s.frame g).pins = 0 →
    q ≠ victim → ∃ earlier later, s.lastUse? victim = some earlier ∧ s.lastUse? q = some later ∧
      earlier < later

theorem isVictim_of_oldest (h : s.Sound) (oldest : s.recency.IsOldest f)
    (held : (s.frame f).page = some victim) : s.IsVictim f victim := by
  have resident := (h.table_iff victim f).mpr held
  constructor
  case resident => exact resident
  case unpinned => exact (h.page_of_standing oldest.standing).2
  case oldest =>
    intro q g found unpinned apart
    have movable : s.recency.standing g = some true := by
      rw [h.standing_of_page ((h.table_iff q g).mp found)]
      simp [Frame.isPinned, unpinned]
    rw [lastUse?_of_table resident, lastUse?_of_table found]
    exact h.recency.lastUse?_lt oldest movable (h.frame_ne held found apart).symm

/-- The pool with misses counted. -/
def missed (s : Pool size pageSize) (misses : Nat) : Pool size pageSize :=
  s.tallied fun c => { c with misses := c.misses + misses }

/-- The victim could not be saved: it stays as it is, and becomes the page used last. Some of its bytes
may be in its place in the file, if the operating system has given up midway. -/
structure Retains (s t : Pool size pageSize) (f : Fin size) (victim : PageId) (misses : Nat) :
    Prop where
  resident : t.table[victim]? = some f
  unpinned : (t.frame f).pins = 0
  dirty : (t.frame f).dirty = true
  bytes : (t.frame f).bytes = (s.frame f).bytes
  evictable : t.recency.standing f = some true
  latest : ∀ q, q ≠ victim → t.lastUse? q = s.lastUse? q ∧
    ∀ time, t.lastUse? q = some time → ∃ now, t.lastUse? victim = some now ∧ time < now
  others : ∀ q, q ≠ victim → t.disk.blockAt q = s.disk.blockAt q
  unspoiled : (∀ trouble ∈ s.disk.device.writing victim, trouble.moved = 0) → t.disk = s.disk
  only : t = { s.missed misses with
    recency := s.recency.touch f
    disk := s.disk.spoiled victim (s.frame f).bytes }

theorem retains_touched (h : s.Sound) (chosen : s.IsVictim f victim)
    (newer : (s.frame f).dirty = true) :
    s.Retains (((s.missed misses).spoiled f victim).touched f) f victim misses := by
  have held := (h.table_iff victim f).mp chosen.resident
  have only : ((s.missed misses).spoiled f victim).touched f = { s.missed misses with
      recency := s.recency.touch f
      disk := s.disk.spoiled victim (s.frame f).bytes } := reframed_frame ..
  rw [only]
  constructor
  case resident => exact chosen.resident
  case unpinned => exact chosen.unpinned
  case dirty => exact newer
  case bytes => rfl
  case evictable =>
    show (s.recency.touch f).standing f = some true
    rw [Recency.standing_touch, if_pos rfl, h.standing_of_page held]
    simp [Frame.isPinned, chosen.unpinned]
  case latest =>
    intro q apart
    have uses : ∀ p, lastUse? { s.missed misses with
        recency := s.recency.touch f
        disk := s.disk.spoiled victim (s.frame f).bytes } p =
          s.table[p]?.bind (s.recency.touch f).lastUse? := fun _ => rfl
    rw [uses, uses, chosen.resident]
    cases found : s.table[q]? with
    | none => simp [lastUse?, found]
    | some g =>
      have other : f ≠ g := h.frame_ne held found apart
      simp only [lastUse?, found, Option.bind_some, Recency.lastUse?_touch, if_neg other, if_true,
        true_and]
      -- The clock has passed all uses so far.
      intro time known
      obtain ⟨u, used, rfl⟩ := Option.map_eq_some_iff.mp known
      exact ⟨_, rfl, Nat.lt_succ_of_le (h.recency.lastUse_le g u used)⟩
  case others => exact fun q apart => s.disk.blockAt_spoiled victim _ apart
  case unspoiled => exact fun unmoved => s.disk.spoiled_of_unmoved victim _ unmoved
  case only => rfl

/-- The victim has left, and nothing has come in its place. -/
structure Loses (s t : Pool size pageSize) (f : Fin size) (victim : PageId) (misses : Nat) :
    Prop where
  table : ∀ q, t.table[q]? = if q = victim then none else s.table[q]?
  /-- The frame of the victim is zeroed and clean, without page or pin. -/
  frame : ∀ g, t.frame g = if g = f then .empty else s.frame g
  free : t.free = [f]
  recency : t.recency = s.recency.remove f
  clean : (s.frame f).dirty = false → t.disk = s.disk
  saved : (s.frame f).dirty = true → victim.index < t.disk.blockCount ∧
    t.disk.file.read? (victim.index * pageSize) pageSize = some (s.frame f).bytes ∧
    ∀ q, q ≠ victim → t.disk.blockAt q = s.disk.blockAt q
  counters : t.counters = { s.counters with
    misses := s.counters.misses + misses
    evictions := s.counters.evictions + 1
    writes := s.counters.writes + if (s.frame f).dirty then 1 else 0 }

theorem loses_vacated (h : s.Sound) (full : s.free = []) (chosen : s.IsVictim f victim) :
    s.Loses ((((s.missed misses).saved f victim).vacated f victim).tallied evictionCounted)
      f victim misses := by
  have held := (h.table_iff victim f).mp chosen.resident
  have next := (h.addressable f victim held).1
  have missing : ∀ g, (s.missed misses).frame g = s.frame g := fun _ => rfl
  -- Nothing but saving the victim touches the file.
  have disk : (((((s.missed misses).saved f victim).vacated f victim).tallied
      evictionCounted)).disk = _ := (s.missed misses).disk_saved_of_next f next
  constructor
  case table =>
    intro q
    refine (table_vacated _ f victim q).trans ?_
    rw [table_saved]
    by_cases same : q = victim
    · rw [if_pos same.symm, if_pos same]
    · rw [if_neg (Ne.symm same), if_neg same]
      rfl
  case frame =>
    intro g
    refine (frame_vacated _ f g victim).trans ?_
    rw [frame_saved _ _ _ next, if_pos rfl, frame_saved _ _ _ next, missing, missing]
    by_cases same : g = f
    · simp [same, Frame.reset, Frame.clearDirty, Frame.empty, chosen.unpinned]
    · rw [if_neg (Ne.symm same), if_neg (Ne.symm same), if_neg same]
  case free =>
    show f :: ((s.missed misses).saved f victim).free = [f]
    rw [free_saved]
    exact congrArg _ full
  case recency =>
    show ((s.missed misses).saved f victim).recency.remove f = s.recency.remove f
    rw [recency_saved]
    rfl
  case clean =>
    intro clean
    rw [disk, missing, if_neg (by simp [clean])]
    rfl
  case saved =>
    intro newer
    rw [disk, missing, if_pos newer]
    refine ⟨?counted, s.disk.read?_written victim _ next, ?others⟩
    case counted =>
      show victim.index < (s.disk.written victim _ next).blockCount
      rw [Disk.blockCount_written]
      exact Nat.le_max_right ..
    case others =>
      intro q apart
      exact (s.disk.blockAt_written victim _ next q).trans (if_neg apart)
  case counters =>
    show evictionCounted ((s.missed misses).saved f victim).counters = _
    rw [counters_saved (s.missed misses) f next]
    rfl

/-! ### Pages that do not come -/

/-- Why a page that is not resident did not come, and what the attempt has left. -/
inductive Unadmitted (s : Pool size pageSize) (page : PageId) (fill : Fill pageSize) (misses : Nat) :
    StoreError → Pool size pageSize → Prop
  | saturated (full : s.free = []) (pinned : ∀ f, 0 < (s.frame f).pins) :
      Unadmitted s page fill misses (.poolSaturated size) (s.missed misses)
  /-- The victim is newer than the file and is not written to it. -/
  | stuck {f : Fin size} {victim : PageId} {t : Pool size pageSize} (full : s.free = [])
      (chosen : s.IsVictim f victim) (newer : (s.frame f).dirty = true)
      (refused : ¬ s.disk.Takes victim)
      (retains : s.Retains t f victim misses) :
      Unadmitted s page fill misses (s.disk.refusal victim) t
  /-- There was a free frame, but the block could not be loaded. -/
  | unread {e : StoreError} (loads : fill = .load) (free : s.free ≠ [])
      (source : Fill.load.source s.disk page = .error e) :
      Unadmitted s page fill misses e (s.missed misses)
  /-- The victim has made room, and then the block could not be loaded. -/
  | evicted {e : StoreError} {f : Fin size} {victim : PageId} {t : Pool size pageSize}
      (loads : fill = .load) (full : s.free = []) (chosen : s.IsVictim f victim)
      (saves : (s.frame f).dirty = true → s.disk.Takes victim)
      (source : Fill.load.source t.disk page = .error e) (loses : s.Loses t f victim misses) :
      Unadmitted s page fill misses e t

/-- Bytes that are at hand can always be put into a frame. -/
theorem loads_of_source_error {d : Disk pageSize} (source : fill.source d page = .error e) :
    fill = .load := by
  cases fill with
  | load => rfl
  | put => cases source

theorem Admits.unadmitted (h : s.Sound) (admits : (s.missed misses).Admits page fill (.error e) t) :
    s.Unadmitted page fill misses e t := by
  cases admits with
  | full lacks =>
    cases lacks with
    | saturated full pinned => exact .saturated full fun f => of_decide_eq_true (pinned f)
    | stuck full oldest held newer refused =>
      have chosen := isVictim_of_oldest h oldest held
      exact .stuck full chosen newer refused (retains_touched h chosen newer)
  | unread room source =>
    obtain rfl := loads_of_source_error source
    cases room with
    | free head =>
      have some : s.free ≠ [] := by
        rw [show s.free = _ from head]
        exact List.cons_ne_nil _ _
      exact .unread rfl some source
    | evict full oldest held saves =>
      have chosen := isVictim_of_oldest h oldest held
      exact .evicted rfl full chosen saves source (loses_vacated h full chosen)

/-- What an error of the file says is nothing about frames. -/
theorem not_refusal_of_source (source : fill.source s.disk page = .error e) :
    e.isRefusal = false := by
  cases fill with
  | put => cases source
  | load =>
    unfold Fill.source Disk.block? at source
    grind [StoreError.isRefusal, Except.map]

theorem not_refusal_refusal (d : Disk pageSize) (page : PageId) :
    (d.refusal page).isRefusal = false := by
  unfold Disk.refusal
  split
  · split <;> rfl
  · rfl

end Pool

/-! ### Requests -/

/-- What a request asks for if its page is not resident: where the bytes come from, and how many
misses it counts. -/
inductive PoolRequest.Seeks {pageSize : Nat} :
    PoolRequest → PageId → Pool.Fill pageSize → Nat → Prop
  | fetch (page : PageId) (access : Access) (name : String) :
      Seeks (.fetch page access name) page .load 1
  | read (page : PageId) : Seeks (.read page) page .load 1
  | write (page : PageId) (block : Block pageSize) :
      Seeks (.write page block.toArray) page (.put block) 1
  | create (page : PageId) : Seeks (.create page) page (.put .zero) 0

/-- The request brings a page in or drops one. -/
def PoolRequest.places : PoolRequest → Bool
  | .fetch .. | .read _ | .write .. | .create _ | .invalidate _ => true
  | _ => false

namespace Pool

variable {size pageSize : Nat} {s t : Pool size pageSize} {request : PoolRequest} {page : PageId}
  {e : StoreError}

/-- Why a request has failed, and what it has left. -/
inductive Footprint (s : Pool size pageSize) : PoolRequest → StoreError → Pool size pageSize → Prop
  | mismatched {page : PageId} {bytes : Array UInt8} (wrong : bytes.size ≠ pageSize) :
      Footprint s (.write page bytes) (.pageSizeMismatch pageSize bytes.size) s
  | pinned {request : PoolRequest} {page : PageId} {f : Fin size}
      (ends : request = .create page ∨ request = .invalidate page)
      (resident : s.table[page]? = some f) (pinned : 0 < (s.frame f).pins) :
      Footprint s request (.pagePinned page) s
  | unadmitted {request : PoolRequest} {page : PageId} {fill : Fill pageSize} {misses : Nat}
      {e : StoreError} {t : Pool size pageSize} (seeks : request.Seeks page fill misses)
      (absent : s.table[page]? = none) (unadmitted : s.Unadmitted page fill misses e t) :
      Footprint s request e t

/-- A request fails on a miss only if the page is not brought in. -/
theorem footprint_of_admits {α : Type} {act : Action (Pool size pageSize) α} {fill : Fill pageSize}
    {misses : Nat} {r : Except StoreError (Fin size)} {u : Pool size pageSize}
    {answer : Fin size → α} {left : Fin size → Pool size pageSize} (h : s.Sound)
    (seeks : request.Seeks page fill misses) (absent : s.table[page]? = none)
    (missed : act s = match r with
      | .ok f => .ok (answer f) (left f)
      | .error e => .error (.error e) u)
    (admits : (s.missed misses).Admits page fill r u) (ran : act s = .error (.error e) t) :
    s.Footprint request e t := by
  rw [ran] at missed
  cases r with
  | ok f => cases missed
  | error e =>
    cases missed
    exact .unadmitted seeks absent (admits.unadmitted h)

theorem fetch_footprint (h : s.Sound) (addressable : page.Addressable pageSize)
    (seeks : request.Seeks page (.load : Fill pageSize) 1)
    (ran : fetch page s = .error (.error e) t) : s.Footprint request e t := by
  cases resident : s.table[page]? with
  | some f =>
    by_cases room : (s.frame f).pins + 1 < Frame.pinLimit
    · rw [fetch_hit h resident room] at ran
      cases ran
    · simp [fetch, pinPage_overflow resident room] at ran
  | none =>
    obtain ⟨r, u, admits, fetched⟩ := (fetch_miss h resident addressable).sure
    exact footprint_of_admits h seeks resident fetched admits ran

theorem read_footprint (h : s.Sound) (addressable : page.Addressable pageSize)
    (ran : read page s = .error (.error e) t) : s.Footprint (.read page) e t := by
  cases resident : s.table[page]? with
  | some f =>
    by_cases room : (s.frame f).pins + 1 < Frame.pinLimit
    · rw [read_hit h resident room] at ran
      cases ran
    · simp [read, fetch, pinPage_overflow resident room] at ran
  | none =>
    obtain ⟨r, u, admits, missed⟩ := (read_miss h resident addressable).sure
    exact footprint_of_admits h (.read page) resident missed admits ran

theorem write_footprint (h : s.Sound) (addressable : page.Addressable pageSize)
    {bytes : Array UInt8} (ran : write page bytes s = .error (.error e) t) :
    s.Footprint (.write page bytes) e t := by
  cases fits : (Block.ofArray? bytes : Option (Block pageSize)) with
  | none =>
    simp only [write, fits, Action.run_reject] at ran
    cases ran
    exact .mismatched (Block.ofArray?_eq_none_iff.mp fits)
  | some block =>
    obtain rfl := Block.ofArray?_eq_some_iff.mp fits
    simp only [write, fits] at ran
    cases resident : s.table[page]? with
    | some f =>
      by_cases room : (s.frame f).pins + 1 < Frame.pinLimit
      · rw [writeBlock_hit h resident room] at ran
        cases ran
      · simp [writeBlock, pinPage_overflow resident room] at ran
    | none =>
      obtain ⟨r, u, admits, missed⟩ := (writeBlock_miss h resident addressable block).sure
      exact footprint_of_admits h (.write page block) resident missed admits ran

theorem create_footprint (h : s.Sound) (addressable : page.Addressable pageSize)
    (ran : create page s = .error (.error e) t) : s.Footprint (.create page) e t := by
  cases resident : s.table[page]? with
  | some f =>
    rw [create_hit resident] at ran
    split at ran
    · next busy =>
      cases ran
      exact .pinned (.inl rfl) resident (of_decide_eq_true busy)
    · cases ran
  | none =>
    obtain ⟨r, u, admits, missed⟩ := (create_miss h resident addressable).sure
    -- Making a page is not counted as a miss.
    have admits : (s.missed 0).Admits page (.put .zero) r u := admits
    exact footprint_of_admits h (.create page) resident missed admits ran

theorem invalidate_footprint (ran : invalidate page s = .error (.error e) t) :
    s.Footprint (.invalidate page) e t := by
  rw [invalidate_eq] at ran
  cases resident : s.table[page]? with
  | none => simp [resident] at ran
  | some f =>
    simp only [resident] at ran
    split at ran
    · next busy =>
      cases ran
      exact .pinned (.inr rfl) resident (of_decide_eq_true busy)
    · cases ran

end Pool

namespace GuardedPool

variable {size pageSize : Nat} {s t : GuardedPool size pageSize} {request : PoolRequest}
  {outcome : Outcome PoolReply} {e : StoreError}

/-- A request that fails is its action that fails. -/
theorem error_of_perform {α : Type} {act : Action (Pool size pageSize) α} {reply : α → PoolReply}
    {why : Failure} (failed : s.perform act reply = (.failed why, t)) :
    act s.pool = .error why t.pool ∧ t.guards = s.guards := by
  unfold perform Outcome.ofAction at failed
  cases ran : act s.pool with
  | ok a pool =>
    simp only [ran, Outcome.map] at failed
    cases failed
  | error why pool =>
    simp only [ran, Outcome.map] at failed
    cases failed
    exact ⟨rfl, rfl⟩

/-- A request that has failed has been made, for it need not wait. -/
theorem serve_of_failed (steps : s.Steps request outcome t) (places : request.places = true)
    {why : Failure} (failed : outcome = .failed why) : s.serve request = (.failed why, t) := by
  cases steps with
  | made =>
    by_cases waits : s.waitsForItself request = true
    · rw [step, if_pos waits] at failed
      cases failed
    · rw [step, if_neg waits] at failed ⊢
      exact Prod.ext failed rfl
  | flushed => cases places

/-- One step: a request that fails leaves what its cause says, and no guard is taken or given up. -/
theorem Latched.footprint (h : s.Latched) (small : pageSize < 0x100000000)
    (numbered : request.Numbered) (places : request.places = true)
    (served : s.serve request = (.failed (.error e), t)) :
    s.pool.Footprint request e t.pool ∧ t.guards = s.guards := by
  cases request with
  | fetch page access name =>
    have fetched : s.fetch page access name = (.failed (.error e), t) := served
    unfold GuardedPool.fetch at fetched
    split at fetched
    · cases fetched
    · cases ran : Pool.fetch page s.pool with
      | ok f pool =>
        simp only [ran] at fetched
        cases fetched
      | error why pool =>
        simp only [ran] at fetched
        cases fetched
        exact ⟨Pool.fetch_footprint h.sound (.of_small numbered small) (.fetch ..) ran, rfl⟩
  | read page =>
    obtain ⟨ran, guards⟩ := error_of_perform served
    exact ⟨Pool.read_footprint h.sound (.of_small numbered small) ran, guards⟩
  | write page bytes =>
    obtain ⟨ran, guards⟩ := error_of_perform served
    exact ⟨Pool.write_footprint h.sound (.of_small numbered small) ran, guards⟩
  | create page =>
    obtain ⟨ran, guards⟩ := error_of_perform served
    exact ⟨Pool.create_footprint h.sound (.of_small numbered small) ran, guards⟩
  | invalidate page =>
    obtain ⟨ran, guards⟩ := error_of_perform served
    exact ⟨Pool.invalidate_footprint ran, guards⟩
  | _ => cases places

namespace Runs

variable {history : List (PoolRequest × Outcome PoolReply)}

end Runs

end GuardedPool

end PagedStorage
