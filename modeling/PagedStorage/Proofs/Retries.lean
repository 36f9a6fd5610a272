import PagedStorage.Proofs.Saturation

/-!
# Requests that are made again

A request for a page that is not resident fails if the victim cannot be written to the file. The victim
stays then, as the page used last, so when the request is made again it is the turn of another one. No
page has its turn twice before each page without a guard has had one. If there is one among these that
can leave, the request is done when its turn comes, at the latest, and all victims before it are where
they were (`Runs.retries_until_done`).
-/

namespace PagedStorage

namespace Pool

variable {size pageSize misses : Nat} {s t : Pool size pageSize} {f g : Fin size}
  {page victim last : PageId} {block : Block pageSize} {waiting : Finset PageId}

/-! ### Turns -/

/-- Of the pages without a pin, only those that are waiting may have their turn before the last one:
all others were used after it. -/
def OnlyBefore (s : Pool size pageSize) (last : PageId) (waiting : Finset PageId) : Prop :=
  ∀ (q : PageId) (g : Fin size), s.table[q]? = some g → (s.frame g).pins = 0 → q ≠ last →
    q ∉ waiting → ∃ earlier later, s.lastUse? last = some earlier ∧ s.lastUse? q = some later ∧
      earlier < later

theorem OnlyBefore.eq_or_waits (h : s.OnlyBefore last waiting) (chosen : s.IsVictim f victim)
    (there : s.table[last]? = some g) (unpinned : (s.frame g).pins = 0) :
    victim = last ∨ victim ∈ waiting := by
  by_contra neither
  obtain ⟨apart, gone⟩ := not_or.mp neither
  -- The victim was used before all others, so also before the last one.
  obtain ⟨a, b, known, also, before⟩ := chosen.oldest last g there unpinned (Ne.symm apart)
  obtain ⟨c, d, same, too, after⟩ := h victim f chosen.resident chosen.unpinned apart gone
  rw [also] at same
  rw [known] at too
  cases same
  cases too
  exact absurd before (Nat.lt_asymm after)

/-- A victim that stays has had its turn. -/
theorem OnlyBefore.retained (h : s.OnlyBefore last waiting) (chosen : s.IsVictim f victim)
    (there : s.table[last]? = some g) (unpinned : (s.frame g).pins = 0) (apart : victim ≠ last)
    (retains : s.Retains t f victim misses) : t.OnlyBefore last (waiting.erase victim) := by
  obtain ⟨kept, passed⟩ := retains.latest last (Ne.symm apart)
  intro q g' found loose other gone
  by_cases now : q = victim
  · subst now
    obtain ⟨a, b, -, known, -⟩ := chosen.oldest last g there unpinned (Ne.symm apart)
    obtain ⟨time, latest, after⟩ := passed b (kept.trans known)
    exact ⟨b, time, kept.trans known, latest, after⟩
  · rw [kept, (retains.latest q now).1]
    rw [retains.only] at found loose
    exact h q g' found loose other fun waits => gone (Finset.mem_erase.mpr ⟨now, waits⟩)

/-- A victim that stays changes nothing but the order of use and its own place in the file, so whoever
could be written before it can be written after it. -/
theorem Retains.same (retains : s.Retains t f victim misses) :
    t.table = s.table ∧ t.free = s.free ∧ (∀ q, t.disk.Takes q ↔ s.disk.Takes q) ∧
      ∀ g, t.frame g = s.frame g := by
  rw [retains.only]
  exact ⟨rfl, rfl, fun _ => Disk.takes_spoiled_iff .., fun _ => rfl⟩

/-- A page has come in the place of the victim, with bytes that are newer than the file. -/
structure Replaces (s t : Pool size pageSize) (f : Fin size) (victim page : PageId)
    (block : Block pageSize) : Prop where
  table : ∀ q : PageId, t.table[q]? =
    if q = page then some f else if q = victim then none else s.table[q]?
  frame : ∀ g, t.frame g = if g = f then ⟨block, some page, 0, true⟩ else s.frame g

theorem Loses.replaces {change : Counters → Counters} (loses : s.Loses t f victim misses) :
    s.Replaces ((t.admitted f page block true).tallied change) f victim page block := by
  constructor
  case table =>
    intro q
    refine (table_admitted t f page q block true).trans ?_
    simp only [loses.table q, eq_comm (a := page)]
  case frame =>
    intro g
    refine (frame_admitted t f g page block true).trans ?_
    rw [loses.frame, loses.frame, if_pos rfl]
    by_cases same : g = f
    · rw [if_pos same.symm, if_pos same]
      rfl
    · rw [if_neg (Ne.symm same), if_neg same, if_neg same]

/-- In a pool without a free frame, a page with its bytes comes in the place of the victim or not at
all. -/
theorem Admits.turns (h : s.Sound) (full : s.free = []) {r : Except StoreError (Fin size)}
    (admits : (s.missed misses).Admits page (.put block) r t)
    (loose : ∃ g, (s.frame g).pins = 0) :
    ∃ f victim, s.IsVictim f victim ∧
      match r with
      | .ok _ => s.Replaces t f victim page block
      | .error e => e = s.disk.refusal victim ∧ (s.frame f).dirty = true ∧
          ¬ s.disk.Takes victim ∧ s.Retains t f victim misses := by
  cases admits with
  | full lacks =>
    cases lacks with
    | saturated _ pinned =>
      obtain ⟨g, unpinned⟩ := loose
      have busy : 0 < (s.frame g).pins := of_decide_eq_true (pinned g)
      exact absurd unpinned (Nat.ne_of_gt busy)
    | stuck _ oldest held newer refused =>
      have chosen := isVictim_of_oldest h oldest held
      exact ⟨_, _, chosen, rfl, newer, refused, retains_touched h chosen newer⟩
  | unread _ source => cases source
  | enters room source =>
    cases source
    cases room with
    | free head =>
      have some : s.free = _ := head
      rw [full] at some
      cases some
    | evict _ oldest held saves =>
      have chosen := isVictim_of_oldest h oldest held
      exact ⟨_, _, chosen, (loses_vacated h full chosen).replaces⟩

end Pool

namespace GuardedPool

variable {size pageSize misses : Nat} {s t : GuardedPool size pageSize} {request : PoolRequest}
  {page last : PageId} {g : Fin size} {block : Block pageSize}

/-! ### Attempts -/

/-- The request is made until it is done. Before that it fails for one victim after the other, whose
bytes cannot be written to the file. -/
inductive Retried (request : PoolRequest) :
    GuardedPool size pageSize → List PageId → GuardedPool size pageSize → Prop
  | done {s t : GuardedPool size pageSize} {reply : PoolReply}
      (served : s.step request = (.done reply, t)) : Retried request s [] t
  | again {s t u : GuardedPool size pageSize} {f : Fin size} {victim : PageId}
      {victims : List PageId} (chosen : s.pool.IsVictim f victim)
      (newer : (s.pool.frame f).dirty = true)
      (refused : ¬ s.pool.disk.Takes victim)
      (failed : s.step request = (.failed (.error (s.pool.disk.refusal victim)), t))
      (rest : Retried request t victims u) : Retried request s (victim :: victims) u

/-- One attempt: the page comes in the place of the victim, or the victim is retained. -/
theorem Latched.attempt (h : s.Latched) (small : pageSize < 0x100000000)
    (numbered : request.Numbered) (seeks : request.Seeks page (.put block) misses)
    (absent : s.pool.table[page]? = none) (full : s.pool.free = [])
    (loose : ∃ g, (s.pool.frame g).pins = 0) :
    ∃ f victim t, s.pool.IsVictim f victim ∧ t.guards = s.guards ∧
      ((∃ reply, s.step request = (.done reply, t) ∧ s.pool.Replaces t.pool f victim page block) ∨
        s.step request = (.failed (.error (s.pool.disk.refusal victim)), t) ∧
          (s.pool.frame f).dirty = true ∧
          ¬ s.pool.disk.Takes victim ∧
          s.pool.Retains t.pool f victim misses) := by
  have names : s.Names request := by
    cases seeks <;> trivial
  obtain ⟨r, pool, admits, served⟩ := h.serve_miss small numbered seeks absent names
  obtain ⟨f, victim, chosen, left⟩ := admits.turns h.sound full loose
  rw [h.step_of_absent seeks absent]
  refine ⟨f, victim, { s with pool }, chosen, rfl, ?_⟩
  cases r with
  | ok f' =>
    obtain ⟨reply, u, ran, rfl | ⟨loads, -⟩⟩ := served
    · exact .inl ⟨reply, ran, left⟩
    · cases loads
  | error e =>
    obtain ⟨rfl, newer, refused, retains⟩ := left
    exact .inr ⟨served, newer, refused, retains⟩

/-- What the attempts have come to, if only the pages that are waiting come before the last one. -/
structure Settled (s t : GuardedPool size pageSize) (page : PageId) (block : Block pageSize)
    (last : PageId) (waiting : Finset PageId) (victims : List PageId) : Prop where
  distinct : victims.Nodup
  waited : ∀ victim ∈ victims, victim ∈ waiting
  newer : ∀ victim ∈ victims, ∃ f, s.pool.table[victim]? = some f ∧ (s.pool.frame f).dirty = true
  /-- Whoever was asked in vain is where it was, and so are all that were not asked. -/
  kept : ∀ (q : PageId) (f : Fin size), s.pool.table[q]? = some f → q ≠ last →
    (q ∈ waiting → q ∈ victims) → t.pool.table[q]? = some f ∧ t.pool.frame f = s.pool.frame f
  entered : ∃ f, t.pool.table[page]? = some f ∧ t.pool.frame f = ⟨block, some page, 0, true⟩
  guards : t.guards = s.guards

/-- Nothing but the order of use has changed with a victim that stays. -/
theorem Settled.cons {u : GuardedPool size pageSize} {f : Fin size} {victim : PageId}
    {waiting : Finset PageId} {victims : List PageId}
    (settled : t.Settled u page block last (waiting.erase victim) victims)
    (table : t.pool.table = s.pool.table) (frame : ∀ f, t.pool.frame f = s.pool.frame f)
    (guards : t.guards = s.guards) (waits : victim ∈ waiting)
    (there : s.pool.table[victim]? = some f) (newer : (s.pool.frame f).dirty = true) :
    s.Settled u page block last waiting (victim :: victims) := by
  constructor
  case distinct =>
    have once : victim ∉ victims := fun again => Finset.notMem_erase _ _ (settled.waited _ again)
    exact List.nodup_cons.mpr ⟨once, settled.distinct⟩
  case waited =>
    intro q asked
    rcases List.mem_cons.mp asked with rfl | later
    · exact waits
    · exact Finset.mem_of_mem_erase (settled.waited q later)
  case newer =>
    intro q asked
    rcases List.mem_cons.mp asked with rfl | later
    · exact ⟨f, there, newer⟩
    · obtain ⟨g, found, dirty⟩ := settled.newer q later
      exact ⟨g, table ▸ found, frame g ▸ dirty⟩
  case kept =>
    intro q g found apart asked
    rw [← frame]
    apply settled.kept q g (table ▸ found) apart
    intro still
    obtain ⟨other, also⟩ := Finset.mem_erase.mp still
    exact List.mem_of_ne_of_mem other (asked also)
  case entered => exact settled.entered
  case guards => exact settled.guards.trans guards

/-- The page comes in the place of one that was not kept. -/
theorem Latched.settled_of_replaces (h : s.Latched) {f : Fin size} {victim : PageId}
    {waiting : Finset PageId} (absent : s.pool.table[page]? = none)
    (chosen : s.pool.IsVictim f victim) (turn : victim = last ∨ victim ∈ waiting)
    (replaces : s.pool.Replaces t.pool f victim page block) (guards : t.guards = s.guards) :
    s.Settled t page block last waiting [] := by
  constructor
  case distinct => exact List.nodup_nil
  case waited => nofun
  case newer => nofun
  case kept =>
    intro q g found apart unasked
    have other : q ≠ victim := by
      rintro rfl
      rcases turn with same | waits
      · exact apart same
      · cases unasked waits
    have new : q ≠ page := by
      rintro rfl
      simp [absent] at found
    have held := (h.sound.table_iff victim f).mp chosen.resident
    rw [replaces.table, if_neg new, if_neg other, replaces.frame,
      if_neg (h.sound.frame_ne held found other).symm]
    exact ⟨found, rfl⟩
  case entered =>
    refine ⟨f, ?_, ?_⟩
    · rw [replaces.table, if_pos rfl]
    · rw [replaces.frame, if_pos rfl]
  case guards => exact guards

/-- A run of attempts: each one that fails leaves one page less to be asked before the last one. -/
theorem Latched.retried (h : s.Latched) (small : pageSize < 0x100000000)
    (numbered : request.Numbered) (seeks : request.Seeks page (.put block) misses)
    (absent : s.pool.table[page]? = none) (full : s.pool.free = [])
    (there : s.pool.table[last]? = some g) (unpinned : (s.pool.frame g).pins = 0)
    (saves : (s.pool.frame g).dirty = true → s.pool.disk.Takes last)
    {waiting : Finset PageId} (before : s.pool.OnlyBefore last waiting) :
    ∃ victims t, Retried request s victims t ∧ s.Settled t page block last waiting victims := by
  -- The pages that wait get fewer with every attempt, and all else is the same for the next one.
  induction waiting using Finset.eraseInduction generalizing s with
  | H waiting ih =>
    obtain ⟨f, victim, t, chosen, guards, attempted⟩ :=
      h.attempt small numbered seeks absent full ⟨g, unpinned⟩
    have turn := before.eq_or_waits chosen there unpinned
    rcases attempted with ⟨reply, served, replaces⟩ | ⟨failed, newer, refused, retains⟩
    · exact ⟨[], t, .done served, h.settled_of_replaces absent chosen turn replaces guards⟩
    · have apart : victim ≠ last := by
        rintro rfl
        rw [chosen.resident] at there
        cases there
        exact refused (saves newer)
      have waits := turn.resolve_left apart
      have latched : t.Latched := by
        have steps := Steps.made (s := s) request
        rw [failed] at steps
        exact h.moved ((h.steps small numbered steps).unbroken nofun)
      obtain ⟨table, free, takes_iff, frame⟩ := retains.same
      obtain ⟨victims, u, retried, settled⟩ := ih victim waits latched (table ▸ absent)
        (free.trans full) (table ▸ there) (frame g ▸ unpinned)
        (frame g ▸ fun newer => (takes_iff last).mpr (saves newer))
        (before.retained chosen there unpinned apart retains)
      exact ⟨victim :: victims, u, .again chosen newer refused failed retried,
        settled.cons table frame guards waits chosen.resident newer⟩

/-! ### Runs -/

/-- The resident pages without a guard. -/
def unheld (s : GuardedPool size pageSize) : List PageId :=
  (s.pool.table.toList.map Prod.fst).filter fun page => !s.isHeld page

theorem mem_unheld_iff : page ∈ s.unheld ↔ s.Resident page ∧ s.isHeld page = false := by
  simp [unheld, Resident]

/-- What the attempts have come to. -/
structure Endures (s t : GuardedPool size pageSize) (page : PageId) (block : Block pageSize)
    (victims : List PageId) : Prop where
  /-- No page has its turn twice. -/
  distinct : victims.Nodup
  unheld : ∀ victim ∈ victims, victim ∈ s.unheld
  few : victims.length + 1 ≤ s.unheld.length
  /-- Whoever could not be written is where it was, with its newer bytes. -/
  kept : ∀ victim ∈ victims, ∃ f, s.pool.table[victim]? = some f ∧
    t.pool.table[victim]? = some f ∧ (t.pool.frame f).dirty = true ∧
    t.pool.frame f = s.pool.frame f
  entered : ∃ f, t.pool.table[page]? = some f ∧ t.pool.frame f = ⟨block, some page, 0, true⟩
  guards : t.guards = s.guards

theorem Settled.endures {victims : List PageId} (resident : last ∈ s.unheld)
    (settled : s.Settled t page block last (s.unheld.toFinset.erase last) victims) :
    s.Endures t page block victims := by
  constructor
  case distinct => exact settled.distinct
  case unheld =>
    intro victim asked
    exact List.mem_toFinset.mp (Finset.mem_of_mem_erase (settled.waited victim asked))
  case few =>
    have waited : victims.toFinset ⊆ s.unheld.toFinset.erase last :=
      fun victim asked => settled.waited victim (List.mem_toFinset.mp asked)
    have fewer := Finset.card_le_card waited
    rw [List.toFinset_card_of_nodup settled.distinct] at fewer
    have one := Finset.card_erase_add_one (List.mem_toFinset.mpr resident)
    have most := s.unheld.toFinset_card_le
    omega
  case kept =>
    intro victim asked
    obtain ⟨f, found, newer⟩ := settled.newer victim asked
    have apart := Finset.ne_of_mem_erase (settled.waited victim asked)
    obtain ⟨there, same⟩ := settled.kept victim f found apart fun _ => asked
    exact ⟨f, found, there, same ▸ newer, same⟩
  case entered => exact settled.entered
  case guards => exact settled.guards

namespace Runs

variable {history : List (PoolRequest × Outcome PoolReply)}

/-- Whatever has been asked of a pool since it was new, and whatever happened to its file meanwhile:
if no frame is free and some page without a guard can leave, then a request that brings its own bytes
need only be made again. It is done after at most as many attempts as there are pages without a guard,
and every attempt that fails does so for another victim, which stays with its newer bytes. -/
theorem retries_until_done (small : pageSize < 0x100000000) {disk : Disk pageSize}
    {pool : Pool size pageSize} (made : Pool.ofDisk disk = .ok pool)
    (runs : Runs ⟨pool, []⟩ history s) (full : s.pool.free = [])
    (there : s.pool.table[last]? = some g) (unheld : s.isHeld last = false)
    (leaves : (s.pool.frame g).dirty = true → s.pool.disk.Takes last)
    (numbered : request.Numbered) (seeks : request.Seeks page (.put block) misses)
    (absent : ¬ s.Resident page) :
    ∃ victims t, Retried request s victims t ∧ s.Endures t page block victims := by
  have latched := runs.latched (latched_ofDisk made) small
  have unpinned := (latched.isHeld_eq_false_iff there).mp unheld
  have resident : last ∈ s.unheld := mem_unheld_iff.mpr ⟨by simp [Resident, there], unheld⟩
  -- At first all other pages without a guard may come before.
  have before : s.pool.OnlyBefore last (s.unheld.toFinset.erase last) := by
    intro q f found loose apart gone
    refine absurd (Finset.mem_erase.mpr ⟨apart, List.mem_toFinset.mpr ?_⟩) gone
    exact mem_unheld_iff.mpr ⟨by simp [Resident, found],
      (latched.isHeld_eq_false_iff found).mpr loose⟩
  obtain ⟨victims, t, retried, settled⟩ := latched.retried small numbered seeks
    (not_not.mp absent) full there unpinned leaves before
  exact ⟨victims, t, retried, settled.endures resident⟩

/-- The third page has no room in the file, and the first was read after it. A fourth page is made at
the second attempt, when it is the turn of the first. -/
theorem retries_until_done_once :
    let stuck : PageId := ⟨2, by decide⟩
    let clean : PageId := ⟨0, by decide⟩
    let sought : PageId := ⟨3, by decide⟩
    let s := ((twoFrames.step (.create stuck)).2.step (.read clean)).2
    Runs twoFrames
      [(.create stuck, .done .done), (.read clean, .done (.page ⟨clean, #[0, 0]⟩))] s ∧
      (s.step (.create sought)).1 = .failed (.error (.allocationExhausted 6 4)) ∧
      ((s.step (.create sought)).2.step (.create sought)).1 = .done .done ∧
      ∃ victims t, Retried (.create sought) s victims t ∧ s.Endures t sought .zero victims := by
  intro stuck clean sought s
  have runs : Runs twoFrames
      [(.create stuck, .done .done), (.read clean, .done (.page ⟨clean, #[0, 0]⟩))] s := by
    refine .cons (show 2 + 1 < 0x100000000 by decide) (.made _) (by simp) ?_
    refine .cons (show 0 + 1 < 0x100000000 by decide) (.made _) (by simp) ?_
    exact .nil _
  refine ⟨runs, by decide +kernel, by decide +kernel, ?_⟩
  have there : s.pool.table[clean]? = some 1 := rfl
  have numbered : (PoolRequest.create sought).Numbered := show 3 + 1 < 0x100000000 by decide
  have saved : (s.pool.frame 1).dirty = false := rfl
  have leaves : (s.pool.frame 1).dirty = true → s.pool.disk.Takes clean := by simp [saved]
  exact retries_until_done (by decide) rfl runs rfl there rfl leaves numbered (.create sought)
    fun resident => resident rfl

end Runs

end GuardedPool

end PagedStorage
