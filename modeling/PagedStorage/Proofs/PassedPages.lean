import PagedStorage.Proofs.Balance
import PagedStorage.Proofs.FailedRequests

/-!
# Pages that a run passes by

The bytes of a page change only if it is written, made, poked or dropped, and whoever asked for that is
told that it was done (`Changes`). A run without such a request passes the page by. Its bytes may move
between frames and file as often as they like, but they are seen as they were, and once the file has
them it keeps them (`GuardedPool.PassesBy.shown`). Nor do they come to be in no frame that is dirty and
not in the file either (`Pool.Backed`), so that there is always someone to bring them there.

A request to an engine is a few requests to its pool, and they change no page that it does not
(`Sound.passesBy`). So the same holds for runs of an engine whose pool is used past it.
-/

namespace PagedStorage

open PagedStorage.Action (Settles)

/-- The file keeps the bytes that are seen of a page. -/
theorem Pool.Writes.stores {size pageSize : Nat} {s t : Pool size pageSize}
    {frames : Finset (Fin size)} {page : PageId} {block : Block pageSize} (writes : s.Writes t frames)
    (h : s.Sound) (reliable : s.disk.Reliable) (seen : s.view page = some block)
    (stores : s.disk.Stores page block) : t.disk.Stores page block := by
  by_cases written : ∃ f ∈ frames, (s.frame f).page = some page
  · -- The page was written, with the bytes that are seen of it.
    obtain ⟨f, listed, held⟩ := written
    obtain ⟨p, named, -, stored⟩ := writes.stored f listed
    obtain rfl : page = p := Option.some.inj (held.symm.trans named)
    rw [view_of_frame h held] at seen
    exact Option.some.inj seen ▸ stored
  · obtain ⟨counted, reaches, same⟩ := Disk.stores_iff.mp stores
    have spared : ∀ f ∈ frames, (s.frame f).page ≠ some page :=
      fun f listed held => written ⟨f, listed, held⟩
    refine Disk.stores_iff.mpr ⟨?_, ?_, ?_⟩
    · exact Nat.lt_of_lt_of_le counted writes.blockCount_le
    · exact reaches.imp_right fun inside => Nat.le_trans inside writes.size_le
    · exact (writes.others page spared (Disk.unmoved_of_reliable reliable)).trans same

/-- The page has a frame that will be written back, or the file has these bytes. -/
def Pool.Backed {size pageSize : Nat} (s : Pool size pageSize) (page : PageId)
    (block : Block pageSize) : Prop :=
  (∃ f, (s.frame f).page = some page ∧ (s.frame f).dirty = true) ∨ s.disk.Stores page block

/-- A frame that is not dirty any more has left the bytes that are seen of its page in the file. -/
theorem Pool.Writes.backed {size pageSize : Nat} {s t : Pool size pageSize}
    {frames : Finset (Fin size)} {page : PageId} {block : Block pageSize} (writes : s.Writes t frames)
    (h : s.Sound) (reliable : s.disk.Reliable) (seen : s.view page = some block)
    (listed : ∀ f, (s.frame f).page = some page → f ∈ s.cleaned t → f ∈ frames)
    (backed : s.Backed page block) : t.Backed page block := by
  rcases backed with ⟨f, held, newer⟩ | stores
  · by_cases cleaned : f ∈ s.cleaned t
    · obtain ⟨p, named, -, stored⟩ := writes.stored f (listed f held cleaned)
      obtain rfl : page = p := Option.some.inj (held.symm.trans named)
      rw [view_of_frame h held] at seen
      exact .inr (Option.some.inj seen ▸ stored)
    · have still : (t.frame f).dirty = true ∧ (t.frame f).page = some page := by
        simpa [mem_cleaned_iff, newer, held] using cleaned
      exact .inl ⟨f, still.2, still.1⟩
  · exact .inr (writes.stores h reliable seen stores)

/-! ### Pools -/

namespace GuardedPool

variable {size pageSize : Nat} {s t u : GuardedPool size pageSize} {request : PoolRequest}
  {outcome : Outcome PoolReply} {page dropped : PageId} {block : Block pageSize} {f : Fin size}

/-- The request has given the page bytes, or has dropped it. -/
def Changes (s : GuardedPool size pageSize) (page : PageId) : PoolRequest → Outcome PoolReply → Prop
  | .write changed _, .done _ => changed = page
  | .create changed, .done _ => changed = page
  | .invalidate changed, .done (.flag true) => changed = page
  | .poke name .., .done _ => ∃ g, s.guards.lookup name = some g ∧ g.page = page
  | _, _ => False

theorem not_changes_of_failed {why : Failure} : ¬ s.Changes page request (.failed why) := by
  cases request <;> exact id

/-- A request that the thread need not wait for is served. -/
theorem steps_of_free (request : PoolRequest) (free : s.waitsForItself request = false) :
    s.Steps request (s.serve request).1 (s.serve request).2 := by
  have served : s.step request = s.serve request := if_neg (Bool.eq_false_iff.mp free)
  exact served ▸ .made request

/-- What becomes of a pool while a page is not changed. -/
inductive PassesBy (page : PageId) : GuardedPool size pageSize → GuardedPool size pageSize → Prop
  | refl (s : GuardedPool size pageSize) : PassesBy page s s
  | step {s t u : GuardedPool size pageSize} {request : PoolRequest} {outcome : Outcome PoolReply}
      (passes : PassesBy page s t) (numbered : request.Numbered) (steps : t.Steps request outcome u)
      (unbroken : ∀ why, outcome ≠ .failed (.fault why))
      (apart : ¬ t.Changes page request outcome) : PassesBy page s u

/-- These bytes are seen of the page, in a pool that is in order. -/
structure Shown (s : GuardedPool size pageSize) (page : PageId) (block : Block pageSize) : Prop where
  sound : s.Sound
  latched : s.Latched
  view_eq : s.pool.view page = some block
  backed : s.pool.Backed page block

theorem Shows.view_eq (shows : s.Shows t request outcome) (apart : ¬ s.Changes page request outcome)
    (seen : s.pool.view page = some block) : t.pool.view page = some block := by
  unfold Shows at shows
  split at shows
  case h_1 | h_2 => exact shows.keeps.seen page block id seen
  case h_3 =>
    obtain ⟨g, _, -, -, -, -, keeps⟩ := shows
    exact keeps.seen page block id seen
  case h_4 =>
    obtain ⟨g, _, found, -, -, -, keeps⟩ := shows
    exact keeps.seen page block (fun same => apart ⟨g, found, same.symm⟩) seen
  case h_5 | h_6 | h_7 => exact shows.2.seen page block (fun same => apart same.symm) seen
  case h_8 => exact shows.seen page block id seen

/-- A frame is not dropped with the page of another. -/
theorem Sound.frame_invalidate (h : s.Sound) (steps : s.Steps (.invalidate dropped) outcome t)
    (apart : ¬ s.Changes page (.invalidate dropped) outcome)
    (held : (s.pool.frame f).page = some page) : t.pool.frame f = s.pool.frame f := by
  cases steps
  have served : s.step (.invalidate dropped) = s.perform (Pool.invalidate dropped) .flag := rfl
  rw [served] at apart ⊢
  have ran := Pool.invalidate_eq s.pool dropped
  cases resident : s.pool.table[dropped]? with
  | none =>
    rw [resident] at ran
    rw [perform_of_ok ran]
  | some g =>
    simp only [resident] at ran
    split at ran
    · rw [perform_of_error ran]
    · rw [perform_of_ok ran] at apart ⊢
      have there := (h.proper.sound.table_iff dropped g).mp resident
      have other : g ≠ f := by
        rintro rfl
        exact apart (Option.some.inj (there.symm.trans held))
      rw [Pool.frame_tallied, Pool.frame_vacated, if_neg other]

/-- What was cleaned was written, unless it was dropped. -/
theorem Sound.mem_written (h : s.Sound) (steps : s.Steps request outcome t)
    (apart : ¬ s.Changes page request outcome) (held : (s.pool.frame f).page = some page)
    (cleaned : f ∈ s.pool.cleaned t.pool) :
    f ∈ (⟨s, request, outcome, t⟩ : PoolEvent size pageSize).written := by
  cases request with
  | invalidate dropped =>
    -- A page that is dropped is cleaned too, but it is not this one.
    rw [Pool.mem_cleaned_iff, h.frame_invalidate steps apart held] at cleaned
    exact absurd rfl (cleaned.2 cleaned.1)
  | _ => exact cleaned

/-- One step. -/
theorem Shown.steps (h : s.Shown page block) (small : pageSize < 0x100000000)
    (numbered : request.Numbered) (steps : s.Steps request outcome t)
    (unbroken : ∀ why, outcome ≠ .failed (.fault why)) (apart : ¬ s.Changes page request outcome) :
    t.Shown page block ∧
      (s.pool.disk.Stores page block → t.pool.disk.Stores page block) := by
  obtain ⟨ends, shows⟩ := h.sound.steps small numbered steps
  have moves := (h.latched.steps small numbered steps).unbroken unbroken
  have books : (⟨s, request, outcome, t⟩ : PoolEvent size pageSize).Booked :=
    h.latched.steps_books small numbered steps unbroken
  have reliable := h.sound.proper.reliable
  constructor
  · refine ⟨ends.sound unbroken, h.latched.moved moves, shows.view_eq apart h.view_eq, ?_⟩
    exact books.writes.backed h.latched.sound reliable h.view_eq
      (fun _ held => h.sound.mem_written steps apart held) h.backed
  · exact books.writes.stores h.latched.sound reliable h.view_eq

namespace PassesBy

theorem one (numbered : request.Numbered) (steps : s.Steps request outcome t)
    (unbroken : ∀ why, outcome ≠ .failed (.fault why)) (apart : ¬ s.Changes page request outcome) :
    s.PassesBy page t := (refl s).step numbered steps unbroken apart

theorem trans (before : s.PassesBy page t) (after : t.PassesBy page u) : s.PassesBy page u := by
  induction after with
  | refl => exact before
  | step _ numbered steps unbroken apart ih => exact ih.step numbered steps unbroken apart

/-- A run. -/
theorem shown (passes : s.PassesBy page t) (h : s.Shown page block) (small : pageSize < 0x100000000) :
    t.Shown page block ∧
      (s.pool.disk.Stores page block → t.pool.disk.Stores page block) := by
  -- `Shown.steps` is one request; what the file keeps is handed on to the next.
  induction passes with
  | refl => exact ⟨h, id⟩
  | step _ numbered steps unbroken apart ih =>
    obtain ⟨shown, still⟩ := ih
    obtain ⟨after, kept⟩ := shown.steps small numbered steps unbroken apart
    exact ⟨after, kept ∘ still⟩

section Performed

variable {α : Type} {act : Action (Pool size pageSize) α} {reply : α → PoolReply}
  {pool : Pool size pageSize} (numbered : request.Numbered)
  (steps : s.Steps request (s.perform act reply).1 (s.perform act reply).2)
include numbered steps

theorem of_ok {a : α} (ran : act s.pool = .ok a pool)
    (apart : ¬ s.Changes page request (.done (reply a))) : s.PassesBy page { s with pool } := by
  rw [perform_of_ok ran] at steps
  exact one numbered steps nofun apart

theorem of_error {why : StoreError} (ran : act s.pool = .error (.error why) pool) :
    s.PassesBy page { s with pool } := by
  rw [perform_of_error ran] at steps
  exact one numbered steps nofun not_changes_of_failed

/-- A request that changes nothing, however it ends. -/
theorem settles (apart : ∀ outcome, ¬ s.Changes page request outcome) :
    Settles act s.pool (fun pool => s.PassesBy page { s with pool }) fun _ => True := by
  cases ran : act s.pool with
  | ok a pool => exact .of_ok ran (of_ok numbered steps ran (apart _))
  | error why pool =>
    cases why with
    | error why => exact .of_error ran (of_error numbered steps ran)
    | fault why => exact .of_fault ran trivial

end Performed

end PassesBy

end GuardedPool

/-! ### Engines -/

namespace Engine

variable {config : Config} {e : Engine config} {page : PageId}
  {order : List (PageId × Fin config.bufferSize)}

/-- The action ends as one of the pool does, and leaves the pool as that does. -/
def Delegates {α β : Type} (e : Engine config) (act : Action (Engine config) α)
    (inner : Action (Pool config.bufferSize config.pageSize) β) (answer : β → α) : Prop :=
  match inner e.pool with
  | .ok b pool => ∃ f, act e = .ok (answer b) f ∧ f.pool = pool
  | .error why pool => ∃ f, act e = .error why f ∧ f.pool = pool

theorem Delegates.of_ok {α β : Type} {act : Action (Engine config) α}
    {inner : Action (Pool config.bufferSize config.pageSize) β} {answer : β → α} {a : α}
    {f : Engine config} (delegates : e.Delegates act inner answer) (ran : act e = .ok a f) :
    ∃ b, inner e.pool = .ok b f.pool ∧ answer b = a := by
  unfold Delegates at delegates
  cases made : inner e.pool with
  | ok b pool =>
    rw [made] at delegates
    obtain ⟨g, done, rfl⟩ := delegates
    rw [ran] at done
    cases done
    exact ⟨b, rfl, rfl⟩
  | error why pool =>
    rw [made] at delegates
    obtain ⟨g, failed, -⟩ := delegates
    rw [ran] at failed
    cases failed

theorem delegates_onPool {α β : Type} {act : Action (Engine config) α}
    {inner : Action (Pool config.bufferSize config.pageSize) β} {answer : β → α}
    (same : act e = (do return answer (← onPool inner)) e) : e.Delegates act inner answer := by
  unfold Delegates
  rw [same]
  cases ran : inner e.pool with
  | ok b pool => exact ⟨{ e with pool }, by simp [onPool, ran], rfl⟩
  | error why pool => exact ⟨{ e with pool }, by simp [onPool, ran], rfl⟩

/-- A read is refused at once, or is one of the pool. -/
theorem read_cases (e : Engine config) (page : PageId) :
    (∃ why, read page e = .error why e) ∨
      (e.closed = false ∧ e.allocator.isLive page = true) ∧
        e.Delegates (read page) (Pool.read page) fun block => ⟨page, block.toArray⟩ := by
  cases closed : e.closed with
  | true => exact .inl ⟨.error .closed, by simp [read, ensureOpen_eq, closed]⟩
  | false =>
    cases checked : e.allocator.checkLive page with
    | error why => exact .inl ⟨_, read_refused closed checked⟩
    | ok =>
      refine .inr ⟨⟨rfl, Allocator.checkLive_eq_ok_iff.mp checked⟩, delegates_onPool ?_⟩
      simp [read, ensureOpen_eq, closed, ensureLive_eq, checked]

/-- A write is refused at once, or is one of the pool. -/
theorem write_cases (e : Engine config) (page : Page) :
    (∃ why, write page e = .error why e) ∨
      (e.closed = false ∧ e.allocator.isLive page.id = true) ∧
        e.Delegates (write page) (Pool.write page.id page.bytes) id := by
  cases closed : e.closed with
  | true => exact .inl ⟨.error .closed, by simp [write, ensureOpen_eq, closed]⟩
  | false =>
    by_cases length : page.length = config.pageSize
    · cases checked : e.allocator.checkLive page.id with
      | error why => exact .inl ⟨_, write_refused closed length checked⟩
      | ok =>
        refine .inr ⟨⟨rfl, Allocator.checkLive_eq_ok_iff.mp checked⟩, delegates_onPool ?_⟩
        cases wrote : Pool.write page.id page.bytes e.pool <;>
          simp [write, ensureOpen_eq, closed, length, ensureLive_eq, checked, onPool, wrote]
    · exact .inl ⟨_, write_mismatch closed length⟩

/-- A page is not given back, or its frame is dropped first. -/
theorem deallocate_cases (e : Engine config) (page : PageId) :
    (∃ why, deallocate page e = .error why e) ∨
      e.allocator.isLive page = true ∧
        e.Delegates (deallocate page) (Pool.invalidate page) fun _ => () := by
  cases closed : e.closed with
  | true => exact .inl ⟨.error .closed, by simp [deallocate, ensureOpen_eq, closed]⟩
  | false =>
    cases live : e.allocator.isLive page with
    | false => exact .inl ⟨_, deallocate_refused closed live⟩
    | true =>
      refine .inr ⟨rfl, ?_⟩
      have ended := deallocate_eq closed live
      unfold Delegates
      cases ran : Pool.invalidate page e.pool <;> rw [ran] at ended <;> exact ⟨_, ended, rfl⟩

/-- No page is issued, or one is made. -/
theorem issue_cases (e : Engine config) :
    (∃ why, allocate e = .error why e) ∨
      ∃ issued b, e.allocator.Issues issued b ∧
        (∀ pool, Pool.create issued.page e.pool = .ok () pool →
          allocate e = .ok issued.page ⟨b, e.closed, pool⟩) ∧
        e.Delegates allocate (Pool.create issued.page) fun _ => issued.page := by
  cases closed : e.closed with
  | true => exact .inl ⟨.error .closed, by simp [allocate, ensureOpen_eq, closed]⟩
  | false =>
    rcases e.allocator.allocate_cases with ⟨issued, b, issues, ran⟩ | ⟨-, -, ran⟩
    · have done : ∀ pool, Pool.create issued.page e.pool = .ok () pool →
          allocate e = .ok issued.page ⟨b, false, pool⟩ := by
        intro pool made
        simp [allocate, ensureOpen_eq, closed, onAllocator, ran, onPool, made]
      refine .inr ⟨issued, b, issues, done, ?_⟩
      unfold Delegates
      cases made : Pool.create issued.page e.pool with
      | ok _ pool => exact ⟨_, done pool made, rfl⟩
      | error why pool =>
        cases why with
        | error why =>
          refine ⟨{ e with pool }, ?_, rfl⟩
          simp [allocate, ensureOpen_eq, closed, onAllocator, ran, onPool, made, issues.rollback_eq]
        | fault why =>
          refine ⟨⟨b, e.closed, pool⟩, ?_, rfl⟩
          simp [allocate, ensureOpen_eq, closed, onAllocator, ran, onPool, made]
    · exact .inl ⟨_, allocate_refused closed ran⟩

end Engine

namespace GuardedEngine

variable {config : Config} {s t u : GuardedEngine config} {request : EngineRequest}
  {outcome : Outcome EngineReply} {page : PageId} {block : Block config.pageSize}
  {order : List (PageId × Fin config.bufferSize)}

/-- The request has given the page bytes, or has dropped it. -/
def Changes (s : GuardedEngine config) (page : PageId) : EngineRequest → Outcome EngineReply → Prop
  | .allocate, .done (.allocated issued) => issued = page
  | .deallocate given, .done _ => given = page
  | .write written, .done _ => written.id = page
  | .pool request, outcome => ∃ answer, outcome = answer.map .pool ∧ s.held.Changes page request answer
  | _, _ => False

/-- What becomes of an engine and the guards on its pool while a page is not changed. -/
inductive PassesBy (page : PageId) : GuardedEngine config → GuardedEngine config → Prop
  | refl (s : GuardedEngine config) : PassesBy page s s
  | step {s t u : GuardedEngine config} {request : EngineRequest} {outcome : Outcome EngineReply}
      (passes : PassesBy page s t) (numbered : request.Numbered) (steps : t.Steps request outcome u)
      (unbroken : ∀ why, outcome ≠ .failed (.fault why))
      (apart : ¬ t.Changes page request outcome) : PassesBy page s u

/-! ### What an engine asks of its pool -/

theorem perform_of_ok {α β : Type} {act : Action (Engine config) α} {a : α} {engine : Engine config}
    (ran : act s.engine = .ok a engine) (reply : α → β) :
    s.perform act reply = (.done (reply a), { s with engine }) := by
  simp [perform, Outcome.ofAction, ran, Outcome.map]

/-- A request that is one to the pool. -/
theorem passesBy_of_delegates {α β : Type} {act : Action (Engine config) α}
    {inner : Action (Pool config.bufferSize config.pageSize) β} {answer : β → α}
    {reply : α → EngineReply} {respond : β → PoolReply} {asked : PoolRequest}
    (delegates : s.engine.Delegates act inner answer) (numbered : asked.Numbered)
    (steps : s.held.Steps asked (s.held.perform inner respond).1 (s.held.perform inner respond).2)
    (changes : ∀ b, s.held.Changes page asked (.done (respond b)) →
      s.Changes page request (.done (reply (answer b))))
    (unbroken : ∀ why, (s.perform act reply).1 ≠ .failed (.fault why))
    (apart : ¬ s.Changes page request (s.perform act reply).1) :
    s.held.PassesBy page (s.perform act reply).2.held := by
  unfold Engine.Delegates at delegates
  -- How the request to the pool ends decides how the request to the engine does.
  cases ran : inner s.engine.pool with
  | ok b pool =>
    rw [ran] at delegates
    obtain ⟨f, ended, rfl⟩ := delegates
    rw [perform_of_ok ended] at apart ⊢
    exact GuardedPool.PassesBy.of_ok numbered steps ran fun changed => apart (changes b changed)
  | error why pool =>
    rw [ran] at delegates
    obtain ⟨f, ended, rfl⟩ := delegates
    rw [perform_of_error ended] at unbroken ⊢
    cases why with
    | error why => exact GuardedPool.PassesBy.of_error numbered steps ran
    | fault why => exact absurd rfl (unbroken why)

/-- The action asks nothing of the pool that changes the page. -/
abbrev Passing {α : Type} (s : GuardedEngine config) (page : PageId)
    (act : Action (Engine config) α) (e : Engine config) : Prop :=
  Settles act e (fun f => s.held.PassesBy page ⟨f.pool, s.guards⟩) fun _ => True

theorem Passing.perform {α : Type} {act : Action (Engine config) α} {reply : α → EngineReply}
    (passing : s.Passing page act s.engine)
    (unbroken : ∀ why, (s.perform act reply).1 ≠ .failed (.fault why)) :
    s.held.PassesBy page (s.perform act reply).2.held := by
  have left := (Outcome.leaves_map reply).mpr (Outcome.leaves_ofAction passing)
  exact left.unbroken unbroken

/-- A request to the pool that changes nothing, after others. -/
theorem passing_onPool {α : Type} {e : Engine config}
    {act : Action (Pool config.bufferSize config.pageSize) α} {reply : α → PoolReply}
    {asked : PoolRequest} (passes : s.held.PassesBy page ⟨e.pool, s.guards⟩)
    (numbered : asked.Numbered)
    (steps : GuardedPool.Steps ⟨e.pool, s.guards⟩ asked
      (GuardedPool.perform ⟨e.pool, s.guards⟩ act reply).1
      (GuardedPool.perform ⟨e.pool, s.guards⟩ act reply).2)
    (apart : ∀ outcome, ¬ GuardedPool.Changes ⟨e.pool, s.guards⟩ page asked outcome) :
    s.Passing page (Engine.onPool act) e := by
  apply Settles.within
  apply (GuardedPool.PassesBy.settles numbered steps apart).mono
  · exact fun _ after => passes.trans after
  · exact fun _ => id

theorem passing_flushAndSync {e : Engine config}
    (passes : s.held.PassesBy page ⟨e.pool, s.guards⟩)
    (unmet : GuardedPool.meetsWriter ⟨e.pool, s.guards⟩ order = false)
    (listed : order.Perm e.pool.dirtyFrames) :
    s.Passing page (Engine.flushAndSyncIn order) e := by
  apply Settles.bind
  · exact passing_onPool passes (show PoolRequest.flushAll.Numbered from trivial)
      (.flushed unmet listed) fun _ => id
  · intro _ f after
    exact passing_onPool after (show PoolRequest.sync.Numbered from trivial) (.made .sync)
      fun _ => id

theorem passing_syncIn (page : PageId)
    (unmet : s.engine.closed = false → s.held.meetsWriter order = false)
    (listed : order.Perm s.engine.pool.dirtyFrames) :
    s.Passing page (Engine.syncIn order) s.engine := by
  have here : s.held.PassesBy page ⟨s.engine.pool, s.guards⟩ := .refl _
  exact Engine.ensureOpen_settles here fun opened => passing_flushAndSync here (unmet opened) listed

theorem passing_closeIn (page : PageId)
    (unmet : s.engine.closed = false → s.held.meetsWriter order = false)
    (listed : order.Perm s.engine.pool.dirtyFrames) :
    s.Passing page (Engine.closeIn order) s.engine := by
  have here : s.held.PassesBy page ⟨s.engine.pool, s.guards⟩ := .refl _
  apply Engine.settles_closeIn
  · exact fun _ => here
  · exact fun opened => passing_flushAndSync here (unmet opened) listed
  · intro f after
    exact passing_onPool after (show PoolRequest.close.Numbered from trivial) (.made .close)
      fun _ => id

/-- A flush that the thread need not wait for comes to no writer. -/
theorem unmet_of_free (free : (!s.engine.closed && s.held.waitsForItself .flushAll) = false)
    (opened : s.engine.closed = false) :
    s.held.meetsWriter s.engine.pool.dirtyFrames = false := by
  rw [opened] at free
  exact free

theorem passesBy_of_refused {α : Type} {act : Action (Engine config) α} {reply : α → EngineReply}
    {why : Failure} (refused : act s.engine = .error why s.engine) :
    s.held.PassesBy page (s.perform act reply).2.held := by
  rw [perform_of_error refused]
  exact .refl _

theorem Sound.serve_passesBy (h : s.Sound) (numbered : request.Numbered)
    (free : s.waitsForItself request = false)
    (unbroken : ∀ why, (s.serve request).1 ≠ .failed (.fault why))
    (apart : ¬ s.Changes page request (s.serve request).1) :
    s.held.PassesBy page (s.serve request).2.held := by
  cases request with
  | allocate =>
    rcases s.engine.issue_cases with ⟨why, refused⟩ | ⟨issued, b, issues, -, delegates⟩
    · exact passesBy_of_refused refused
    · have next : (PoolRequest.create issued.page).Numbered := issues.index_succ_lt h.issued
      exact passesBy_of_delegates delegates next (.made (.create issued.page)) (fun _ => id)
        unbroken apart
  | deallocate given =>
    rcases s.engine.deallocate_cases given with ⟨why, refused⟩ | ⟨live, delegates⟩
    · exact passesBy_of_refused refused
    · have next : (PoolRequest.invalidate given).Numbered := Engine.numbered_of_live live
      refine passesBy_of_delegates delegates next (.made (.invalidate given)) ?_ unbroken apart
      intro dropped changes
      cases dropped with
      -- A page that had no frame was not dropped from one.
      | true => exact changes
      | false => exact changes.elim
  | write written =>
    rcases s.engine.write_cases written with ⟨why, refused⟩ | ⟨⟨opened, live⟩, delegates⟩
    · exact passesBy_of_refused refused
    · have next : (PoolRequest.write written.id written.bytes).Numbered :=
        Engine.numbered_of_live live
      have steps := GuardedPool.steps_of_free (.write written.id written.bytes)
        (by simpa [waitsForItself, lets, opened, live] using free)
      exact passesBy_of_delegates delegates next steps (fun _ => id) unbroken apart
  | read q =>
    rcases s.engine.read_cases q with ⟨why, refused⟩ | ⟨⟨opened, live⟩, delegates⟩
    · exact passesBy_of_refused refused
    · have next : (PoolRequest.read q).Numbered := Engine.numbered_of_live live
      have steps := GuardedPool.steps_of_free (.read q)
        (by simpa [waitsForItself, lets, opened, live] using free)
      exact passesBy_of_delegates delegates next steps (fun _ => id) unbroken apart
  | sync =>
    have passing := passing_syncIn page (unmet_of_free free) (List.Perm.refl _)
    exact Passing.perform (.congr (Engine.sync_eq s.engine) passing) unbroken
  | close =>
    have passing := passing_closeIn page (unmet_of_free free) (List.Perm.refl _)
    exact Passing.perform (.congr (Engine.close_eq s.engine) passing) unbroken
  | stats | pageSize | isClosed | config => exact .refl _
  | pool asked =>
    refine .one numbered (.made asked) ?_ fun changes => apart ⟨_, rfl, changes⟩
    intro why broken
    exact unbroken why (congrArg (Outcome.map EngineReply.pool) broken)

/-- One step, with the dirty frames of a flush in any order. -/
theorem Sound.passesBy (h : s.Sound) (numbered : request.Numbered)
    (steps : s.Steps request outcome t) (unbroken : ∀ why, outcome ≠ .failed (.fault why))
    (apart : ¬ s.Changes page request outcome) : s.held.PassesBy page t.held := by
  cases steps with
  | made =>
    unfold step at unbroken apart ⊢
    split at unbroken
    · next waits =>
      -- A request that would wait is not begun.
      rw [if_pos waits]
      exact .refl _
    · next free =>
      rw [if_neg free] at apart ⊢
      exact h.serve_passesBy numbered (by simpa using free) unbroken apart
  | @pool asked answer held steps =>
    refine .one numbered steps ?_ fun changes => apart ⟨answer, rfl, changes⟩
    intro why broken
    exact unbroken why (congrArg (Outcome.map EngineReply.pool) broken)
  | synced unmet listed => exact (passing_syncIn page (fun _ => unmet) listed).perform unbroken
  | closed unmet listed => exact (passing_closeIn page (fun _ => unmet) listed).perform unbroken

/-! ### Runs -/

/-- These bytes are seen of the page, in an engine that is in order. -/
structure Shown (s : GuardedEngine config) (page : PageId) (block : Block config.pageSize) :
    Prop where
  sound : s.Sound
  latched : s.Latched
  view_eq : s.engine.pool.view page = some block
  backed : s.engine.pool.Backed page block

theorem Shown.held (h : s.Shown page block) : s.held.Shown page block :=
  ⟨h.sound.held, h.latched.held, h.view_eq, h.backed⟩

theorem Shown.steps (h : s.Shown page block) (small : config.pageSize < 0x100000000)
    (numbered : request.Numbered) (steps : s.Steps request outcome t)
    (unbroken : ∀ why, outcome ≠ .failed (.fault why)) (apart : ¬ s.Changes page request outcome) :
    t.Shown page block ∧
      (s.engine.pool.disk.Stores page block → t.engine.pool.disk.Stores page block) := by
  have passes := h.sound.passesBy numbered steps unbroken apart
  have sound := (h.sound.steps small numbered steps).unbroken unbroken
  have moves := (h.latched.steps small numbered steps).unbroken unbroken
  obtain ⟨shown, stores⟩ := passes.shown h.held small
  exact ⟨⟨sound, h.latched.moved moves, shown.view_eq, shown.backed⟩, stores⟩

/-- A run that passes a page by: its bytes are seen as they were, and stay in the file once they are
there. -/
theorem PassesBy.shown (passes : s.PassesBy page t) (h : s.Shown page block)
    (small : config.pageSize < 0x100000000) :
    t.Shown page block ∧
      (s.engine.pool.disk.Stores page block → t.engine.pool.disk.Stores page block) := by
  -- `Shown.steps` is one request; what the file keeps is handed on to the next.
  induction passes with
  | refl => exact ⟨h, id⟩
  | step _ numbered steps unbroken apart ih =>
    obtain ⟨shown, still⟩ := ih
    obtain ⟨after, kept⟩ := shown.steps small numbered steps unbroken apart
    exact ⟨after, kept ∘ still⟩

end GuardedEngine

end PagedStorage
