import Mathlib.Algebra.GroupWithZero.Nat
import PagedStorage.Proofs.Saturation
import PagedStorage.Proofs.Writes

/-!
# Counts that balance

What a pool counts can be told without the pool, from the requests that it was made and how they have
ended (`PoolEvent`). Each request adds to the counts what it says (`Latched.booked`), so after every run
since the pool was made the counts are those of the requests (`Traced.balances`), however many of
these have failed and wherever.

Pages may be of any size. One that ends behind the last offset can be made and dropped like any other,
and is counted like any other; only to save it is a fault, and no run goes on after a fault.
-/

namespace PagedStorage

/-! ### Requests and what they look for -/

namespace PoolRequest

/-- The page that a request looks for, which is counted. A write needs the bytes of exactly one
page. -/
def sought? (pageSize : Nat) : PoolRequest → Option PageId
  | .fetch page .. | .read page => some page
  | .write page bytes => if bytes.size = pageSize then some page else none
  | _ => none

/-- The page whose block a request needs. -/
def loaded? : PoolRequest → Option PageId
  | .fetch page .. | .read page => some page
  | _ => none

def made? : PoolRequest → Option PageId
  | .create page => some page
  | _ => none

def flushes : PoolRequest → Bool
  | .flush _ | .flushAll => true
  | _ => false

end PoolRequest

/-- A request that was made of a pool, and how it has ended. -/
structure PoolEvent (size pageSize : Nat) where
  before : GuardedPool size pageSize
  request : PoolRequest
  outcome : Outcome PoolReply
  after : GuardedPool size pageSize

namespace PoolEvent

variable {size pageSize n : Nat} {e : PoolEvent size pageSize} {page : PageId} {f : Fin size}
  {fill : Pool.Fill pageSize}

/-- The page is resident when the request is made. -/
def finds (e : PoolEvent size pageSize) (page : PageId) : Bool :=
  e.before.pool.table[page]?.isSome

/-- The request was made of the pool, and has not been turned away before. -/
def answered (e : PoolEvent size pageSize) : Bool :=
  match e.outcome with
  | .done _ | .failed _ => true
  | .wouldBlock | .refused _ => false

def succeeds (e : PoolEvent size pageSize) : Bool :=
  match e.outcome with
  | .done _ => true
  | _ => false

/-- A fetch, a read, or a write of one page, whether or not it succeeds. -/
def asks (e : PoolEvent size pageSize) : Bool :=
  e.answered && (e.request.sought? pageSize).isSome

def hits (e : PoolEvent size pageSize) : Bool :=
  e.answered && (e.request.sought? pageSize).any e.finds

def misses (e : PoolEvent size pageSize) : Bool :=
  e.answered && (e.request.sought? pageSize).any (!e.finds ·)

/-- A fetch or a read that misses and succeeds. -/
def loads (e : PoolEvent size pageSize) : Bool :=
  e.succeeds && e.request.loaded?.any (!e.finds ·)

/-- A fetch, a read or a write that misses and succeeds. -/
def admits (e : PoolEvent size pageSize) : Bool :=
  e.succeeds && (e.request.sought? pageSize).any (!e.finds ·)

/-- A page is made that is not resident. -/
def makes (e : PoolEvent size pageSize) : Bool :=
  e.succeeds && e.request.made?.any (!e.finds ·)

/-- A page is dropped. -/
def drops (e : PoolEvent size pageSize) : Bool :=
  match e.request, e.outcome with
  | .invalidate _, .done (.flag answer) => answer
  | _, _ => false

/-- The dirty frames that were written to the file. What is dropped is not written. -/
def written (e : PoolEvent size pageSize) : Finset (Fin size) :=
  match e.request with
  | .invalidate _ => ∅
  | _ => e.before.pool.cleaned e.after.pool

/-- What a flush answers: how many frames it has written. -/
def flushed? (e : PoolEvent size pageSize) : Option Nat :=
  match e.request, e.outcome with
  | .flush _, .done (.flag answer) => some answer.toNat
  | .flushAll, .done (.count n) => some n
  | _, _ => none

def charge (e : PoolEvent size pageSize) : Charge where
  hits := e.hits.toNat
  misses := e.misses.toNat
  reads := e.loads.toNat
  drops := e.drops.toNat
  entries := e.admits.toNat + e.makes.toNat

/-! ### What a request adds -/

theorem asks_eq (e : PoolEvent size pageSize) :
    e.asks.toNat = e.hits.toNat + e.misses.toNat := by
  unfold hits misses asks
  cases e.answered with
  | false => rfl
  | true =>
    cases e.request.sought? pageSize with
    | none => rfl
    | some page => cases finds : e.finds page <;> simp [finds]

/-- What a request for a page counts, by whether the page was resident and whether it came. -/
theorem charge_of_seeks (seeks : e.request.Seeks page fill n) (answered : e.answered = true) :
    e.charge =
      if e.finds page then { hits := n }
      else if e.succeeds then { misses := n, reads := fill.reads, entries := 1 }
      else { misses := n } := by
  -- Four requests seek a page, and each of the counts is a test on these two facts.
  cases finds : e.finds page <;> cases succeeds : e.succeeds <;>
    obtain ⟨before, request, outcome, after⟩ := e <;> cases seeks <;>
    simp_all [charge, hits, misses, loads, drops, admits, makes, PoolRequest.sought?,
      PoolRequest.loaded?, PoolRequest.made?, Pool.Fill.reads]

theorem charge_of_found (seeks : e.request.Seeks page fill n)
    (found : e.before.pool.table[page]? = some f) (answered : e.answered = true) :
    e.charge = { hits := n } := by
  have finds : e.finds page = true := by rw [PoolEvent.finds, found]; rfl
  rw [charge_of_seeks seeks answered, if_pos finds]

theorem charge_of_absent (seeks : e.request.Seeks page fill n)
    (absent : e.before.pool.table[page]? = none) (answered : e.answered = true) :
    e.charge =
      if e.succeeds then { misses := n, reads := fill.reads, entries := 1 } else { misses := n } := by
  have finds : ¬ e.finds page = true := by rw [PoolEvent.finds, absent]; exact Bool.noConfusion
  rw [charge_of_seeks seeks answered, if_neg finds]

/-- Whatever is not asked for a page counts nothing, unless it drops one. -/
theorem charge_of_idle (unsought : e.request.sought? pageSize = none)
    (unmade : e.request.made? = none) (kept : e.drops = false) : e.charge = {} := by
  have unloaded : e.request.loaded? = none := by
    obtain ⟨before, request, outcome, after⟩ := e
    cases request <;> simp_all [PoolRequest.sought?, PoolRequest.loaded?]
  simp [charge, hits, misses, loads, admits, makes, unsought, unmade, unloaded, kept]

theorem charge_of_unanswered (unanswered : e.answered = false) : e.charge = {} := by
  obtain ⟨before, request, outcome, after⟩ := e
  cases outcome <;>
    simp_all [charge, hits, misses, loads, drops, admits, makes, answered, succeeds]

/-! ### Every request -/

/-- The counts change by what the request says. -/
structure Booked (e : PoolEvent size pageSize) : Prop where
  accounts : e.before.pool.Accounts e.after.pool e.charge
  writes : e.before.pool.Writes e.after.pool e.written
  /-- Without a flush a frame is written only when its page is evicted. -/
  evicts : e.request.flushes = false → e.before.pool.counters.evictions + e.written.card ≤
    e.after.pool.counters.evictions
  /-- A flush answers how many frames it has written. -/
  flushed : ∀ n, e.flushed? = some n → e.written.card = n

theorem written_of_continues (continues : e.before.pool.Continues e.after.pool) :
    e.written = ∅ := by
  obtain ⟨before, request, outcome, after⟩ := e
  cases request with
  | invalidate => rfl
  | _ => exact continues.cleaned

/-- Where no page moves and no frame is cleaned, only hits may be counted. -/
theorem booked_of_continues (continues : e.before.pool.Continues e.after.pool)
    (accounts : e.before.pool.Accounts e.after.pool e.charge)
    (flushed : ∀ n, e.flushed? = some n → n = 0) : e.Booked := by
  have written := written_of_continues continues
  constructor
  case accounts => exact accounts
  case writes =>
    rw [written]
    exact continues.writes_none
  case evicts =>
    intro _
    rw [written, continues.evictions]
    exact Nat.le_refl _
  case flushed =>
    intro n answers
    rw [written, flushed n answers]
    rfl

end PoolEvent

namespace GuardedPool

variable {size pageSize width n : Nat} {s t : GuardedPool size pageSize} {request : PoolRequest}
  {outcome : Outcome PoolReply} {page : PageId} {f : Fin size} {fill : Pool.Fill pageSize}
  {c : Charge}

/-- What a request adds to the counts is what it says. -/
def Books (s : GuardedPool size pageSize) (request : PoolRequest)
    (served : Outcome PoolReply × GuardedPool size pageSize) : Prop :=
  (⟨s, request, served.1, served.2⟩ : PoolEvent size pageSize).Booked

/-- A request that is turned away, or asks for no page and drops none. -/
theorem books_of_idle (continues : s.pool.Continues t.pool)
    (counters : ∃ writes, t.pool.counters = { s.pool.counters with writes })
    (idle : (⟨s, request, outcome, t⟩ : PoolEvent size pageSize).charge = {})
    (flushed : (⟨s, request, outcome, t⟩ : PoolEvent size pageSize).flushed? = none) :
    s.Books request (outcome, t) := by
  apply PoolEvent.booked_of_continues continues
  · rw [show PoolEvent.charge _ = _ from idle]
    exact .still continues.table counters
  · intro n answers
    rw [show PoolEvent.flushed? _ = _ from flushed] at answers
    cases answers

/-! ### Requests for a page -/

section Seeks

variable (seeks : request.Seeks page fill n)
include seeks

theorem flushed_of_seeks :
    (⟨s, request, outcome, t⟩ : PoolEvent size pageSize).flushed? = none := by
  cases seeks <;> rfl

/-- A request that has found its page resident. -/
theorem books_of_hit (found : s.pool.table[page]? = some f)
    (answered : (⟨s, request, outcome, t⟩ : PoolEvent size pageSize).answered = true)
    (continues : s.pool.Continues t.pool) (accounts : s.pool.Accounts t.pool { hits := n }) :
    s.Books request (outcome, t) := by
  apply PoolEvent.booked_of_continues continues
  · rw [PoolEvent.charge_of_found seeks found answered]
    exact accounts
  · intro n answers
    rw [show PoolEvent.flushed? _ = _ from flushed_of_seeks seeks] at answers
    cases answers

theorem perform_books_hit {α : Type} {act : Action (Pool size pageSize) α}
    {reply : α → PoolReply} (found : s.pool.table[page]? = some f)
    (books : Pool.Books act s.pool { hits := n })
    (unbroken : ∀ why, (s.perform act reply).1 ≠ .failed (.fault why)) :
    s.Books request (s.perform act reply) := by
  cases ran : act s.pool with
  | ok a pool =>
    rw [Pool.Books, ran] at books
    rw [perform_of_ok ran]
    exact books_of_hit seeks found rfl books.1 books.2
  | error why pool =>
    rw [Pool.Books, ran] at books
    rw [perform_of_error ran] at unbroken ⊢
    cases why with
    | error e => exact books_of_hit seeks found rfl books.1 books.2
    | fault why => exact absurd rfl (unbroken why)

theorem LatchedAt.serve_books_hit (h : s.LatchedAt width) (found : s.pool.table[page]? = some f)
    (names : s.Names request) (unbroken : ∀ why, (s.serve request).1 ≠ .failed (.fault why)) :
    s.Books request (s.serve request) := by
  have again := seeks
  cases seeks with
  | fetch page access name =>
    have books := Pool.fetch_books h.sound found
    have fresh : ¬ (s.guards.lookup name).isSome = true := by
      rw [show s.guards.lookup name = none from names]
      exact Bool.noConfusion
    have served : s.serve (.fetch page access name) = s.fetch page access name := rfl
    rw [served, GuardedPool.fetch, if_neg fresh] at unbroken ⊢
    cases ran : Pool.fetch page s.pool with
    | ok f pool =>
      rw [Pool.Books, ran] at books
      exact books_of_hit again found rfl books.1 books.2
    | error why pool =>
      rw [Pool.Books, ran] at books
      rw [ran] at unbroken
      cases why with
      | error e => exact books_of_hit again found rfl books.1 books.2
      | fault why => exact absurd rfl (unbroken why)
  | read page => exact perform_books_hit again found (Pool.read_books h.sound found) unbroken
  | write page block =>
    have fits : Block.ofArray? block.toArray = some block := Block.ofArray?_eq_some_iff.mpr rfl
    have books := Pool.writeBlock_books h.sound found block
    refine perform_books_hit again found ?_ unbroken
    simpa only [Pool.Books, Pool.write, fits] using books
  | create page => exact perform_books_hit again found (Pool.create_books found) unbroken

/-- A request that has not found its page resident, once the miss is over. -/
theorem books_of_miss (accounts : s.pool.Accounts t.pool
      (⟨s, request, outcome, t⟩ : PoolEvent size pageSize).charge)
    (writes : s.pool.Writes t.pool (s.pool.cleaned t.pool))
    (evicts : t.pool.counters.writes + s.pool.counters.evictions ≤
      s.pool.counters.writes + t.pool.counters.evictions) : s.Books request (outcome, t) := by
  have written : (⟨s, request, outcome, t⟩ : PoolEvent size pageSize).written =
      s.pool.cleaned t.pool := by
    cases seeks <;> rfl
  constructor
  case accounts => exact accounts
  case writes => exact written.symm ▸ writes
  case evicts =>
    intro _
    have counted := writes.counted
    show s.pool.counters.evictions + (PoolEvent.written _).card ≤ t.pool.counters.evictions
    rw [written]
    omega
  case flushed =>
    intro n answers
    rw [show PoolEvent.flushed? _ = _ from flushed_of_seeks seeks] at answers
    cases answers

theorem LatchedAt.books_of_admits (h : s.LatchedAt width) (small : width < 0x100000000)
    (numbered : request.Numbered) (absent : s.pool.table[page]? = none)
    {r : Except StoreError (Fin size)} {pool : Pool size pageSize}
    {served : Outcome PoolReply × GuardedPool size pageSize}
    (admits : (s.pool.missed n).Admits page fill r pool) (follows : s.Follows fill pool served r) :
    s.Books request served := by
  have next : page.index + 1 < 0x100000000 := by
    cases seeks <;> exact numbered
  have accounts := admits.accounts h.sound absent (.of_small next small)
  have writes := admits.writes h.sound absent
  have evicts := admits.writes_le (h.sound.tallied _)
  cases r with
  | error e =>
    obtain rfl := follows
    apply books_of_miss seeks ?_ writes evicts
    rw [PoolEvent.charge_of_absent seeks absent rfl]
    exact accounts
  | ok f =>
    obtain ⟨reply, u, rfl, rfl | ⟨-, same⟩⟩ := follows
    · apply books_of_miss seeks ?_ writes evicts
      rw [PoolEvent.charge_of_absent seeks absent rfl]
      exact accounts
    · -- The pin that a fetch leaves is counted nowhere.
      apply books_of_miss seeks ?_ (same ▸ writes.pinned f) (same ▸ evicts)
      rw [PoolEvent.charge_of_absent seeks absent rfl, same]
      exact accounts.trans (.still (t := pool.pinned f) rfl ⟨_, rfl⟩)

/-- Every request that is for a page. -/
theorem LatchedAt.books_of_seeks (h : s.LatchedAt width) (small : width < 0x100000000)
    (numbered : request.Numbered) (unbroken : ∀ why, (s.serve request).1 ≠ .failed (.fault why)) :
    s.Books request (s.serve request) := by
  by_cases names : s.Names request
  · cases found : s.pool.table[page]? with
    | some f => exact h.serve_books_hit seeks found names unbroken
    | none =>
      rcases h.serve_absent small numbered seeks found names with
        ⟨r, pool, admits, follows⟩ | ⟨-, why, stops⟩
      · exact h.books_of_admits seeks small numbered found admits follows
      · exact absurd stops (unbroken why)
  · cases seeks with
    | fetch page access name =>
      have used : (s.guards.lookup name).isSome = true := Option.isSome_iff_ne_none.mpr names
      have served : s.serve (.fetch page access name) = (.refused .guardName, s) := by
        show s.fetch page access name = _
        rw [GuardedPool.fetch, if_pos used]
      rw [served]
      exact books_of_idle (.refl _) ⟨_, rfl⟩ (PoolEvent.charge_of_unanswered rfl) rfl
    | _ => exact absurd trivial names

end Seeks

/-! ### Other requests -/

/-- Giving up a guard leaves its page dirty if it could be written. -/
theorem continues_poolAfter (s : GuardedPool size pageSize) (g : Guard size) :
    s.pool.Continues (s.poolAfter g) := by
  unfold poolAfter
  split
  · exact (Pool.Continues.filled s.pool g.frame _ fun _ => rfl).trans (.unpinned _ _)
  · exact .unpinned _ _

theorem LatchedAt.release_books (h : s.LatchedAt width) (name : String) :
    s.Books (.release name) (s.release name) := by
  cases found : s.guards.lookup name with
  | none =>
    simp only [GuardedPool.release, found]
    exact books_of_idle (.refl _) ⟨_, rfl⟩ rfl rfl
  | some g =>
    rw [release_of_lookup found (h.matched.pinned (h.matched.mem_of_lookup found))]
    have counters : (s.poolAfter g).counters = s.pool.counters := by
      unfold poolAfter
      split <;> rfl
    exact books_of_idle (s.continues_poolAfter g) ⟨_, counters⟩ rfl rfl

theorem poke_books (s : GuardedPool size pageSize) (name : String) (start : Nat)
    (bytes : Array UInt8) : s.Books (.poke name start bytes) (s.poke name start bytes) := by
  unfold GuardedPool.poke
  split
  · split
    · exact books_of_idle (Pool.Continues.filled _ _ _ id) ⟨_, rfl⟩ rfl rfl
    · exact books_of_idle (.refl _) ⟨_, rfl⟩ rfl rfl
  · exact books_of_idle (.refl _) ⟨_, rfl⟩ rfl rfl

/-- A write of anything but one page is turned down before it is counted. -/
theorem write_books_mismatched {bytes : Array UInt8} (wrong : bytes.size ≠ pageSize) :
    s.Books (.write page bytes) (s.serve (.write page bytes)) := by
  have none : (Block.ofArray? bytes : Option (Block pageSize)) = none :=
    Block.ofArray?_eq_none_iff.mpr wrong
  have ran : Pool.write page bytes s.pool =
      .error (.error (.pageSizeMismatch pageSize bytes.size)) s.pool := by
    simp only [Pool.write, none, Action.run_reject]
  have served : s.serve (.write page bytes) = _ := perform_of_error ran _
  rw [served]
  refine books_of_idle (.refl _) ⟨_, rfl⟩ ?_ rfl
  exact PoolEvent.charge_of_idle (if_neg wrong) rfl rfl

theorem LatchedAt.invalidate_books (h : s.LatchedAt width) (page : PageId) :
    s.Books (.invalidate page) (s.serve (.invalidate page)) := by
  have ran := Pool.invalidate_eq s.pool page
  cases found : s.pool.table[page]? with
  | none =>
    rw [found] at ran
    have served : s.serve (.invalidate page) = _ := perform_of_ok ran
    rw [served]
    exact books_of_idle (.refl _) ⟨_, rfl⟩ rfl rfl
  | some f =>
    have held := (h.sound.table_iff page f).mp found
    simp only [found] at ran
    by_cases busy : (s.pool.frame f).isPinned = true
    · rw [if_pos busy] at ran
      have served : s.serve (.invalidate page) = _ := perform_of_error ran _
      rw [served]
      exact books_of_idle (.refl _) ⟨_, rfl⟩ rfl rfl
    · rw [if_neg busy] at ran
      have served : s.serve (.invalidate page) = _ := perform_of_ok ran
      rw [served]
      have unpinned : (s.pool.frame f).pins = 0 := by simpa [Frame.isPinned] using busy
      constructor
      case accounts => exact .dropped h.sound held unpinned
      case writes => exact .none rfl rfl rfl rfl
      case evicts => exact fun _ => Nat.le_refl _
      case flushed =>
        intro n answers
        cases answers

/-- A flush moves no page, and answers how many frames it has written. -/
theorem books_of_flush (flushes : request.flushes = true) (accounts : s.pool.Accounts t.pool {})
    (writes : s.pool.Writes t.pool (s.pool.cleaned t.pool))
    (answers : ∀ n, (⟨s, request, outcome, t⟩ : PoolEvent size pageSize).flushed? = some n →
      (s.pool.cleaned t.pool).card = n) : s.Books request (outcome, t) := by
  have idle : (⟨s, request, outcome, t⟩ : PoolEvent size pageSize).charge = {} := by
    apply PoolEvent.charge_of_idle <;> cases request <;> first | rfl | cases flushes
  have written : (⟨s, request, outcome, t⟩ : PoolEvent size pageSize).written =
      s.pool.cleaned t.pool := by
    cases request <;> first | rfl | cases flushes
  constructor
  case accounts => exact idle.symm ▸ accounts
  case writes => exact written.symm ▸ writes
  case evicts => exact fun other => absurd (flushes.symm.trans other) Bool.noConfusion
  case flushed => exact fun n answered => written.symm ▸ answers n answered

theorem perform_books_flush {α : Type} {act : Action (Pool size pageSize) α} {told : α → Nat}
    {reply : α → PoolReply} (tells : Pool.Tells act s.pool told) (flushes : request.flushes = true)
    (answers : ∀ a t, (⟨s, request, .done (reply a), t⟩ : PoolEvent size pageSize).flushed? =
      some (told a))
    (unbroken : ∀ why, (s.perform act reply).1 ≠ .failed (.fault why)) :
    s.Books request (s.perform act reply) := by
  cases ran : act s.pool with
  | ok a pool =>
    rw [Pool.Tells, ran] at tells
    obtain ⟨accounts, writes, written⟩ := tells
    rw [perform_of_ok ran]
    refine books_of_flush flushes accounts writes fun n answered => ?_
    exact written.trans (Option.some.inj ((answers a _).symm.trans answered))
  | error why pool =>
    rw [Pool.Tells, ran] at tells
    rw [perform_of_error ran] at unbroken ⊢
    cases why with
    | error e =>
      refine books_of_flush flushes tells.1 tells.2 fun n answered => ?_
      cases request <;> cases answered
    | fault why => exact absurd rfl (unbroken why)

/-- The dirty frames may be flushed in any order. -/
theorem LatchedAt.flushFrames_books (h : s.LatchedAt width) {order : List (PageId × Fin size)}
    (listed : order.Perm s.pool.dirtyFrames)
    (unbroken : ∀ why, (s.perform (Pool.flushFrames order) .count).1 ≠ .failed (.fault why)) :
    s.Books .flushAll (s.perform (Pool.flushFrames order) .count) :=
  perform_books_flush (Pool.flushFrames_tells h.sound listed) rfl (fun _ _ => rfl) unbroken

/-- A request to the pool that counts nothing and writes nothing. -/
theorem perform_books {α : Type} {act : Action (Pool size pageSize) α} {reply : α → PoolReply}
    (books : Pool.Books act s.pool {})
    (idle : ∀ outcome t, (⟨s, request, outcome, t⟩ : PoolEvent size pageSize).charge = {})
    (silent : ∀ outcome t, (⟨s, request, outcome, t⟩ : PoolEvent size pageSize).flushed? = none)
    (unbroken : ∀ why, (s.perform act reply).1 ≠ .failed (.fault why)) :
    s.Books request (s.perform act reply) := by
  have booked : ∀ outcome pool, s.pool.Continues pool → s.pool.Accounts pool {} →
      s.Books request (outcome, { s with pool }) := by
    intro outcome pool continues accounts
    apply PoolEvent.booked_of_continues continues
    · rw [idle]
      exact accounts
    · intro n answers
      rw [silent] at answers
      cases answers
  cases ran : act s.pool with
  | ok a pool =>
    rw [Pool.Books, ran] at books
    rw [perform_of_ok ran]
    exact booked _ _ books.1 books.2
  | error why pool =>
    rw [Pool.Books, ran] at books
    rw [perform_of_error ran] at unbroken ⊢
    cases why with
    | error e => exact booked _ _ books.1 books.2
    | fault why => exact absurd rfl (unbroken why)

theorem LatchedAt.serve_books (h : s.LatchedAt width) (small : width < 0x100000000)
    (numbered : request.Numbered) (unbroken : ∀ why, (s.serve request).1 ≠ .failed (.fault why)) :
    s.Books request (s.serve request) := by
  cases request with
  | fetch page access name =>
    exact h.books_of_seeks (.fetch page access name) small numbered unbroken
  | read page => exact h.books_of_seeks (.read page) small numbered unbroken
  | create page => exact h.books_of_seeks (.create page) small numbered unbroken
  | write page bytes =>
    by_cases right : bytes.size = pageSize
    · have target : (PoolRequest.write page bytes).target? pageSize = some page := if_pos right
      obtain ⟨fill, n, seeks⟩ := PoolRequest.seeks_of_target target
      exact h.books_of_seeks seeks small numbered unbroken
    · exact write_books_mismatched right
  | release name => exact h.release_books name
  | peek name =>
    cases found : s.guards.lookup name with
    | none =>
      simp only [GuardedPool.serve, found]
      exact books_of_idle (.refl _) ⟨_, rfl⟩ rfl rfl
    | some g =>
      simp only [GuardedPool.serve, found]
      exact books_of_idle (.refl _) ⟨_, rfl⟩ rfl rfl
  | poke name start bytes => exact s.poke_books name start bytes
  | invalidate page => exact h.invalidate_books page
  | flush page =>
    exact perform_books_flush (Pool.flush_tells h.sound page) rfl (fun _ _ => rfl) unbroken
  | flushAll =>
    rw [serve_flushAll] at unbroken ⊢
    exact h.flushFrames_books (List.Perm.refl _) unbroken
  | sync =>
    exact perform_books (Pool.sync_books s.pool)
      (fun _ _ => PoolEvent.charge_of_idle rfl rfl rfl) (fun _ _ => rfl) unbroken
  | close =>
    exact perform_books (Pool.close_books s.pool)
      (fun _ _ => PoolEvent.charge_of_idle rfl rfl rfl) (fun _ _ => rfl) unbroken
  | info | counters | sizes => exact books_of_idle (.refl _) ⟨_, rfl⟩ rfl rfl

/-- One step: the counts change by what the request says. -/
theorem LatchedAt.steps_books (h : s.LatchedAt width) (small : width < 0x100000000)
    (numbered : request.Numbered) (steps : s.Steps request outcome t)
    (unbroken : ∀ why, outcome ≠ .failed (.fault why)) : s.Books request (outcome, t) := by
  cases steps with
  | made =>
    unfold step at unbroken ⊢
    split
    · -- Whoever has to wait has asked for nothing yet.
      have idle : (⟨s, request, .wouldBlock, s⟩ : PoolEvent size pageSize).charge = {} :=
        PoolEvent.charge_of_unanswered rfl
      refine books_of_idle (.refl _) ⟨_, rfl⟩ idle ?_
      cases request <;> rfl
    · next free =>
      rw [if_neg free] at unbroken
      exact h.serve_books small numbered unbroken
  | flushed unwritten listed => exact h.flushFrames_books listed unbroken

/-! ### Runs -/

/-- What has become of a pool since it was made, the last request first. Meanwhile anything may happen
to its file. -/
inductive Traced : List (PoolEvent size pageSize) → GuardedPool size pageSize → Prop
  | made {disk : Disk pageSize} {pool : Pool size pageSize} (made : Pool.ofDisk disk = .ok pool) :
      Traced [] ⟨pool, []⟩
  | step {events : List (PoolEvent size pageSize)} {s t : GuardedPool size pageSize}
      {request : PoolRequest} {outcome : Outcome PoolReply} (traced : Traced events s)
      (numbered : request.Numbered) (steps : s.Steps request outcome t)
      (unbroken : ∀ why, outcome ≠ .failed (.fault why)) :
      Traced (⟨s, request, outcome, t⟩ :: events) t
  | meanwhile {events : List (PoolEvent size pageSize)} {s : GuardedPool size pageSize}
      (traced : Traced events s) (disk : Disk pageSize) : Traced events (s.rebased disk)

/-- The counts of a pool are those of its requests. -/
structure Balances (s : GuardedPool size pageSize) (events : List (PoolEvent size pageSize)) :
    Prop where
  hits : s.pool.counters.hits = events.countP PoolEvent.hits
  misses : s.pool.counters.misses = events.countP PoolEvent.misses
  asked : s.pool.counters.hits + s.pool.counters.misses = events.countP PoolEvent.asks
  reads : s.pool.counters.reads = events.countP PoolEvent.loads
  writes : s.pool.counters.writes = (events.map fun e => e.written.card).sum
  invalidations : s.pool.counters.invalidations = events.countP PoolEvent.drops
  /-- Every page that has come in was evicted, was dropped, or is resident. -/
  entries : s.pool.counters.evictions + s.pool.counters.invalidations + s.pool.residentCount =
    events.countP PoolEvent.admits + events.countP PoolEvent.makes
  /-- What counts as written is in the file, and was written by an eviction or a flush. -/
  booked : ∀ e ∈ events, e.Booked

theorem countP_cons_toNat {α : Type} (p : α → Bool) (a : α) (list : List α) :
    (a :: list).countP p = list.countP p + (p a).toNat := by
  rw [List.countP_cons]
  cases p a <;> rfl

/-- One more request adds what it says. -/
theorem Balances.cons {events : List (PoolEvent size pageSize)} {e : PoolEvent size pageSize}
    (h : e.before.Balances events) (booked : e.Booked) : e.after.Balances (e :: events) := by
  have accounts := booked.accounts
  have hits : e.after.pool.counters.hits = events.countP PoolEvent.hits + e.hits.toNat :=
    h.hits ▸ accounts.hits
  have misses : e.after.pool.counters.misses = events.countP PoolEvent.misses + e.misses.toNat :=
    h.misses ▸ accounts.misses
  constructor
  case hits => rw [countP_cons_toNat, hits]
  case misses => rw [countP_cons_toNat, misses]
  case asked =>
    -- Whatever is asked for is a hit or a miss.
    rw [countP_cons_toNat, ← h.asked, e.asks_eq, h.hits, h.misses, hits, misses]
    omega
  case reads =>
    rw [countP_cons_toNat, ← h.reads]
    exact accounts.reads
  case writes =>
    rw [List.map_cons, List.sum_cons, ← h.writes, Nat.add_comm]
    exact booked.writes.counted
  case invalidations =>
    rw [countP_cons_toNat, ← h.invalidations]
    exact accounts.drops
  case entries =>
    rw [countP_cons_toNat, countP_cons_toNat, Nat.add_add_add_comm, ← h.entries]
    exact accounts.entries
  case booked => exact List.forall_mem_cons.mpr ⟨booked, h.booked⟩

namespace Traced

variable {events : List (PoolEvent size pageSize)}

/-- Pages may be of any size here. -/
theorem latched (traced : Traced events s) : s.LatchedAt 0 := by
  -- A new pool has no pins, and `LatchedAt.steps` is what one request keeps.
  induction traced with
  | made made => exact latched_ofDisk made
  | step _ numbered steps unbroken ih =>
    exact ih.moved ((ih.steps (by decide) numbered steps).unbroken unbroken)
  | meanwhile _ disk ih => exact ih.rebased disk

/-- Whatever has been asked of a pool since it was made, however it has ended, and whatever happened to
its file meanwhile, the counts of the pool are those of its requests. -/
theorem balances (traced : Traced events s) : s.Balances events := by
  -- A new pool has counted nothing, and `steps_books` is what one request adds.
  induction traced with
  | made made =>
    obtain ⟨-, rfl⟩ := Pool.ofDisk_eq_ok made
    exact ⟨rfl, rfl, rfl, rfl, rfl, rfl, rfl, List.forall_mem_nil _⟩
  | step before numbered steps unbroken ih =>
    exact ih.cons (before.latched.steps_books (by decide) numbered steps unbroken)
  | meanwhile _ disk ih =>
    exact ⟨ih.hits, ih.misses, ih.asked, ih.reads, ih.writes, ih.invalidations, ih.entries,
      ih.booked⟩

/-- A page is made, and makes room for one that the file does not have. -/
theorem balances_of_miss :
    let made : PageId := ⟨1, by decide⟩
    let sought : PageId := ⟨3, by decide⟩
    let s := (oneFrame.step (.create made)).2
    let t := (s.step (.read sought)).2
    let events : List (PoolEvent 1 2) :=
      [⟨s, .read sought, .failed (.error (.pageNotFound sought)), t⟩,
        ⟨oneFrame, .create made, .done .done, s⟩]
    Traced events t ∧ t.Balances events ∧
      t.pool.counters = { misses := 1, evictions := 1, writes := 1 } := by
  intro made sought s t events
  have start : Traced [] oneFrame := .made (show Pool.ofDisk (Disk.ofNew 8) = .ok _ from rfl)
  have once : Traced [⟨oneFrame, .create made, .done .done, s⟩] s :=
    start.step (show 1 + 1 < 0x100000000 by decide) (.made _) (by simp)
  have fails : (s.step (.read sought)).1 = .failed (.error (.pageNotFound sought)) := by decide +kernel
  have steps : s.Steps (.read sought) (.failed (.error (.pageNotFound sought))) t :=
    fails ▸ .made (.read sought)
  have traced : Traced events t :=
    once.step (show 3 + 1 < 0x100000000 by decide) steps (by simp)
  exact ⟨traced, traced.balances, by decide +kernel⟩

end Traced

end GuardedPool

end PagedStorage
