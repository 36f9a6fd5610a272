import Mathlib.Data.Finset.Max
import PagedStorage.Proofs.EngineAnswers

/-!
# A plain page store

What an engine does for its callers, without frames, file and recency: it knows how many pages were
issued, which of them are free, and the bytes of each (`PageStore`). An engine that is used by itself
is such a store (`Engine.Refines`): a request is answered alike by both, and leaves them alike.
-/

namespace PagedStorage

/-! ### The store -/

structure PageStore (config : Config) where
  /-- The number of pages that have been issued. -/
  total : Nat
  /-- The issued pages that were given back. -/
  free : Finset Nat
  contents : Nat → Block config.pageSize
  closed : Bool
  total_lt : total < 0x100000000
  free_lt : ∀ n ∈ free, n < total

namespace PageStore

variable {config : Config}

/-- The pages of a file, all of them live. Bytes behind the last whole page are no page. -/
def ofFile (config : Config) (file : File) (numbered : file.size / config.pageSize < 0x100000000) :
    PageStore config where
  total := file.size / config.pageSize
  free := ∅
  contents n := Vector.ofFn fun j => file.byteAt (n * config.pageSize + j.val)
  closed := false
  total_lt := numbered
  free_lt := by simp

def isLive (s : PageStore config) (page : PageId) : Prop :=
  page.index < s.total ∧ page.index ∉ s.free

instance (s : PageStore config) (page : PageId) : Decidable (s.isLive page) :=
  inferInstanceAs (Decidable (_ ∧ _))

/-- Why a page that is not live is neither read nor written. -/
def refusal (s : PageStore config) (page : PageId) : StoreError :=
  if page.index < s.total then .pageNotFound page else .invalidPageId page

/-- Issues the lowest free page again. -/
def recycle (s : PageStore config) (some : s.free.Nonempty) : PageStore config :=
  { s with
    free := s.free.erase (s.free.min' some)
    contents := Function.update s.contents (s.free.min' some) .zero
    free_lt := fun n free => s.free_lt n (Finset.mem_of_mem_erase free) }

/-- Issues the page behind all that have been issued. -/
def grow (s : PageStore config) (room : s.total < config.pageLimit) : PageStore config :=
  { s with
    total := s.total + 1
    contents := Function.update s.contents s.total .zero
    total_lt := Nat.lt_of_le_of_lt room (Nat.lt_succ_of_le (Nat.min_le_right ..))
    free_lt := fun n free => Nat.lt_succ_of_lt (s.free_lt n free) }

def release (s : PageStore config) (page : PageId) (live : s.isLive page) : PageStore config :=
  { s with
    free := insert page.index s.free
    free_lt := by
      intro n free
      rcases Finset.mem_insert.mp free with rfl | before
      · exact live.1
      · exact s.free_lt n before }

/-- Makes a request of the store. -/
def step (s : PageStore config) (request : StoreRequest) :
    Outcome EngineReply × PageStore config :=
  if s.closed then (.failed (.error .closed), s)
  else
    match request with
    | .allocate =>
      if some : s.free.Nonempty then
        (.done (.allocated ⟨s.free.min' some,
          (s.free_lt _ (s.free.min'_mem some)).trans s.total_lt⟩), s.recycle some)
      else if room : s.total < config.pageLimit then
        (.done (.allocated ⟨s.total, s.total_lt⟩), s.grow room)
      else
        (.failed (.error (.allocationExhausted ((s.total + 1) * config.pageSize)
          (config.pageLimit * config.pageSize))), s)
    | .deallocate page =>
      if live : s.isLive page then (.done .done, s.release page live)
      else (.failed (.error (.invalidPageId page)), s)
    | .write page =>
      match Block.ofArray? page.bytes with
      | none => (.failed (.error (.pageSizeMismatch config.pageSize page.length)), s)
      | some block =>
        if s.isLive page.id then
          (.done .done, { s with contents := Function.update s.contents page.id.index block })
        else (.failed (.error (s.refusal page.id)), s)
    | .read page =>
      if s.isLive page then (.done (.page ⟨page, (s.contents page.index).toArray⟩), s)
      else (.failed (.error (s.refusal page)), s)
    | .sync => (.done .done, s)
    | .close => (.done .done, { s with closed := true })

end PageStore

/-! ### Engines are such stores -/

namespace Engine

variable {config : Config} {e f : Engine config}

/-- The engine does what the store does. -/
structure Refines (e : Engine config) (s : PageStore config) : Prop where
  sound : e.Sound
  closed_eq : s.closed = e.closed
  total_eq : s.total = e.allocator.total
  mem_free_iff : ∀ q : PageId, q.index ∈ s.free ↔ e.allocator.free.contains q = true
  contents_eq : ∀ q, e.allocator.isLive q = true → s.contents q.index = e.pool.bytesOf q

namespace Refines

variable {s : PageStore config} {page : PageId}

theorem isLive_iff (refines : e.Refines s) (q : PageId) :
    s.isLive q ↔ e.allocator.isLive q = true := by
  rw [Allocator.isLive_iff, PageStore.isLive, refines.total_eq, refines.mem_free_iff,
    Bool.not_eq_true]

/-- The engine and the store refuse a page that is not live for the same reason. -/
private theorem refusal_of_checkLive {why : StoreError} (refines : e.Refines s)
    (refused : e.allocator.checkLive page = .error why) : ¬ s.isLive page ∧ why = s.refusal page := by
  have dead : ¬ s.isLive page := by
    rw [refines.isLive_iff, ← Allocator.checkLive_eq_ok_iff, refused]
    nofun
  constructor
  · exact dead
  · -- Both ask first whether the page was issued.
    unfold Allocator.checkLive at refused
    unfold PageStore.refusal
    rw [refines.total_eq]
    split at refused
    · next beyond =>
      cases refused
      rw [if_neg (Nat.not_lt.mpr beyond)]
    · next issued =>
      split at refused
      · cases refused
        rw [if_pos (Nat.not_le.mp issued)]
      · cases refused

/-- The lowest number among the free ones is that of the lowest free page. -/
theorem min'_eq (refines : e.Refines s) (some : s.free.Nonempty)
    (lowest : e.allocator.free.min? = Option.some page) : s.free.min' some = page.index := by
  obtain ⟨free, least⟩ := Allocator.min?_eq_some_iff.mp lowest
  -- Each of the two is among those of which the other is the least.
  apply Nat.le_antisymm
  · exact s.free.min'_le _ ((refines.mem_free_iff page).mpr free)
  · apply Finset.le_min'
    intro n listed
    let q : PageId := ⟨n, (s.free_lt n listed).trans s.total_lt⟩
    exact least q ((refines.mem_free_iff q).mp listed)

theorem free_eq_empty (refines : e.Refines s) (none : e.allocator.free = ∅) : s.free = ∅ := by
  rw [Finset.eq_empty_iff_forall_notMem]
  intro n listed
  have free := (refines.mem_free_iff ⟨n, (s.free_lt n listed).trans s.total_lt⟩).mp listed
  simp [none] at free

/-- A step that leaves the allocator alone. -/
private theorem of_turns {asked : Nat} {after : PageId → Block config.pageSize}
    {pool : Pool config.bufferSize config.pageSize} {closed : Bool} {u : PageStore config}
    (refines : e.Refines s) (turns : e.Turns { e with closed, pool } asked after)
    (closed_eq : u.closed = closed) (total_eq : u.total = s.total) (free_eq : u.free = s.free)
    (contents_eq : ∀ q, e.allocator.isLive q = true → u.contents q.index = after q) :
    Refines { e with closed, pool } u := by
  constructor
  case sound => exact turns.sound
  case closed_eq => exact closed_eq
  case total_eq => exact total_eq.trans refines.total_eq
  case mem_free_iff =>
    intro q
    rw [free_eq]
    exact refines.mem_free_iff q
  case contents_eq =>
    intro q live
    rw [turns.bytesOf q live]
    exact contents_eq q live

/-- New bytes of one page are the same, whether pages are told by number or by name. -/
private theorem update_index {contents : Nat → Block config.pageSize}
    {after : PageId → Block config.pageSize} {q : PageId} (block : Block config.pageSize)
    (same : q ≠ page → contents q.index = after q) :
    Function.update contents page.index block q.index = Function.update after page block q := by
  by_cases equal : q = page
  · subst equal
    rw [Function.update_self, Function.update_self]
  · rw [Function.update_of_ne (mt PageId.index_inj.mp equal), Function.update_of_ne equal]
    exact same equal

/-- The page that was issued is zero, and the others are as they were. -/
private theorem contents_issued (refines : e.Refines s) {issued : Allocation} {b : Allocator}
    (issues : e.allocator.Issues issued b) {pool : Pool config.bufferSize config.pageSize}
    (turns : e.Turns ⟨b, e.closed, pool⟩ 0 (Function.update e.pool.bytesOf issued.page .zero))
    (q : PageId) (live : b.isLive q = true) :
    Function.update s.contents issued.page.index .zero q.index = pool.bytesOf q := by
  rw [turns.bytesOf q live]
  apply update_index
  intro other
  apply refines.contents_eq
  exact ((issues.isLive_iff refines.sound.issued q).mp live).resolve_right other

/-- The store issues the page that the engine issues. -/
private theorem step_allocated (refines : e.Refines s) (opened : e.closed = false)
    {issued : Allocation} {b : Allocator} (issues : e.allocator.Issues issued b)
    {pool : Pool config.bufferSize config.pageSize}
    (turns : e.Turns ⟨b, e.closed, pool⟩ 0 (Function.update e.pool.bytesOf issued.page .zero)) :
    .done (.allocated issued.page) = (s.step .allocate).1 ∧
      Refines ⟨b, e.closed, pool⟩ (s.step .allocate).2 := by
  have awake := refines.closed_eq.trans opened
  have contents := contents_issued refines issues turns
  cases issues with
  | @recycled page lowest =>
    have free := (Allocator.min?_eq_some_iff.mp lowest).1
    have some : s.free.Nonempty := ⟨page.index, (refines.mem_free_iff page).mpr free⟩
    -- The lowest number and the lowest page are the same page.
    have least := refines.min'_eq some lowest
    simp only [PageStore.step, awake, Bool.false_eq_true, if_false, some, dif_pos]
    constructor
    · congr 2
      exact PageId.ext_index least.symm
    · constructor
      case sound => exact turns.sound
      case closed_eq => exact awake.trans opened.symm
      case total_eq => exact refines.total_eq
      case mem_free_iff =>
        intro q
        rw [Allocator.contains_recycled, PageStore.recycle, Finset.mem_erase, least,
          refines.mem_free_iff, ne_eq, PageId.index_inj]
      case contents_eq => simpa only [PageStore.recycle, least] using contents
  | grown none room =>
    have empty := refines.free_eq_empty none
    have edge : s.total = e.allocator.total := refines.total_eq
    have below : s.total < config.pageLimit := by
      rw [edge, ← refines.sound.maxPages_eq]
      exact room
    simp only [PageStore.step, awake, Bool.false_eq_true, if_false, empty,
      Finset.not_nonempty_empty, dif_neg, not_false_eq_true, below, dif_pos]
    constructor
    · congr 2
      exact PageId.ext_index edge.symm
    · constructor
      case sound => exact turns.sound
      case closed_eq => exact awake.trans opened.symm
      case total_eq => exact congrArg (· + 1) edge
      case mem_free_iff => exact refines.mem_free_iff
      case contents_eq =>
        intro q live
        rw [← contents q live]
        show Function.update s.contents s.total .zero q.index = _
        rw [edge]
        rfl

/-- The store is full when the engine is, and says so in the same words. -/
private theorem step_exhausted (refines : e.Refines s) (small : config.pageSize < 0x100000000)
    (opened : e.closed = false) (none : e.allocator.free = ∅)
    (full : ¬ e.allocator.total < e.allocator.maxPages) :
    .failed e.allocator.exhausted = (s.step .allocate).1 ∧ e.Refines (s.step .allocate).2 := by
  have awake := refines.closed_eq.trans opened
  have empty := refines.free_eq_empty none
  have above : ¬ s.total < config.pageLimit := by
    rw [refines.total_eq, ← refines.sound.maxPages_eq]
    exact full
  rw [Allocator.exhausted_eq refines.sound.pageSize_eq small]
  simp only [PageStore.step, awake, Bool.false_eq_true, if_false, empty,
    Finset.not_nonempty_empty, dif_neg, not_false_eq_true, above]
  rw [refines.total_eq, refines.sound.maxPages_eq]
  exact ⟨rfl, refines⟩

private theorem step_deallocated (refines : e.Refines s) (opened : e.closed = false)
    (live : e.allocator.isLive page = true) {pool : Pool config.bufferSize config.pageSize}
    (turns : e.Turns ⟨e.allocator.returned page, e.closed, pool⟩ 0 e.pool.bytesOf) :
    .done .done = (s.step (.deallocate page)).1 ∧
      Refines ⟨e.allocator.returned page, e.closed, pool⟩ (s.step (.deallocate page)).2 := by
  have awake := refines.closed_eq.trans opened
  have known := (refines.isLive_iff page).mpr live
  simp only [PageStore.step, awake, Bool.false_eq_true, if_false, known, dif_pos, true_and]
  constructor
  case sound => exact turns.sound
  case closed_eq => exact awake.trans opened.symm
  case total_eq => exact refines.total_eq
  case mem_free_iff =>
    intro q
    rw [Allocator.contains_returned, PageStore.release, Finset.mem_insert, PageId.index_inj,
      refines.mem_free_iff]
  case contents_eq =>
    intro q still
    rw [turns.bytesOf q still]
    exact refines.contents_eq q ((Allocator.isLive_returned q).mp still).1

/-- The store answers as an engine does, and the two stay alike. -/
theorem step_of_answers {request : StoreRequest} {outcome : Outcome EngineReply}
    (refines : e.Refines s) (small : config.pageSize < 0x100000000)
    (answers : e.Answers request outcome f) :
    outcome = (s.step request).1 ∧ f.Refines (s.step request).2 := by
  -- One case for each way to answer. What the engine refuses leaves both as they were.
  have closed := refines.closed_eq
  cases answers with
  | closed shut =>
    simp only [PageStore.step, closed, shut, if_true, true_and]
    exact refines
  | allocated opened issues ran turns => exact refines.step_allocated opened issues turns
  | exhausted opened none full ran => exact refines.step_exhausted small opened none full
  | deallocated opened live turns => exact refines.step_deallocated opened live turns
  | @kept page opened dead =>
    have awake := closed.trans opened
    have unknown : ¬ s.isLive page := by simp [refines.isLive_iff, dead]
    simp only [PageStore.step, awake, Bool.false_eq_true, if_false, unknown, dif_neg,
      not_false_eq_true, true_and]
    exact refines
  | @written page block pool opened fits live turns =>
    have awake := closed.trans opened
    have known := (refines.isLive_iff page.id).mpr live
    simp only [PageStore.step, awake, Bool.false_eq_true, if_false, fits, known, if_true,
      true_and]
    refine refines.of_turns turns opened.symm rfl rfl ?_
    intro q still
    exact update_index block fun _ => refines.contents_eq q still
  | mismatched opened fits =>
    have awake := closed.trans opened
    simp only [PageStore.step, awake, Bool.false_eq_true, if_false, fits, true_and]
    exact refines
  | @unwritten page block why opened fits refused =>
    have awake := closed.trans opened
    obtain ⟨dead, rfl⟩ := refines.refusal_of_checkLive refused
    simp only [PageStore.step, awake, Bool.false_eq_true, if_false, fits, dead, true_and]
    exact refines
  | @shown page pool opened live turns =>
    have awake := closed.trans opened
    have known := (refines.isLive_iff page).mpr live
    simp only [PageStore.step, awake, Bool.false_eq_true, if_false, known, if_true,
      refines.contents_eq page live, true_and]
    exact refines.of_turns turns closed rfl rfl refines.contents_eq
  | @unread page why opened refused =>
    have awake := closed.trans opened
    obtain ⟨dead, rfl⟩ := refines.refusal_of_checkLive refused
    simp only [PageStore.step, awake, Bool.false_eq_true, if_false, dead, true_and]
    exact refines
  | synced opened turns saved =>
    have awake := closed.trans opened
    simp only [PageStore.step, awake, Bool.false_eq_true, if_false, true_and]
    exact refines.of_turns turns closed rfl rfl refines.contents_eq
  | shut opened turns saved =>
    have awake := closed.trans opened
    simp only [PageStore.step, awake, Bool.false_eq_true, if_false, true_and]
    exact refines.of_turns turns rfl rfl rfl refines.contents_eq

/-- A request is answered as by the plain store, and leaves the two alike. -/
theorem step_refines (refines : e.Refines s) (small : config.pageSize < 0x100000000)
    (request : StoreRequest) :
    (e.step request).1 = (s.step request).1 ∧ (e.step request).2.Refines (s.step request).2 :=
  refines.step_of_answers small
    (step_answers refines.sound (Config.spans_of_pageSize small) request)

end Refines

end Engine

end PagedStorage
