import PagedStorage.Allocator
import PagedStorage.Proofs.Runs

/-!
# Issuing pages

The free pages are among those that were issued, so a page that is issued was not live before, and it
is the only one whose state changes. `Issues` tells the two ways in which that happens; otherwise
the request is refused and nothing changes.
-/

namespace PagedStorage

theorem PageId.index_inj {p q : PageId} : p.index = q.index ↔ p = q :=
  ⟨PageId.ext_index, congrArg PageId.index⟩

namespace Allocator

variable {a b : Allocator} {page q : PageId} {issued : Allocation}

def Sound (a : Allocator) : Prop := ∀ q, a.free.contains q = true → q.index < a.total

/-- The allocator after a free page was issued again. -/
def recycled (a : Allocator) (page : PageId) : Allocator := { a with free := a.free.erase page }

theorem total_succ_lt (a : Allocator) (h : a.total < a.maxPages) : a.total + 1 < 0x100000000 :=
  Nat.lt_of_le_of_lt h a.maxPages_lt

/-- The allocator after its extent has grown. -/
def grown (a : Allocator) (h : a.total < a.maxPages) : Allocator :=
  { a with total := a.total + 1, total_lt := a.total_succ_lt h }

/-- The allocator after a page was given back. -/
def returned (a : Allocator) (page : PageId) : Allocator := { a with free := a.free.insert page }

inductive Issues (a : Allocator) : Allocation → Allocator → Prop
  | recycled {page : PageId} (lowest : a.free.min? = some page) :
      Issues a ⟨page, true⟩ (a.recycled page)
  | grown (none : a.free = ∅) (h : a.total < a.maxPages) : Issues a ⟨a.frontier, false⟩ (a.grown h)

/-- What is answered when no page can be issued. The bytes that are named are computed on 64 bits. -/
def exhausted (a : Allocator) : Failure :=
  match a.frontier.endOffset a.pageSize, Checked.mul a.maxPages a.pageSize with
  | .ok required, .ok limit => .error (.allocationExhausted required limit)
  | .error f, _ => .fault f
  | .ok _, .error f => .fault f

/-- The pages up to the extent and up to the limit begin at offsets, so all that may be too large to
be named is the end of the next page. -/
theorem exhausted_eq_ite (reached : a.total * a.pageSize < 0x10000000000000000)
    (limit : a.maxPages * a.pageSize < 0x10000000000000000) :
    a.exhausted =
      if (a.total + 1) * a.pageSize < 0x10000000000000000 then
        .error (.allocationExhausted ((a.total + 1) * a.pageSize) (a.maxPages * a.pageSize))
      else .fault .addOverflow := by
  have required : a.frontier.endOffset a.pageSize =
      if (a.total + 1) * a.pageSize < 0x10000000000000000 then .ok ((a.total + 1) * a.pageSize)
      else .error .addOverflow := PageId.endOffset_eq reached
  have allowed : Checked.mul a.maxPages a.pageSize = .ok (a.maxPages * a.pageSize) := if_pos limit
  by_cases ends : (a.total + 1) * a.pageSize < 0x10000000000000000
  · simp only [exhausted, required, allowed, ends, if_true]
  · simp only [exhausted, required, allowed, ends, if_false]

/-- Pages of less than 4 GiB are all named by offsets. -/
theorem exhausted_eq {pageSize : Nat} (long : a.pageSize = pageSize)
    (small : pageSize < 0x100000000) :
    a.exhausted = .error (.allocationExhausted ((a.total + 1) * pageSize) (a.maxPages * pageSize)) := by
  subst long
  have next := a.frontier.end_lt_of_small small
  have last := PageId.end_lt_of_small ⟨a.maxPages, a.maxPages_lt⟩ small
  rw [exhausted_eq_ite (PageId.begin_lt_of_end_lt next) (PageId.begin_lt_of_end_lt last)]
  exact if_pos next

/-! ### Free pages -/

@[simp] theorem total_recycled (a : Allocator) (page : PageId) :
    (a.recycled page).total = a.total := rfl

@[simp] theorem total_grown (a : Allocator) (h : a.total < a.maxPages) :
    (a.grown h).total = a.total + 1 := rfl

@[simp] theorem free_grown (a : Allocator) (h : a.total < a.maxPages) :
    (a.grown h).free = a.free := rfl

theorem contains_recycled :
    (a.recycled page).free.contains q = true ↔ q ≠ page ∧ a.free.contains q = true := by
  simp only [recycled, Std.ExtTreeSet.contains_iff_mem, Std.ExtTreeSet.mem_erase,
    Std.compare_eq_iff_eq, ne_eq, @eq_comm _ page q]

theorem contains_returned :
    (a.returned page).free.contains q = true ↔ q = page ∨ a.free.contains q = true := by
  simp only [returned, Std.ExtTreeSet.contains_iff_mem, Std.ExtTreeSet.mem_insert,
    Std.compare_eq_iff_eq, @eq_comm _ page q]

theorem returned_recycled (free : a.free.contains page = true) :
    (a.recycled page).returned page = a := by
  have again : ((a.recycled page).returned page).free = a.free := by
    apply Std.ExtTreeSet.ext_contains
    intro q
    rw [Bool.eq_iff_iff, contains_returned, contains_recycled]
    by_cases same : q = page
    · simp [same, free]
    · simp [same]
  calc (a.recycled page).returned page
      = { a with free := ((a.recycled page).returned page).free } := rfl
    _ = a := by rw [again]

theorem recycled_returned (fresh : a.free.contains page = false) :
    (a.returned page).recycled page = a := by
  have again : ((a.returned page).recycled page).free = a.free := by
    apply Std.ExtTreeSet.ext_contains
    intro q
    rw [Bool.eq_iff_iff, contains_recycled, contains_returned]
    by_cases same : q = page
    · simp [same, fresh]
    · simp [same]
  calc (a.returned page).recycled page
      = { a with free := ((a.returned page).recycled page).free } := rfl
    _ = a := by rw [again]

/-- The first page of a tree is the one at its left end. -/
private theorem keyAtIdx?_zero_of_balanced {m : Std.DTreeMap.Internal.Impl PageId fun _ => Unit}
    (balanced : m.Balanced) : m.keyAtIdx? 0 = m.minKey? := by
  -- The first page is that of the left subtree, or of the root if that is empty.
  induction balanced with
  | leaf => simp [Std.DTreeMap.Internal.Impl.keyAtIdx?, Std.DTreeMap.Internal.Impl.minKey?]
  | @inner size key value l r left right _ _ first =>
    cases left with
    | leaf =>
      simp [Std.DTreeMap.Internal.Impl.keyAtIdx?, Std.DTreeMap.Internal.Impl.minKey?,
        Std.DTreeMap.Internal.Impl.size]
    | @inner more key value ll lr _ _ _ sized =>
      have further : compare 0 (Std.DTreeMap.Internal.Impl.inner more key value ll lr).size = .lt := by
        rw [Std.DTreeMap.Internal.Impl.size, Nat.compare_eq_lt]
        omega
      rw [Std.DTreeMap.Internal.Impl.minKey?, ← first, Std.DTreeMap.Internal.Impl.keyAtIdx?, further]

/-- The first free page is the lowest. -/
private theorem atIdx?_zero (free : Std.ExtTreeSet PageId) : free.atIdx? 0 = free.min? := by
  obtain ⟨⟨m⟩⟩ := free
  induction m using Std.ExtDTreeMap.inductionOn with
  | mk m => exact keyAtIdx?_zero_of_balanced m.wf.balanced

theorem min?_eq_some_iff :
    a.free.min? = some page ↔
      a.free.contains page = true ∧ ∀ q, a.free.contains q = true → page.index ≤ q.index := by
  rw [Std.ExtTreeSet.min?_eq_some_iff_mem_and_forall]
  simp only [← Std.ExtTreeSet.contains_iff_mem, PageId.compare_eq, Nat.isLE_compare]

/-- A page that is the only free one is issued next. -/
theorem min?_returned (none : a.free = ∅) : (a.returned page).free.min? = some page := by
  have only : ∀ q, (a.returned page).free.contains q = true ↔ q = page := by
    intro q
    rw [contains_returned]
    simp [none]
  refine min?_eq_some_iff.mpr ⟨(only page).mpr rfl, fun q free => ?_⟩
  obtain rfl := (only q).mp free
  exact Nat.le_refl _

theorem Sound.not_contains_frontier (h : a.Sound) : a.free.contains a.frontier = false := by
  cases free : a.free.contains a.frontier with
  | false => rfl
  | true => exact absurd (h _ free) (Nat.lt_irrefl _)

/-! ### Issuing -/

theorem allocate_cases (a : Allocator) :
    (∃ issued b, a.Issues issued b ∧ allocate a = .ok issued b) ∨
      (a.free = ∅ ∧ ¬ a.total < a.maxPages ∧ allocate a = .error a.exhausted a) := by
  cases lowest : a.free.min? with
  | some page =>
    left
    refine ⟨_, _, .recycled lowest, ?_⟩
    simp only [allocate, Action.run_bind, Action.run_get, atIdx?_zero, lowest, Action.run_set,
      Action.run_pure]
    rfl
  | none =>
    -- No page is free, so the extent grows or the request is refused.
    have none := Std.ExtTreeSet.min?_eq_none_iff.mp lowest
    by_cases room : a.total < a.maxPages
    · left
      refine ⟨_, _, .grown none room, ?_⟩
      simp only [allocate, Action.run_bind, Action.run_get, atIdx?_zero, lowest, room, dif_pos,
        Action.run_set, Action.run_pure]
      rfl
    · right
      refine ⟨none, room, ?_⟩
      unfold exhausted
      cases first : a.frontier.endOffset a.pageSize with
      | error f => simp [allocate, atIdx?_zero, lowest, room, first]
      | ok required =>
        cases second : Checked.mul a.maxPages a.pageSize <;>
          simp [allocate, atIdx?_zero, lowest, room, first, second]

theorem allocate_eq_ok_iff : allocate a = .ok issued b ↔ a.Issues issued b := by
  constructor
  · intro ran
    rcases allocate_cases a with ⟨given, c, issues, same⟩ | ⟨-, -, failed⟩
    · rw [ran] at same
      cases same
      exact issues
    · rw [ran] at failed
      cases failed
  · intro issues
    cases issues with
    | recycled lowest => simp [allocate, atIdx?_zero, lowest, recycled]
    | grown none room => simp [allocate, atIdx?_zero, none, room, grown]

theorem allocate_eq_error_iff {why : Failure} :
    allocate a = .error why b ↔
      a.free = ∅ ∧ a.maxPages ≤ a.total ∧ why = a.exhausted ∧ b = a := by
  rcases allocate_cases a with ⟨given, c, issues, done⟩ | ⟨none, full, failed⟩
  · simp only [done, reduceCtorEq, false_iff]
    rintro ⟨none, full, -⟩
    cases issues with
    | recycled lowest => simp [none] at lowest
    | grown _ room => exact absurd room (Nat.not_lt.mpr full)
  · simp only [failed, none, Nat.not_lt.mp full, true_and, EStateM.Result.error.injEq, eq_comm]

namespace Issues

variable (issues : a.Issues issued b) (h : a.Sound)
include issues

theorem pageSize_eq : b.pageSize = a.pageSize := by
  cases issues <;> rfl

theorem maxPages_eq : b.maxPages = a.maxPages := by
  cases issues <;> rfl

theorem total_le : a.total ≤ b.total := by
  cases issues with
  | recycled => exact Nat.le_refl _
  | grown => exact Nat.le_succ _

/-- A page that has a number below the new extent had one before, or is the new one. -/
theorem lt_total (q : PageId) (below : q.index < b.total) : q.index < a.total ∨ q = issued.page := by
  cases issues with
  | recycled => exact .inl below
  | grown none room =>
    rcases Nat.lt_succ_iff_lt_or_eq.mp below with inside | edge
    · exact .inl inside
    · exact .inr (PageId.ext_index edge)

theorem not_live : a.isLive issued.page = false := by
  cases issues with
  | recycled lowest => simp [isLive, (min?_eq_some_iff.mp lowest).1]
  | grown => simp [isLive, frontier]

/-- One more page is live. -/
theorem size_eq : b.total + a.free.size = a.total + b.free.size + 1 := by
  cases issues with
  | @recycled page lowest =>
    have free := (min?_eq_some_iff.mp lowest).1
    have some : a.free.size ≠ 0 := by
      rw [Ne, ← Std.ExtTreeSet.eq_empty_iff_size_eq_zero]
      exact Std.ExtTreeSet.ne_empty_of_mem free
    have left : (a.recycled page).free.size = a.free.size - 1 := by
      rw [Allocator.recycled, Std.ExtTreeSet.size_erase, if_pos free]
    rw [total_recycled, left]
    omega
  | grown none room =>
    rw [total_grown, free_grown]
    omega

/-- Taking back what was just issued leaves the allocator as it was. -/
theorem rollback_eq : rollback issued b = .ok () a := by
  cases issues with
  | @recycled page lowest =>
    have ran : rollback ⟨page, true⟩ (a.recycled page) =
        .ok () ((a.recycled page).returned page) := by
      simp only [rollback, Action.run_bind, Action.run_get, if_true, Action.run_set]
      rfl
    rw [ran, returned_recycled (min?_eq_some_iff.mp lowest).1]
  | grown none room =>
    -- Another page fits, so the number of the one that is taken back has a successor.
    have ends : a.frontier.index + 1 = (a.grown room).total := rfl
    have numbered : (a.grown room).total ≠ 0x100000000 := Nat.ne_of_lt (a.total_succ_lt room)
    simp only [rollback, Action.run_bind, Action.run_get, Action.run_ite, ends, numbered, if_true,
      if_false, Bool.false_eq_true, Action.run_set]
    rfl

include h

theorem sound : b.Sound := by
  intro q free
  cases issues with
  | recycled => exact h q (contains_recycled.mp free).2
  | grown => exact Nat.lt_succ_of_lt (h q free)

/-- A page that is issued has a successor. -/
theorem index_succ_lt : issued.page.index + 1 < 0x100000000 := by
  cases issues with
  | recycled lowest =>
    exact Nat.lt_of_le_of_lt (h _ (min?_eq_some_iff.mp lowest).1) a.total_lt
  | grown none room => exact a.total_succ_lt room

theorem isLive_iff (q : PageId) : b.isLive q = true ↔ a.isLive q = true ∨ q = issued.page := by
  rw [Allocator.isLive_iff, Allocator.isLive_iff]
  cases issues with
  | @recycled page lowest =>
    have inside := h page (min?_eq_some_iff.mp lowest).1
    rw [← Bool.not_eq_true, ← Bool.not_eq_true, contains_recycled]
    by_cases same : q = page
    · subst same
      simpa using inside
    · simp [same]
  | grown none room =>
    have fresh := h.not_contains_frontier
    rw [or_comm]
    by_cases same : q = a.frontier
    · subst same
      have next : a.frontier.index < a.total + 1 := Nat.lt_succ_self a.total
      simpa [fresh] using next
    · -- Only the number of the frontier is new below the extent.
      have apart : q.index ≠ a.total := fun edge => same (PageId.ext_index edge)
      have below : q.index < a.total + 1 ↔ q.index < a.total := by omega
      simp [same, below]

end Issues

/-- From `a` to `b` one page joins the live ones, unless it was live. -/
structure Gains (a b : Allocator) (page : PageId) : Prop where
  pageSize_eq : b.pageSize = a.pageSize
  maxPages_eq : b.maxPages = a.maxPages
  sound : b.Sound
  total_le : a.total ≤ b.total
  lt_total : ∀ q : PageId, q.index < b.total → q.index < a.total ∨ q = page
  isLive_iff : ∀ q, b.isLive q = true ↔ a.isLive q = true ∨ q = page

theorem Issues.gains (issues : a.Issues issued b) (h : a.Sound) : a.Gains b issued.page :=
  ⟨issues.pageSize_eq, issues.maxPages_eq, issues.sound h, issues.total_le, issues.lt_total,
    issues.isLive_iff h⟩

theorem Sound.gains_of_live (h : a.Sound) (live : a.isLive page = true) : a.Gains a page := by
  have isLive_iff : ∀ q, a.isLive q = true ↔ a.isLive q = true ∨ q = page := by
    intro q
    constructor
    · exact .inl
    · rintro (before | rfl)
      · exact before
      · exact live
  exact ⟨rfl, rfl, h, Nat.le_refl _, fun q => .inl, isLive_iff⟩

theorem size_returned (live : a.isLive page = true) :
    (a.returned page).free.size = a.free.size + 1 := by
  have fresh := (isLive_iff.mp live).2
  rw [returned, Std.ExtTreeSet.size_insert, if_neg (by simp [fresh])]

theorem deallocate_eq (a : Allocator) (page : PageId) :
    deallocate page a =
      if a.isLive page then .ok () (a.returned page)
      else .error (.error (.invalidPageId page)) a := by
  by_cases live : a.isLive page = true
  · simp only [deallocate, Action.run_bind, Action.run_get, Action.run_ite, live, if_true,
      Action.run_set]
    rfl
  · simp [deallocate, live]

theorem Sound.returned (h : a.Sound) (live : a.isLive page = true) : (a.returned page).Sound := by
  intro q free
  rcases contains_returned.mp free with rfl | before
  · exact (Allocator.isLive_iff.mp live).1
  · exact h q before

theorem isLive_returned (q : PageId) :
    (a.returned page).isLive q = true ↔ a.isLive q = true ∧ q ≠ page := by
  rw [Allocator.isLive_iff, Allocator.isLive_iff, ← Bool.not_eq_true, ← Bool.not_eq_true,
    contains_returned, and_assoc, not_or, and_comm (a := ¬ q = page)]
  rfl

/-- Pages that have a length can be issued, and at first no page is free. -/
theorem ofExtent_eq_ok_iff {extent pageSize maxFileSize : Nat} {h : extent < 0x100000000} :
    ofExtent extent h pageSize maxFileSize = .ok a ↔
      0 < pageSize ∧ a.pageSize = pageSize ∧
        a.maxPages = min (maxFileSize / pageSize) 0xffffffff ∧ a.total = extent ∧ a.free = ∅ := by
  by_cases none : pageSize = 0
  · subst none
    constructor
    · rintro ⟨⟩
    · rintro ⟨long, -⟩
      exact absurd long (Nat.lt_irrefl 0)
  · have some := Nat.pos_of_ne_zero none
    simp only [ofExtent, Checked.div, none, if_false, some, true_and]
    constructor
    · rintro ⟨⟩
      exact ⟨rfl, rfl, rfl, rfl⟩
    · -- An allocator is known by its fields.
      obtain ⟨_, _, _, _, _, _⟩ := a
      dsimp only
      rintro ⟨rfl, rfl, rfl, rfl⟩
      rfl

theorem exists_ofExtent {extent pageSize : Nat} (long : 0 < pageSize) (h : extent < 0x100000000)
    (maxFileSize : Nat) : ∃ a, ofExtent extent h pageSize maxFileSize = .ok a := by
  let a : Allocator := ⟨pageSize, min (maxFileSize / pageSize) 0xffffffff, extent, ∅, by omega, h⟩
  exact ⟨a, ofExtent_eq_ok_iff.mpr ⟨long, rfl, rfl, rfl, rfl⟩⟩

end Allocator

end PagedStorage
