import Mathlib.Data.Set.Card
import Mathlib.Order.Interval.Set.Nat
import PagedStorage.Proofs.Issuing
import PagedStorage.Session.Outcome

/-!
# Live and free pages

Whatever is asked of an allocator, and in whatever order, the pages below its extent are parted into
live and free ones (`Runs.parts_pages`). A page joins the live ones when it is issued, free pages before
new ones and the lowest of them first, and leaves them when it is given back or its allocation is taken
back.

An allocation is taken back while it is the last one and its page is live. So no page was issued since,
and a page that made the extent grow ends it still: what is cut off is that page and no other.
-/

namespace PagedStorage

namespace Allocator

variable {start a b : Allocator} {latest : Option Allocation} {issued : Allocation} {page : PageId}

/-- What becomes of an allocator, together with the page that it issued last. A request may fail, and
the run goes on with what it has left. -/
inductive Runs (start : Allocator) : Option Allocation → Allocator → Prop
  | started : Runs start none start
  | allocated {latest : Option Allocation} {a b : Allocator} {issued : Allocation}
      (before : Runs start latest a) (ran : allocate a = .ok issued b) : Runs start (some issued) b
  | refused {latest : Option Allocation} {a b : Allocator} {why : Failure}
      (before : Runs start latest a) (ran : allocate a = .error why b) : Runs start latest b
  | deallocated {latest : Option Allocation} {a : Allocator} (before : Runs start latest a)
      (page : PageId) : Runs start latest (Outcome.ofAction (deallocate page) a).2
  /-- The last allocation is taken back, unless its page was given back before. -/
  | takenBack {issued : Allocation} {a : Allocator} (before : Runs start (some issued) a)
      (live : a.isLive issued.page = true) :
      Runs start (some issued) (Outcome.ofAction (rollback issued) a).2

/-! ### Counting pages -/

theorem ncard_index_lt {n : Nat} (numbered : n ≤ 0x100000000) :
    {q : PageId | q.index < n}.ncard = n := by
  have injective : Function.Injective PageId.index := fun _ _ => PageId.ext_index
  have named : Set.Iio n ⊆ Set.range PageId.index :=
    fun i below => ⟨⟨i, Nat.lt_of_lt_of_le below numbered⟩, rfl⟩
  calc {q : PageId | q.index < n}.ncard
      = (Set.Iio n).ncard := Set.ncard_preimage_of_injective_subset_range injective named
    _ = n := by rw [← Finset.coe_Iio, Set.ncard_coe_finset, Nat.card_Iio]

theorem ncard_free (a : Allocator) : {q | a.free.contains q = true}.ncard = a.free.size := by
  have nodup : a.free.toList.Nodup :=
    Std.ExtTreeSet.distinct_toList.imp fun apart same => apart (Std.compare_eq_iff_eq.mpr same)
  have listed : {q | a.free.contains q = true} = (a.free.toList.toFinset : Set PageId) := by
    ext q
    simp [Std.ExtTreeSet.mem_toList, Std.ExtTreeSet.contains_iff_mem]
  rw [listed, Set.ncard_coe_finset, List.toFinset_card_of_nodup nodup,
    Std.ExtTreeSet.length_toList]

/-- The live pages and the free ones together are those below the extent. -/
theorem Sound.ncard_live (h : a.Sound) :
    {q | a.isLive q = true}.ncard + a.free.size = a.total := by
  have parts : {q | a.isLive q = true} ∪ {q | a.free.contains q = true} =
      {q : PageId | q.index < a.total} := by
    ext q
    simp only [Set.mem_union, Set.mem_ofPred_eq, isLive_iff]
    cases free : a.free.contains q with
    | true => simp [h q free]
    | false => simp
  have apart : Disjoint {q | a.isLive q = true} {q | a.free.contains q = true} := by
    refine Set.disjoint_left.mpr fun q live free => ?_
    exact Bool.false_ne_true ((isLive_iff.mp live).2.symm.trans free)
  have finite : {q : PageId | q.index < a.total}.Finite :=
    (Set.finite_Iio a.total).preimage fun _ _ _ _ => PageId.ext_index
  rw [← parts, Set.finite_union] at finite
  calc {q | a.isLive q = true}.ncard + a.free.size
      = {q | a.isLive q = true}.ncard + {q | a.free.contains q = true}.ncard := by rw [ncard_free]
    _ = {q : PageId | q.index < a.total}.ncard := by
        rw [← parts, Set.ncard_union_eq apart finite.1 finite.2]
    _ = a.total := ncard_index_lt (Nat.le_of_lt a.total_lt)

theorem Sound.liveCount_eq (h : a.Sound) : a.liveCount = .ok {q | a.isLive q = true}.ncard := by
  have sum := h.ncard_live
  rw [liveCount, Checked.sub, if_pos (by omega)]
  exact congrArg Except.ok (by omega)

/-! ### Taking an allocation back -/

/-- The allocator after an allocation was taken back. -/
def takenBack (a : Allocator) (issued : Allocation) : Allocator :=
  if issued.recycled then a.returned issued.page
  else { a with total := issued.page.index, total_lt := issued.page.index_lt }

/-- If the extent grew for the page, the page ends it. -/
def EndsWith (a : Allocator) (issued : Allocation) : Prop :=
  issued.recycled = false → issued.page.index + 1 = a.total

theorem Issues.endsWith (issues : a.Issues issued b) : b.EndsWith issued := by
  cases issues with
  | recycled => nofun
  | grown => exact fun _ => rfl

namespace EndsWith

variable (ends : a.EndsWith issued)
include ends

theorem rollback_eq : rollback issued a = .ok () (a.takenBack issued) := by
  cases again : issued.recycled with
  | true => simp [rollback, takenBack, again, returned]
  | false =>
    have last := ends again
    have numbered : a.total ≠ 0x100000000 := Nat.ne_of_lt a.total_lt
    simp [rollback, takenBack, again, last, numbered]

theorem isLive_takenBack (q : PageId) :
    (a.takenBack issued).isLive q = true ↔ a.isLive q = true ∧ q ≠ issued.page := by
  cases again : issued.recycled with
  | true => simpa [takenBack, again] using isLive_returned q
  | false =>
    -- The extent ends before the page now, and at all other numbers it is as it was.
    have last := ends again
    have below : q.index < issued.page.index ↔ q.index < a.total ∧ q ≠ issued.page := by
      rw [← last, Ne, ← PageId.index_inj]
      omega
    simp [takenBack, again, isLive_iff, below, and_right_comm]

theorem sound_takenBack (h : a.Sound) (live : a.isLive issued.page = true) :
    (a.takenBack issued).Sound := by
  cases again : issued.recycled with
  | true => simpa [takenBack, again] using h.returned live
  | false =>
    have last := ends again
    intro q free
    simp only [takenBack, again, Bool.false_eq_true, if_false] at free ⊢
    -- A free page is not the one that is cut off, which is live.
    have apart : q ≠ issued.page := by
      rintro rfl
      simp [isLive_iff, free] at live
    have below := h q free
    rw [Ne, ← PageId.index_inj] at apart
    omega

theorem total_takenBack_le : (a.takenBack issued).total ≤ a.total := by
  cases again : issued.recycled with
  | true => simp [takenBack, again, returned]
  | false =>
    have last := ends again
    simp only [takenBack, again, Bool.false_eq_true, if_false]
    omega

end EndsWith

/-! ### What every run keeps -/

/-- What is known of an allocator from the one it was made as. -/
structure Tracks (start : Allocator) (latest : Option Allocation) (a : Allocator) : Prop where
  sound : a.Sound
  pageSize_eq : a.pageSize = start.pageSize
  maxPages_eq : a.maxPages = start.maxPages
  total_le : a.total ≤ max start.total start.maxPages
  /-- Until its page is given back, the last allocation can be taken back. -/
  endsWith : ∀ issued, latest = some issued → a.isLive issued.page = true → a.EndsWith issued

namespace Tracks

theorem started (h : start.Sound) : Tracks start none start :=
  ⟨h, rfl, rfl, Nat.le_max_left .., nofun⟩

theorem allocated (h : Tracks start latest a) (issues : a.Issues issued b) :
    Tracks start (some issued) b := by
  constructor
  case sound => exact issues.sound h.sound
  case pageSize_eq => exact issues.pageSize_eq.trans h.pageSize_eq
  case maxPages_eq => exact issues.maxPages_eq.trans h.maxPages_eq
  case total_le =>
    have before := h.total_le
    have limit := h.maxPages_eq
    cases issues with
    | recycled => exact before
    | grown _ room =>
      rw [total_grown]
      omega
  case endsWith =>
    rintro _ ⟨rfl⟩ -
    exact issues.endsWith

theorem returned (h : Tracks start latest a) (live : a.isLive page = true) :
    Tracks start latest (a.returned page) := by
  refine ⟨h.sound.returned live, h.pageSize_eq, h.maxPages_eq, h.total_le, ?_⟩
  intro issued last still
  exact h.endsWith issued last ((isLive_returned issued.page).mp still).1

theorem takenBack (h : Tracks start (some issued) a) (live : a.isLive issued.page = true) :
    Tracks start (some issued) (a.takenBack issued) := by
  have ends := h.endsWith issued rfl live
  have kept : (a.takenBack issued).pageSize = a.pageSize ∧
      (a.takenBack issued).maxPages = a.maxPages := by
    unfold Allocator.takenBack
    split <;> exact ⟨rfl, rfl⟩
  constructor
  case sound => exact ends.sound_takenBack h.sound live
  case pageSize_eq => exact kept.1.trans h.pageSize_eq
  case maxPages_eq => exact kept.2.trans h.maxPages_eq
  case total_le => exact Nat.le_trans ends.total_takenBack_le h.total_le
  case endsWith =>
    rintro _ ⟨rfl⟩ still
    exact absurd rfl ((ends.isLive_takenBack issued.page).mp still).2

end Tracks

theorem Runs.tracks (runs : start.Runs latest a) (h : start.Sound) : Tracks start latest a := by
  -- `Tracks` is what each move keeps; only a rollback looks at the latest issue.
  induction runs with
  | started => exact .started h
  | allocated before ran ih => exact ih.allocated (allocate_eq_ok_iff.mp ran)
  | refused before ran ih =>
    obtain ⟨-, -, -, rfl⟩ := allocate_eq_error_iff.mp ran
    exact ih
  | @deallocated latest a before page ih =>
    by_cases live : a.isLive page = true
    · simpa [Outcome.ofAction, deallocate_eq, live] using ih.returned live
    · simpa [Outcome.ofAction, deallocate_eq, live] using ih
  | @takenBack issued a before live ih =>
    simpa [Outcome.ofAction, (ih.endsWith issued rfl live).rollback_eq] using ih.takenBack live

/-- What a run keeps of the allocator's limits. -/
theorem Runs.tracks_of_made {extent pageSize maxFileSize : Nat} {numbered : extent < 0x100000000}
    (made : ofExtent extent numbered pageSize maxFileSize = .ok start)
    (runs : start.Runs latest a) :
    a.Sound ∧ a.pageSize = pageSize ∧ a.maxPages = min (maxFileSize / pageSize) 0xffffffff ∧
      a.total ≤ max extent (min (maxFileSize / pageSize) 0xffffffff) := by
  obtain ⟨-, long, most, total, none⟩ := ofExtent_eq_ok_iff.mp made
  have tracks := runs.tracks fun q free => by simp [none] at free
  rw [← most, ← long, ← total]
  exact ⟨tracks.sound, tracks.pageSize_eq, tracks.maxPages_eq, tracks.total_le⟩

/-! ### What can be relied on -/

/-- The pages below the extent are parted into live and free ones, and the extent is bounded. -/
structure Parts (a : Allocator) (bound : Nat) : Prop where
  free_lt : ∀ q, a.free.contains q = true → q.index < a.total
  isLive_iff : ∀ q, a.isLive q = true ↔ q.index < a.total ∧ ¬ a.free.contains q = true
  checkLive_iff : ∀ q, a.checkLive q = .ok () ↔ a.isLive q = true
  total_le : a.total ≤ bound
  liveCount_eq : ∃ live, a.liveCount = .ok live ∧ live = {q | a.isLive q = true}.ncard ∧
    live + a.free.size = a.total

/-- Pages that are not live are issued: the lowest free one, else the next one up to a limit. -/
structure IssuesUpTo (a : Allocator) (limit : Nat) : Prop where
  refuses_iff : (∃ why b, allocate a = .error why b) ↔ a.free = ∅ ∧ limit ≤ a.total
  /-- What is refused is refused by an error, and changes nothing. -/
  refusal : ∀ why b, allocate a = .error why b →
    why = .error (.allocationExhausted ((a.total + 1) * a.pageSize) (limit * a.pageSize)) ∧ b = a
  not_live : ∀ issued b, allocate a = .ok issued b → a.isLive issued.page = false
  /-- Only the page that is issued becomes live. -/
  isLive_iff : ∀ issued b, allocate a = .ok issued b →
    ∀ q, b.isLive q = true ↔ a.isLive q = true ∨ q = issued.page
  lowest : ∀ issued b, allocate a = .ok issued b → a.free ≠ ∅ →
    issued.recycled = true ∧ a.free.contains issued.page = true ∧
      (∀ q, a.free.contains q = true → issued.page.index ≤ q.index) ∧ b.total = a.total
  next : ∀ issued b, allocate a = .ok issued b → a.free = ∅ →
    issued.recycled = false ∧ issued.page.index = a.total ∧ b.total = a.total + 1

/-- Live pages can be given back, and no others. -/
structure TakesReturns (a : Allocator) : Prop where
  refused : ∀ page, a.isLive page = false →
    deallocate page a = .error (.error (.invalidPageId page)) a
  returned : ∀ page, a.isLive page = true → ∃ b, deallocate page a = .ok () b ∧
    b.total = a.total ∧ ∀ q, b.isLive q = true ↔ a.isLive q = true ∧ q ≠ page

/-- The last allocation can be taken back as long as its page is live. -/
def TakesBack (a : Allocator) (latest : Option Allocation) : Prop :=
  ∀ issued, latest = some issued → a.isLive issued.page = true →
    ∃ b, rollback issued a = .ok () b ∧
      (∀ q, b.isLive q = true ↔ a.isLive q = true ∧ q ≠ issued.page) ∧
      a.total = if issued.recycled then b.total else b.total + 1

theorem Sound.parts {bound : Nat} (h : a.Sound) (bounded : a.total ≤ bound) : a.Parts bound := by
  constructor
  case free_lt => exact h
  case isLive_iff => exact fun q => by rw [Allocator.isLive_iff, Bool.not_eq_true]
  case checkLive_iff => exact fun q => checkLive_eq_ok_iff
  case total_le => exact bounded
  case liveCount_eq => exact ⟨_, h.liveCount_eq, rfl, h.ncard_live⟩

theorem Sound.issuesUpTo (h : a.Sound) (small : a.pageSize < 0x100000000) :
    a.IssuesUpTo a.maxPages := by
  constructor
  case refuses_iff =>
    simp only [allocate_eq_error_iff]
    constructor
    · rintro ⟨why, b, none, full, -⟩
      exact ⟨none, full⟩
    · rintro ⟨none, full⟩
      exact ⟨_, _, none, full, rfl, rfl⟩
  case refusal =>
    intro why b ran
    obtain ⟨-, -, rfl, rfl⟩ := allocate_eq_error_iff.mp ran
    exact ⟨exhausted_eq rfl small, rfl⟩
  case not_live => exact fun issued b ran => (allocate_eq_ok_iff.mp ran).not_live
  case isLive_iff => exact fun issued b ran => (allocate_eq_ok_iff.mp ran).isLive_iff h
  case lowest =>
    intro issued b ran some
    cases allocate_eq_ok_iff.mp ran with
    | recycled lowest =>
      obtain ⟨free, least⟩ := min?_eq_some_iff.mp lowest
      exact ⟨rfl, free, least, rfl⟩
    | grown none => exact absurd none some
  case next =>
    intro issued b ran none
    cases allocate_eq_ok_iff.mp ran with
    | recycled lowest => simp [none] at lowest
    | grown => exact ⟨rfl, rfl, rfl⟩

theorem takesReturns (a : Allocator) : a.TakesReturns := by
  constructor
  case refused => exact fun page dead => by simp [deallocate_eq, dead]
  case returned =>
    intro page live
    exact ⟨a.returned page, by simp [deallocate_eq, live], rfl, isLive_returned⟩

theorem Tracks.takesBack (h : Tracks start latest a) : a.TakesBack latest := by
  intro issued last live
  have ends := h.endsWith issued last live
  refine ⟨_, ends.rollback_eq, ends.isLive_takenBack, ?_⟩
  unfold Allocator.takenBack
  cases again : issued.recycled with
  | true => rfl
  | false => exact (ends again).symm

/-- At all times the pages below the extent are parted into live and free ones. Requests keep it so:
what is issued was not live, what is given back was, and neither these nor the counting of pages can
end with a fault. -/
theorem Runs.parts_pages {pageSize extent : Nat} (long : 0 < pageSize)
    (small : pageSize < 0x100000000) (numbered : extent < 0x100000000) (maxFileSize : Nat) :
    ∃ start, ofExtent extent numbered pageSize maxFileSize = .ok start ∧
      ∀ latest a, start.Runs latest a →
        let limit := min (maxFileSize / pageSize) 0xffffffff
        a.Parts (max extent limit) ∧ a.IssuesUpTo limit ∧ a.TakesReturns ∧ a.TakesBack latest := by
  let start : Allocator :=
    ⟨pageSize, min (maxFileSize / pageSize) 0xffffffff, extent, ∅, by omega, numbered⟩
  refine ⟨start, ofExtent_eq_ok_iff.mpr ⟨long, rfl, rfl, rfl, rfl⟩, ?_⟩
  intro latest a runs limit
  have none_free : start.Sound := fun q free => by simp [start] at free
  have tracks := runs.tracks none_free
  have issues := tracks.sound.issuesUpTo (tracks.pageSize_eq ▸ small)
  rw [tracks.maxPages_eq] at issues
  exact ⟨tracks.sound.parts tracks.total_le, issues, a.takesReturns, tracks.takesBack⟩

/-- A file holds three pages, and may not be as long any more. The second page is given back and issued
again, and its allocation is taken back. -/
theorem parts_pages_lowered :
    let page : PageId := ⟨1, by decide⟩
    ∃ start, ofExtent 3 (by decide) 512 1024 = .ok start ∧
      ∃ a, start.Runs (some ⟨page, true⟩) a ∧ a.total = 3 ∧ a.free.contains page = true ∧
        a.Parts 3 ∧ a.IssuesUpTo 2 ∧ a.TakesReturns ∧ a.TakesBack (some ⟨page, true⟩) := by
  intro page
  let three : Allocator := ⟨512, 2, 3, ∅, by decide, by decide⟩
  obtain ⟨start, made, parted⟩ := Runs.parts_pages (by decide : 0 < 512) (by decide)
    (by decide : 3 < 0x100000000) 1024
  have same : three = start := Except.ok.inj made
  subst same
  have lowest : (three.returned page).free.min? = some page := min?_returned rfl
  have before : three.Runs none (three.returned page) := .deallocated .started page
  have again : three.Runs (some ⟨page, true⟩) ((three.returned page).recycled page) :=
    before.allocated (allocate_eq_ok_iff.mpr (.recycled lowest))
  have runs := again.takenBack rfl
  exact ⟨three, made, _, runs, rfl, rfl, parted _ _ runs⟩

end Allocator

end PagedStorage
