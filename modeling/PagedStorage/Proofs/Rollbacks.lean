import PagedStorage.Proofs.Partition

/-!
# Allocations taken back in reverse order

Several pages may be issued in a row, and such a row goes over from the free pages to those behind the
extent when no page is free any more. Whoever takes the allocations back begins with the last one. Then
each of them meets the allocator that it has left: a page that was free is missing, and a page that made
the extent grow still ends it. So the allocator is in the end what it was before the first page was
issued, and is on the way what it was in between (`Runs.rolls_back`).

In any other order a page may be lost. It is not the last one when its allocation is taken back, so the
extent does not shrink, and it stays live.
-/

namespace PagedStorage.Allocator

variable {a b c : Allocator} {issued kept dropped : List Allocation}

/-- Issues as many pages, one after the other. -/
def allocateMany : Nat → Action Allocator (List Allocation)
  | 0 => pure []
  | n + 1 => do
    let first ← allocate
    let rest ← allocateMany n
    return first :: rest

/-- Takes allocations back, one after the other. -/
def rollbackAll (issued : List Allocation) : Action Allocator Unit := forM issued rollback

/-! ### Pages in a row -/

inductive IssuesAll : Allocator → List Allocation → Allocator → Prop
  | none {a : Allocator} : IssuesAll a [] a
  | more {a b c : Allocator} {issued : Allocation} {rest : List Allocation}
      (first : a.Issues issued b) (later : IssuesAll b rest c) : IssuesAll a (issued :: rest) c

theorem allocateMany_eq_ok_iff {n : Nat} :
    allocateMany n a = .ok issued c ↔ issued.length = n ∧ IssuesAll a issued c := by
  induction n generalizing a issued with
  | zero =>
    constructor
    · rintro ⟨⟩
      exact ⟨rfl, .none⟩
    · rintro ⟨none, issues⟩
      cases issues with
      | none => rfl
      | more => cases none
  | succ n ih =>
    constructor
    · intro ran
      rw [allocateMany, Action.run_bind] at ran
      cases first : allocate a with
      | error why b => simp [first] at ran
      | ok page b =>
        cases later : allocateMany n b with
        | error why d => simp [first, later] at ran
        | ok rest d =>
          simp only [first, Action.run_bind, later, Action.run_pure] at ran
          cases ran
          obtain ⟨length, issues⟩ := ih.mp later
          exact ⟨congrArg Nat.succ length, .more (allocate_eq_ok_iff.mp first) issues⟩
    · rintro ⟨length, issues⟩
      cases issues with
      | none => cases length
      | more first later =>
        have rest := ih.mpr ⟨Nat.succ.inj length, later⟩
        simp [allocateMany, allocate_eq_ok_iff.mpr first, rest]

theorem issuesAll_append_iff :
    IssuesAll a (kept ++ dropped) c ↔ ∃ b, IssuesAll a kept b ∧ IssuesAll b dropped c := by
  induction kept generalizing a with
  | nil =>
    constructor
    · exact fun issues => ⟨a, .none, issues⟩
    · rintro ⟨b, ⟨⟩, issues⟩
      exact issues
  | cons page rest ih =>
    constructor
    · rintro (_ | ⟨first, later⟩)
      obtain ⟨b, before, after⟩ := ih.mp later
      exact ⟨b, .more first before, after⟩
    · rintro ⟨b, _ | ⟨first, later⟩, after⟩
      exact .more first (ih.mpr ⟨b, later, after⟩)

/-- The allocation that is taken back is always the last of those that are left. -/
theorem IssuesAll.rollbackAll_eq (issues : IssuesAll a issued b) :
    rollbackAll issued.reverse b = .ok ⟨⟩ a := by
  -- The latest issue is taken back first, and the rest is what was issued before it.
  induction issues with
  | none => rfl
  | more first later ih =>
    -- All but the first are back, so the first meets the allocator that it has left.
    rw [rollbackAll] at ih
    rw [rollbackAll, List.reverse_cons, List.forM_append, Action.run_bind, ih]
    simp [first.rollback_eq]

/-! ### How many there are -/

/-- How many pages can be issued: the free ones, and those that fit behind the extent. -/
def room (a : Allocator) : Nat := a.free.size + (a.maxPages - a.total)

theorem Issues.room_eq {page : Allocation} (issues : a.Issues page b) : a.room = b.room + 1 := by
  have size := issues.size_eq
  have limit := issues.maxPages_eq
  unfold room
  cases issues with
  | recycled lowest =>
    rw [total_recycled] at size ⊢
    omega
  | grown none fits =>
    rw [total_grown] at size ⊢
    rw [free_grown]
    omega

theorem IssuesAll.room_eq (issues : IssuesAll a issued b) : a.room = b.room + issued.length := by
  induction issues with
  | none => rfl
  | more first later ih => rw [first.room_eq, ih, List.length_cons, Nat.add_assoc]

theorem exists_issues_of_room (some : 0 < a.room) : ∃ page b, a.Issues page b := by
  rcases allocate_cases a with ⟨page, b, issues, -⟩ | ⟨none, full, -⟩
  · exact ⟨page, b, issues⟩
  · have free : a.free.size = 0 := Std.ExtTreeSet.eq_empty_iff_size_eq_zero.mp none
    unfold room at some
    omega

theorem exists_issuesAll_iff {n : Nat} :
    (∃ issued b, issued.length = n ∧ IssuesAll a issued b) ↔ n ≤ a.room := by
  constructor
  · rintro ⟨issued, b, rfl, issues⟩
    rw [issues.room_eq]
    exact Nat.le_add_left ..
  · intro enough
    induction n generalizing a with
    | zero => exact ⟨[], a, rfl, .none⟩
    | succ n ih =>
      obtain ⟨page, b, first⟩ := exists_issues_of_room (Nat.zero_lt_of_lt enough)
      have left := first.room_eq
      obtain ⟨rest, c, length, later⟩ := @ih b (by omega)
      exact ⟨page :: rest, c, congrArg Nat.succ length, .more first later⟩

/-! ### There and back -/

/-- As many pages can be issued in a row as are free or fit behind the extent, whatever was asked before.
If the allocations are taken back in reverse order, none of that fails: the allocator is led back the
way it came, and in the end it is what it was. -/
theorem Runs.rolls_back {pageSize extent : Nat} (long : 0 < pageSize)
    (numbered : extent < 0x100000000) (maxFileSize : Nat) :
    ∃ start, ofExtent extent numbered pageSize maxFileSize = .ok start ∧
      ∀ latest a, start.Runs latest a → ∀ n,
        ((∃ issued b, allocateMany n a = .ok issued b) ↔
          n ≤ a.free.size + (min (maxFileSize / pageSize) 0xffffffff - a.total)) ∧
        ∀ issued b, allocateMany n a = .ok issued b →
          issued.length = n ∧ rollbackAll issued.reverse b = .ok ⟨⟩ a ∧
            ∀ kept dropped, issued = kept ++ dropped →
              ∃ c, allocateMany kept.length a = .ok kept c ∧
                rollbackAll dropped.reverse b = .ok ⟨⟩ c := by
  obtain ⟨start, made⟩ := exists_ofExtent long numbered maxFileSize
  refine ⟨start, made, ?_⟩
  intro latest a runs n
  constructor
  · obtain ⟨-, -, limit, -⟩ := runs.tracks_of_made made
    rw [← limit]
    simp only [allocateMany_eq_ok_iff]
    exact exists_issuesAll_iff
  · intro issued b ran
    obtain ⟨length, issues⟩ := allocateMany_eq_ok_iff.mp ran
    refine ⟨length, issues.rollbackAll_eq, ?_⟩
    rintro kept dropped rfl
    obtain ⟨c, before, after⟩ := issuesAll_append_iff.mp issues
    exact ⟨c, allocateMany_eq_ok_iff.mpr ⟨rfl, before⟩, after.rollbackAll_eq⟩

/-- Of two pages one is free, and two more fit the file. -/
theorem rolls_back_grown :
    let one : PageId := ⟨1, by decide⟩
    let two : PageId := ⟨2, by decide⟩
    let three : PageId := ⟨3, by decide⟩
    ∃ start, ofExtent 2 (by decide) 512 2048 = .ok start ∧
      ∃ a, start.Runs none a ∧ a.total = 2 ∧ a.free.contains one = true ∧
        ∃ b, allocateMany 3 a = .ok [⟨one, true⟩, ⟨two, false⟩, ⟨three, false⟩] b ∧
          rollbackAll [⟨three, false⟩, ⟨two, false⟩, ⟨one, true⟩] b = .ok ⟨⟩ a := by
  intro one two three
  obtain ⟨start, made, rolls⟩ := Runs.rolls_back (by decide : 0 < 512)
    (by decide : 2 < 0x100000000) 2048
  let full : Allocator := ⟨512, 4, 2, ∅, by decide, by decide⟩
  have same : full = start := Except.ok.inj made
  subst same
  have runs : full.Runs none (full.returned one) := .deallocated .started one
  have recycled : (full.returned one).Issues ⟨one, true⟩ full := by
    have issues : (full.returned one).Issues ⟨one, true⟩ _ := .recycled (min?_returned rfl)
    rwa [recycled_returned rfl] at issues
  -- No page is free any more, and two of four are issued.
  have room : full.total < full.maxPages := by decide
  have more : (full.grown room).total < (full.grown room).maxPages :=
    show 3 < 4 by decide
  have issues : IssuesAll (full.returned one) [⟨one, true⟩, ⟨two, false⟩, ⟨three, false⟩] _ :=
    .more recycled (.more (.grown rfl room) (.more (.grown rfl more) .none))
  have ran := allocateMany_eq_ok_iff.mpr ⟨rfl, issues⟩
  obtain ⟨-, back⟩ := rolls none (full.returned one) runs 3
  exact ⟨full, made, _, runs, rfl, rfl, _, ran, (back _ _ ran).2.1⟩

/-- Two new pages are taken back in the order in which they were issued, and the first of them is lost. -/
example :
    let two : Allocator := ⟨512, 4, 2, ∅, by decide, by decide⟩
    let one : Allocator := ⟨512, 4, 1, ∅, by decide, by decide⟩
    rollbackAll [⟨⟨0, by decide⟩, false⟩, ⟨⟨1, by decide⟩, false⟩] two = .ok ⟨⟩ one :=
  rfl

end PagedStorage.Allocator
