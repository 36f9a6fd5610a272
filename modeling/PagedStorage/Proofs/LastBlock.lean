import PagedStorage.Proofs.BlockStore

/-!
# The last block

Whatever is asked of a handle, its count is that of the whole blocks in the file, and the file can be
opened again with the same count. There is one page for which this fails, the last that has a number. If
the file may grow as far, its block is written before the count is found to have no successor. Then the
request ends with a fault, the count stays behind, and the file has one block too many to be opened
(`HandleSession.writes_or_overflows`).
-/

namespace PagedStorage

open PagedStorage.Action (Settles)

/-! ### Handles -/

namespace Disk

variable {pageSize : Nat} {d : Disk pageSize} {page : PageId} {bytes : Array UInt8} {limit : Nat}
  {overflowed : Prop}

/-- The page is the last that has a number, and its block may be written. -/
def Overflows (d : Disk pageSize) (page : PageId) : Prop :=
  page.index + 1 = 0x100000000 ∧ d.isOpen = true ∧ 0x100000000 * pageSize ≤ d.maxFileSize

/-- A block is written as long as there is room and the handle is open. For the last of all pages that
is a block behind the counted ones. -/
theorem overflows_iff :
    d.Overflows page ↔ (d.HasRoom page ∧ d.isOpen = true) ∧ ¬ page.index + 1 < 0x100000000 := by
  have counted := d.blockCount_lt
  have numbered := page.index_lt
  unfold Overflows HasRoom
  constructor
  · rintro ⟨last, opened, fits⟩
    rw [last]
    exact ⟨⟨.inr fits, opened⟩, Nat.lt_irrefl _⟩
  · rintro ⟨⟨room, opened⟩, beyond⟩
    have last : page.index + 1 = 0x100000000 := by omega
    rw [last] at room
    exact ⟨last, opened, room.resolve_left (by omega)⟩

/-- What a history leaves in which a count has overflowed or not: the whole blocks of the file are
counted, or there is one too many. -/
structure Sound (limit : Nat) (overflowed : Prop) (d : Disk pageSize) : Prop where
  limit_eq : d.maxFileSize = limit
  reliable : d.Reliable
  counted : ¬ overflowed → d.Counted
  size_eq : overflowed → d.file.size = 0x100000000 * pageSize

/-- What an action leaves of a sound handle. Of all faults an overflow is the one that matters. -/
abbrev Leaves {α : Type} (limit : Nat) (overflowed : Prop) (act : Action (Disk pageSize) α)
    (d : Disk pageSize) : Prop :=
  (Outcome.ofAction act d).2.Sound limit
    (overflowed ∨ (Outcome.ofAction act d).1 = .failed (.fault .addOverflow))

theorem leaves_of_settles {α : Type} {act : Action (Disk pageSize) α}
    (settles : Settles act d (Sound limit overflowed) fun _ => False) :
    Leaves limit overflowed act d := by
  unfold Settles at settles
  unfold Leaves Outcome.ofAction
  cases ran : act d with
  | ok a d' => simpa [ran] using settles
  | error why d' =>
    cases why with
    | error e => simpa [ran] using settles
    | fault f => simp [ran] at settles

namespace Sound

theorem ensureOpen_settles (h : d.Sound limit overflowed) :
    Settles ensureOpen d (Sound limit overflowed) fun _ => False := by
  refine .get ?_
  split
  · exact .pure h
  · exact .reject h

theorem read_settles (h : d.Sound limit overflowed) (small : pageSize < 0x100000000) (page : PageId)
    (length : Nat) : Settles (Disk.read page length) d (Sound limit overflowed) fun _ => False := by
  refine .bind ?_ fun _ d' h' => ?_
  · unfold checkLength
    split
    · exact .pure h
    · exact .reject h
  · have begins := PageId.begin_lt_of_end_lt (page.end_lt_of_small small)
    have reading := d'.readBlock_eq_of_begin_lt begins
    split at reading
    · exact .of_ok reading h'
    · exact .of_error reading h'

theorem sync_settles (h : d.Sound limit overflowed) :
    Settles (Disk.sync : Action (Disk pageSize) Unit) d (Sound limit overflowed) fun _ => False := by
  refine .bind h.ensureOpen_settles fun _ d' h' => .get ?_
  split
  · exact .reject h'
  · exact .pure h'

theorem close_settles (h : d.Sound limit overflowed) :
    Settles (Disk.close : Action (Disk pageSize) Unit) d (Sound limit overflowed) fun _ => False := by
  refine .bind h.ensureOpen_settles fun _ d' h' => ?_
  have shut : Sound limit overflowed { d' with isOpen := false } :=
    ⟨h'.limit_eq, h'.reliable, h'.counted, h'.size_eq⟩
  refine .bind (.of_ok rfl shut) fun _ d'' h'' => .get ?_
  split
  · exact .reject h''
  · exact .pure h''

/-- No file is longer than all the numbered blocks. -/
theorem size_le (h : d.Sound limit overflowed) (long : 0 < pageSize) :
    d.file.size ≤ 0x100000000 * pageSize := by
  by_cases longest : overflowed
  · exact Nat.le_of_eq (h.size_eq longest)
  · calc d.file.size ≤ (d.blockCount + 1) * pageSize :=
          Nat.le_of_lt ((h.counted longest).size_lt long)
      _ ≤ 0x100000000 * pageSize := Nat.mul_le_mul_right pageSize d.blockCount_lt

theorem written (h : d.Sound limit overflowed) (page : PageId) (block : Block pageSize)
    (next : page.index + 1 < 0x100000000) :
    (d.written page block next).Sound limit overflowed := by
  refine ⟨(maxFileSize_written ..).trans h.limit_eq, (device_written ..).trans h.reliable,
    fun none => ?_, fun some => ?_⟩
  · exact (h.counted none).written page block next
  · have inside : (page.index + 1) * pageSize ≤ 0x100000000 * pageSize :=
      Nat.mul_le_mul_right pageSize (Nat.le_of_lt next)
    rw [size_written, h.size_eq some, Nat.max_eq_left inside]

/-- The block of the last page is in the file, though it cannot be counted. -/
theorem wrote_last (h : d.Sound limit overflowed) (long : 0 < pageSize) (block : Block pageSize)
    (last : page.index + 1 = 0x100000000) :
    (d.wrote (page.index * pageSize) block).Sound limit True := by
  refine ⟨h.limit_eq, h.reliable, fun none => absurd trivial none, fun _ => ?_⟩
  -- No file is longer, so it now ends where this block does.
  rw [size_wrote, last, Nat.max_eq_right (h.size_le long)]

theorem write_leaves (h : d.Sound limit overflowed) (long : 0 < pageSize)
    (small : pageSize < 0x100000000) (page : PageId) (bytes : Array UInt8) :
    Leaves limit overflowed (Disk.write page bytes) d := by
  by_cases whole : bytes.size = pageSize
  · have writing := d.write_eq page small whole
    split at writing
    · split at writing
      · next next => exact leaves_of_settles (.of_ok writing (h.written page _ next))
      · next beyond =>
        have last : page.index + 1 = 0x100000000 :=
          Nat.le_antisymm page.index_lt (Nat.not_lt.mp beyond)
        simpa [Leaves, Outcome.ofAction, writing] using h.wrote_last long ⟨bytes, whole⟩ last
    · rw [spoiled_of_reliable h.reliable] at writing
      exact leaves_of_settles (.of_error writing h)
  · apply leaves_of_settles
    unfold Disk.write
    have unfit : (Block.ofArray? bytes : Option (Block pageSize)) = none :=
      Block.ofArray?_eq_none_iff.mpr whole
    rw [unfit]
    exact .reject h

end Sound

/-- How a write of one page is answered. -/
theorem write_answers (reliable : d.Reliable) (page : PageId) (small : pageSize < 0x100000000)
    (whole : bytes.size = pageSize) :
    let answer := (Outcome.ofAction (Disk.write page bytes) d).1
    (d.Overflows page → answer = .failed (.fault .addOverflow)) ∧
      (¬ d.Overflows page → answer = .done () ∨ ∃ e, answer = .failed (.error e)) := by
  rw [overflows_iff, Outcome.ofAction, d.write_eq page small whole]
  simp only [takes_iff_of_reliable reliable]
  by_cases granted : d.HasRoom page ∧ d.isOpen = true
  · by_cases next : page.index + 1 < 0x100000000 <;> simp [granted, next]
  · simp [granted]

end Disk

/-! ### Sessions -/

/-- The request is made of the handle that there is. -/
def HandleRequest.Uses : HandleRequest → Prop
  | .start .. | .drop => False
  | _ => True

namespace HandleSession

variable {s t : HandleSession} {name : String} {path : Path} {pageSize maxFileSize limit : Nat}
  {d : Disk pageSize} {request : HandleRequest} {page : PageId} {bytes : Array UInt8}
  {overflowed : Prop}

theorem Has.performed {α : Type} {act : Action (Disk pageSize) α} {g : α → HandleReply}
    (has : s.Has name path d) (leaves : Disk.Leaves limit overflowed act d) :
    ∃ d' : Disk pageSize, (s.perform name ⟨path, pageSize, d⟩ act).2.Has name path d' ∧
      d'.Sound limit (overflowed ∨
        (s.perform name ⟨path, pageSize, d⟩ act).1.map g = .failed (.fault .addOverflow)) := by
  obtain ⟨same, still⟩ := has.perform act
  refine ⟨_, still, ?_⟩
  rw [same]
  unfold Disk.Leaves at leaves
  cases answer : (Outcome.ofAction act d).1 <;> simpa [answer, Outcome.map] using leaves

/-- Every request keeps the handle sound, and only an overflow adds a block that is not counted. -/
theorem Has.used (has : s.Has name path d) (h : d.Sound limit overflowed) (long : 0 < pageSize)
    (small : pageSize < 0x100000000) (uses : request.Uses) :
    ∃ d' : Disk pageSize, (s.step name request).2.Has name path d' ∧
      d'.Sound limit (overflowed ∨ (s.step name request).1 = .failed (.fault .addOverflow)) := by
  cases request with
  | start | drop => exact uses.elim
  | read page length =>
    simp only [step, has.handle]
    exact has.performed (Disk.leaves_of_settles (h.read_settles small _ _))
  | write page bytes =>
    simp only [step, has.handle]
    exact has.performed (h.write_leaves long small page bytes)
  | sync =>
    simp only [step, has.handle]
    exact has.performed (Disk.leaves_of_settles h.sync_settles)
  | close =>
    simp only [step, has.handle]
    exact has.performed (Disk.leaves_of_settles h.close_settles)

theorem Has.used_after (has : s.Has name path d) (h : d.Sound limit overflowed)
    (long : 0 < pageSize) (small : pageSize < 0x100000000) {requests : List HandleRequest}
    (uses : ∀ request ∈ requests, request.Uses) :
    ∃ d' : Disk pageSize, (Run.after (fun s => s.step name) s requests).Has name path d' ∧
      d'.Sound limit (overflowed ∨
        .failed (.fault .addOverflow) ∈ Run.answers (fun s => s.step name) s requests) := by
  -- What has overflowed before a request is what its answers so far say.
  induction requests generalizing s d overflowed with
  | nil => exact ⟨d, has, by simpa [Run.answers] using h⟩
  | cons request rest ih =>
    obtain ⟨d', still, sound⟩ := has.used h long small (uses _ List.mem_cons_self)
    obtain ⟨d'', left, sound⟩ :=
      ih still sound fun later listed => uses later (List.mem_cons_of_mem _ listed)
    refine ⟨d'', left, ?_⟩
    simpa only [Run.answers, List.mem_cons, or_assoc, @eq_comm _ (Outcome.failed _)] using sound

/-- A file with a block that has no number is not opened. -/
theorem Has.reopen_refused (has : s.Has name path d) (long : 0 < pageSize)
    (full : d.file.size = 0x100000000 * pageSize) (limit : Nat) :
    (s.ask name path pageSize (.reopen limit)).1 =
      .failed (.error (.invalidConfig (.tooManyPages 0x100000000))) := by
  have blocks : d.file.size / pageSize = 0x100000000 := by rw [full, Nat.mul_div_cancel _ long]
  have divisor : pageSize ≠ 0 := Nat.ne_of_gt long
  have refused : (Disk.ofFile limit d.file : Except Failure (Disk pageSize)) =
      .error (.error (.invalidConfig (.tooManyPages 0x100000000))) := by
    simp [Disk.ofFile, Checked.div, divisor, blocks]
  have opening : Disk.openFile path limit s.tree =
      (.error (.error (.invalidConfig (.tooManyPages 0x100000000))) s.tree :
        EStateM.Result Failure FileTree (Disk pageSize)) := by
    simp [Disk.openFile, has.file, refused]
  simp only [ask, step, has.handle, start, opening]

theorem Has.write_answers (has : s.Has name path d) (reliable : d.Reliable) (page : PageId)
    (small : pageSize < 0x100000000) (whole : bytes.size = pageSize) :
    let answer := (s.step name (.write page bytes)).1
    (d.Overflows page → answer = .failed (.fault .addOverflow)) ∧
      (¬ d.Overflows page → answer = .done .done ∨ ∃ e, answer = .failed (.error e)) := by
  obtain ⟨fails, settles⟩ := Disk.write_answers reliable page small whole
  obtain ⟨same, -⟩ := has.perform (Disk.write page bytes)
  simp only [step, has.handle, same]
  constructor
  · intro overflows
    rw [fails overflows]
    rfl
  · intro fits
    rcases settles fits with done | ⟨e, failed⟩
    · exact .inl (by rw [done]; rfl)
    · exact .inr ⟨e, by rw [failed]; rfl⟩

/-- Whatever was done with a handle, a block that is written next is answered with success or an error,
but for the last of all pages where the file may hold its block. As long as that has not happened the
count is that of the whole blocks in the file, and the file can be opened again with the same count.
Once it has, there is one block too many to open the file. -/
theorem writes_or_overflows {how : Opening} (long : 0 < pageSize) (small : pageSize < 0x100000000)
    (started : s.start name how path pageSize maxFileSize = (.done .done, t))
    {requests : List HandleRequest} (uses : ∀ request ∈ requests, request.Uses)
    (page : PageId) {bytes : Array UInt8} (whole : bytes.size = pageSize) :
    let u := Run.after (fun s => s.step name) t requests
    let w := u.step name (.write page bytes)
    let overflow : Outcome HandleReply := .failed (.fault .addOverflow)
    let overflowed := overflow ∈ Run.answers (fun s => s.step name) t requests ∨ w.1 = overflow
    ∃ d d' : Disk pageSize, u.Has name path d ∧ d.maxFileSize = maxFileSize ∧ w.2.Has name path d' ∧
      (d.Overflows page → w.1 = overflow) ∧
      (¬ d.Overflows page → w.1 = .done .done ∨ ∃ e, w.1 = .failed (.error e)) ∧
      (¬ overflowed → d'.blockCount = d'.file.size / pageSize ∧
        ∀ limit, (w.2.ask name path pageSize (.reopen limit)).1 = .done .done ∧
          ∃ again : Disk pageSize, (w.2.ask name path pageSize (.reopen limit)).2.Has name path again ∧
            again.blockCount = d'.blockCount) ∧
      (overflowed → d'.file.size = 0x100000000 * pageSize ∧
        ∀ limit, (w.2.ask name path pageSize (.reopen limit)).1 =
          .failed (.error (.invalidConfig (.tooManyPages 0x100000000)))) := by
  intro u w overflow overflowed
  obtain ⟨d₀, has₀, refines₀⟩ := has_of_start started
  have sound₀ : d₀.Sound maxFileSize False :=
    ⟨refines₀.limit_eq.symm, refines₀.reliable, fun _ => refines₀.counted, False.elim⟩
  obtain ⟨d, has, sound⟩ := has₀.used_after sound₀ long small uses
  rw [false_or] at sound
  obtain ⟨fails, settles⟩ := has.write_answers sound.reliable page small whole
  obtain ⟨d', still, sound'⟩ :=
    has.used sound long small (show (HandleRequest.write page bytes).Uses from trivial)
  refine ⟨d, d', has, sound.limit_eq, still, fails, settles, fun none => ?_, fun some => ?_⟩
  · have counted := sound'.counted none
    refine ⟨counted long, fun limit => ?_⟩
    obtain ⟨done, again⟩ := still.reopened counted sound'.reliable long limit
    exact ⟨done, _, again, rfl⟩
  · exact ⟨sound'.size_eq some, still.reopen_refused long (sound'.size_eq some)⟩

/-- A tree where there is nothing. -/
def noFile : HandleSession := ⟨⟨[]⟩, []⟩

/-- A block far behind the end of a new file, whose handle was synced before. -/
theorem writes_or_overflows_new :
    let path : Path := ⟨[.into "f"], false, none⟩
    let page : PageId := ⟨0xfffffffe, by decide⟩
    let t := (noFile.start "d" .create path 512 0x20000000000).2
    let u := Run.after (fun s => s.step "d") t [.sync]
    let w := u.step "d" (.write page (Array.replicate 512 0))
    (w.1 = .done .done ∨ ∃ e, w.1 = .failed (.error e)) ∧
      ∃ d : Disk 512, w.2.Has "d" path d ∧ d.blockCount = d.file.size / 512 ∧
        ∀ limit, (w.2.ask "d" path 512 (.reopen limit)).1 = .done .done ∧
          ∃ again : Disk 512, (w.2.ask "d" path 512 (.reopen limit)).2.Has "d" path again ∧
            again.blockCount = d.blockCount := by
  intro path page t u w
  have started : noFile.start "d" .create path 512 0x20000000000 = (.done .done, t) := rfl
  have answers : Run.answers (fun s => s.step "d") t [.sync] = [.done .done] := rfl
  have uses : ∀ request ∈ [HandleRequest.sync], request.Uses := by
    intro request listed
    obtain rfl := List.mem_singleton.mp listed
    trivial
  obtain ⟨d, d', -, -, still, -, settles, counts, -⟩ := writes_or_overflows (by decide) (by decide)
    started uses page (Array.size_replicate : (Array.replicate 512 (0 : UInt8)).size = 512)
  have answered := settles fun overflows => absurd overflows.1 (by decide)
  have none : ¬ (.failed (.fault .addOverflow) ∈ Run.answers (fun s => s.step "d") t [.sync] ∨
      w.1 = .failed (.fault .addOverflow)) := by
    rintro (before | now)
    · simp [answers] at before
    · rcases answered with done | ⟨e, failed⟩
      · exact nomatch done.symm.trans now
      · exact nomatch failed.symm.trans now
  obtain ⟨counted, reopened⟩ := counts none
  exact ⟨answered, d', still, counted, reopened⟩

/-- The last block of a new file is written, but the request ends with a fault, and the file cannot be
opened again. -/
theorem last_block_overflows :
    let path : Path := ⟨[.into "f"], false, none⟩
    let page : PageId := ⟨0xffffffff, by decide⟩
    let t := (noFile.start "d" .create path 512 0x20000000000).2
    let w := t.step "d" (.write page (Array.replicate 512 0))
    (noFile.start "d" .create path 512 0x20000000000).1 = .done .done ∧
      w.1 = .failed (.fault .addOverflow) ∧
      (∃ d : Disk 512, w.2.Has "d" path d ∧ d.blockCount ≠ d.file.size / 512) ∧
      (w.2.ask "d" path 512 (.reopen 0x20000000000)).1 =
        .failed (.error (.invalidConfig (.tooManyPages 0x100000000))) := by
  intro path page t w
  let d : Disk 512 := .ofNew 0x20000000000
  have has : t.Has "d" path d := ⟨rfl, rfl⟩
  have sound : d.Sound 0x20000000000 False := ⟨rfl, rfl, fun _ => Disk.counted_ofNew _, False.elim⟩
  have whole : (Array.replicate 512 (0 : UInt8)).size = 512 := Array.size_replicate
  have failed : w.1 = .failed (.fault .addOverflow) :=
    (has.write_answers rfl page (by decide) whole).1 ⟨rfl, rfl, Nat.le_refl _⟩
  obtain ⟨d', still, left⟩ := has.used sound (by decide) (by decide)
    (show (HandleRequest.write page (Array.replicate 512 0)).Uses from trivial)
  have size : d'.file.size = 0x100000000 * 512 := left.size_eq (.inr failed)
  refine ⟨rfl, failed, ⟨d', still, ?_⟩, still.reopen_refused (by decide) size _⟩
  have counted := d'.blockCount_lt
  rw [size]
  omega

end HandleSession

end PagedStorage
