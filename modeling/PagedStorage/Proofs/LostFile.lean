import PagedStorage.Proofs.Latches

/-!
# A file that was let go of

A handle that is closed neither reads nor writes, and nothing opens it again. The pool is not told:
frames stay dirty, and requests go on as before until one of them needs the file. So each step of each
request is followed here as far as the handle goes, whatever state the pool is in (`Pool.Spared`). No
request reaches a file that was let go of (`GuardedPool.steps_disk`).
-/

namespace PagedStorage

open PagedStorage.Action (Preserves)

theorem Outcome.ofAction_preserves {σ α : Type} {act : Action σ α} {s : σ} {good : σ → Prop}
    (preserves : act.Preserves good) (h : good s) : good (ofAction act s).2 := by
  have left := preserves s h
  unfold ofAction
  cases ran : act s with
  | ok a t => simpa only [ran] using left
  | error why t => simpa only [ran] using left

namespace Disk

variable {pageSize : Nat} {d : Disk pageSize}

/-- A read leaves the handle as it is, even one that fails halfway. -/
theorem readInto_preserves (page : PageId) :
    Preserves (readInto page) fun reading : Disk pageSize × Block pageSize => reading.1 = d := by
  refine .get fun reading same => .rejectIf (.bind (.checked _) fun _ => .rejectIf ?_)
  split
  · exact .bind (fun _ _ => same) fun _ => .reject _
  · exact fun _ _ => same
  · exact .bind (fun _ _ => same) fun _ => .reject _

variable (lost : d.isOpen = false)
include lost

theorem ensureOpen_of_lost : ensureOpen d = .error (.error .closed) d := by
  simp [ensureOpen, lost]

/-- What needs the file is not done. -/
theorem ensureOpen_preserves {α : Type} {next : Action (Disk pageSize) α} :
    Preserves (do ensureOpen; next) (· = d) := by
  rintro _ rfl
  rw [Action.bind_of_error (ensureOpen_of_lost lost)]

theorem writeBlock_preserves (page : PageId) (block : Block pageSize) :
    Preserves (writeBlock page block) (· = d) := by
  refine .get fun _ _ => .bind (.checked _) fun _ => ?_
  exact .rejectIf (.bind (.checked _) fun _ => ensureOpen_preserves lost)

theorem sync_preserves : Preserves sync (· = d) := ensureOpen_preserves lost

theorem close_preserves : Preserves close (· = d) := ensureOpen_preserves lost

end Disk

namespace Pool

variable {size pageSize : Nat} {d : Disk pageSize}

/-- Begun on that handle, the action leaves the pool on it, however it ends. -/
abbrev Spared {α : Type} (d : Disk pageSize) (act : Action (Pool size pageSize) α) : Prop :=
  act.Preserves fun s => s.disk = d

/-! ### Steps that have no use for the file -/

theorem change_spared {change : Pool size pageSize → Pool size pageSize}
    (same : ∀ s, (change s).disk = s.disk) : Spared d (modify change) :=
  .modify fun s h => (same s).trans h

theorem after_change {α : Type} {change : Pool size pageSize → Pool size pageSize}
    {next : Action (Pool size pageSize) α} (same : ∀ s, (change s).disk = s.disk)
    (rest : Spared d next) : Spared d (do modify change; next) :=
  .bind (change_spared same) fun _ => rest

theorem onFrame_spared {α : Type} (f : Fin size) (act : Action (Frame pageSize) α) :
    Spared d (onFrame f act) := by
  intro s h
  unfold onFrame Action.within
  cases act (s.frame f) <;> exact h

theorem pin_spared (f : Fin size) : Spared d (pin f) :=
  .bind (onFrame_spared f _) fun _ => change_spared fun _ => rfl

theorem unpin_spared (f : Fin size) : Spared d (unpin f) := by
  refine .bind (onFrame_spared f _) fun _ => ?_
  split
  · exact change_spared fun _ => rfl
  · exact .pure _

theorem release_spared (f : Fin size) (wrote : Bool) : Spared d (release f wrote) := by
  unfold release
  split
  · exact after_change (fun _ => rfl) (unpin_spared f)
  · exact unpin_spared f

theorem invalidate_spared (page : PageId) :
    Spared d (invalidate page : Action (Pool size pageSize) Bool) := by
  refine .get fun s _ => ?_
  split
  · exact .pure _
  · next f _ =>
    refine .get fun t _ => .rejectIf ?_
    iterate 5 refine after_change (fun _ => rfl) ?_
    exact .pure _

/-- What is done through the pool leaves a handle as it would by itself. -/
theorem onDisk_spared {α : Type} {act : Action (Disk pageSize) α}
    (preserves : act.Preserves (· = d)) :
    Spared d (onDisk act : Action (Pool size pageSize) α) :=
  .within preserves (fun _ h => h) fun _ _ _ h => h

theorem load_spared (page : PageId) (f : Fin size) : Spared d (load page f) := by
  refine .get fun s _ => .rejectIf (.bind ?_ fun _ => change_spared fun _ => rfl)
  exact .within (Disk.readInto_preserves page) (fun _ h => h) fun _ _ _ h => h

/-! ### Steps that stop for want of the file -/

section Lost

variable (lost : d.isOpen = false)
include lost

theorem writeBack_spared (f : Fin size) (page : PageId) : Spared d (writeBack f page) := by
  refine .get fun s _ => ?_
  dsimp only
  split
  · refine .bind (onDisk_spared (Disk.writeBlock_preserves lost page _)) fun _ => ?_
    iterate 2 refine after_change (fun _ => rfl) ?_
    exact .pure _
  · exact .pure _

theorem evict_spared : Spared d (evict : Action (Pool size pageSize) (Fin size)) := by
  refine .get fun s _ => ?_
  split
  · exact .reject _
  · next f recency _ =>
    have emptied : Spared d (do
        editFrame f Frame.reset
        count fun c => { c with evictions := c.evictions + 1 }
        return f) := by
      iterate 2 refine after_change (fun _ => rfl) ?_
      exact .pure _
    refine after_change (fun _ => rfl) (.get fun t _ => ?_)
    dsimp only
    split
    · refine .bind (.attempt (writeBack_spared lost f _)) fun saved => ?_
      cases saved with
      | ok => exact after_change (fun _ => rfl) emptied
      | error e => exact after_change (fun _ => rfl) (.bind (.reject e) fun _ => emptied)
    · exact emptied

theorem acquire_spared : Spared d (acquire : Action (Pool size pageSize) (Fin size)) := by
  refine .get fun s _ => ?_
  split
  · exact after_change (fun _ => rfl) (.pure _)
  · exact evict_spared lost

theorem install_spared (page : PageId) (fill : Fill pageSize) :
    Spared d (install page fill : Action (Pool size pageSize) (Fin size)) := by
  refine .bind (acquire_spared lost) fun f => ?_
  have entered : Spared d (do
      editFrame f (·.setPage (some page))
      modify fun s => { s with table := s.table.insert page f }
      editRecency (·.touch f)
      return f) := by
    iterate 3 refine after_change (fun _ => rfl) ?_
    exact .pure _
  cases fill with
  | put => exact after_change (fun _ => rfl) entered
  | load =>
    refine .bind (.attempt (load_spared page f)) fun loaded => ?_
    cases loaded with
    | ok => exact entered
    | error e =>
      iterate 2 refine after_change (fun _ => rfl) ?_
      exact .bind (.reject e) fun _ => entered

theorem pinPage_spared (page : PageId) (fill : Fill pageSize) :
    Spared d (pinPage page fill : Action (Pool size pageSize) (Fin size × Bool)) := by
  refine .get fun s _ => ?_
  split
  · refine .bind (pin_spared _) fun _ => ?_
    iterate 2 refine after_change (fun _ => rfl) ?_
    exact .pure _
  · refine after_change (fun _ => rfl) (.bind (install_spared lost page fill) fun f => ?_)
    exact .bind (pin_spared f) fun _ => .pure _

theorem fetch_spared (page : PageId) :
    Spared d (fetch page : Action (Pool size pageSize) (Fin size)) :=
  .bind (pinPage_spared lost page .load) fun _ => .pure _

theorem read_spared (page : PageId) :
    Spared d (read page : Action (Pool size pageSize) (Block pageSize)) := by
  refine .bind (fetch_spared lost page) fun f => .get fun s _ => ?_
  exact .bind (release_spared f false) fun _ => .pure _

theorem write_spared (page : PageId) (bytes : Array UInt8) :
    Spared d (write page bytes : Action (Pool size pageSize) Unit) := by
  unfold write
  split
  · refine .bind (pinPage_spared lost page (.put _)) fun entered => ?_
    dsimp only
    split
    · exact after_change (fun _ => rfl) (release_spared _ true)
    · exact unpin_spared _
  · exact .reject _

theorem create_spared (page : PageId) :
    Spared d (create page : Action (Pool size pageSize) Unit) := by
  refine .get fun s _ => ?_
  split
  · next f _ =>
    refine .get fun t _ => .rejectIf ?_
    exact after_change (fun _ => rfl) (change_spared fun _ => rfl)
  · exact .bind (install_spared lost page (.put .zero)) fun _ => change_spared fun _ => rfl

theorem flush_spared (page : PageId) :
    Spared d (flush page : Action (Pool size pageSize) Bool) := by
  refine .get fun s _ => ?_
  split
  · exact .pure _
  · next f _ =>
    refine .bind (pin_spared f) fun _ => ?_
    refine .bind (.attempt (writeBack_spared lost f page)) fun saved => ?_
    refine .bind (unpin_spared f) fun _ => ?_
    cases saved with
    | ok wrote => exact .pure _
    | error e => exact .reject e

theorem writeBackAll_spared (order : List (PageId × Fin size)) (written : Nat)
    (stopped : Option StoreError) : Spared d (writeBackAll order written stopped) := by
  induction order generalizing written stopped with
  | nil => cases stopped <;> exact .pure _
  | cons entry rest ih =>
    obtain ⟨page, f⟩ := entry
    cases stopped with
    | some e => exact .bind (unpin_spared f) fun _ => ih written (some e)
    | none =>
      refine .bind (.attempt (writeBack_spared lost f page)) fun saved => ?_
      cases saved with
      | ok wrote => exact .bind (unpin_spared f) fun _ => ih _ none
      | error e => exact .bind (unpin_spared f) fun _ => ih written (some e)

theorem flushFrames_spared (order : List (PageId × Fin size)) :
    Spared d (flushFrames order : Action (Pool size pageSize) Nat) := by
  have pinned : Spared d (order.forM fun entry => pin entry.2) := by
    apply Preserves.forM
    exact fun entry => pin_spared entry.2
  refine .bind pinned fun _ => .bind (writeBackAll_spared lost order 0 none) fun saved => ?_
  cases saved with
  | ok written => exact .pure _
  | error e => exact .reject e

end Lost

end Pool

namespace GuardedPool

variable {size pageSize : Nat} {s t : GuardedPool size pageSize} {request : PoolRequest}
  {outcome : Outcome PoolReply}

theorem perform_disk {α : Type} {act : Action (Pool size pageSize) α} {reply : α → PoolReply}
    (spared : Pool.Spared s.pool.disk act) : (s.perform act reply).2.pool.disk = s.pool.disk :=
  Outcome.ofAction_preserves spared rfl

theorem release_disk (s : GuardedPool size pageSize) (name : String) :
    (s.release name).2.pool.disk = s.pool.disk := by
  unfold release
  split
  · rfl
  · next g _ =>
    have spared := Pool.release_spared (d := s.pool.disk) g.frame (g.access == .exclusive)
    exact Outcome.ofAction_preserves spared rfl

theorem releaseAll_disk (s : GuardedPool size pageSize) :
    s.releaseAll.pool.disk = s.pool.disk := by
  unfold releaseAll
  -- The guards to give up are those that were held at first, while the pool changes with each.
  generalize s.guards = held
  induction held generalizing s with
  | nil => rfl
  | cons entry rest ih => exact (ih _).trans (s.release_disk entry.1)

theorem serve_disk (lost : s.pool.disk.isOpen = false) (request : PoolRequest) :
    (s.serve request).2.pool.disk = s.pool.disk := by
  cases request with
  | fetch page access name =>
    have left := Pool.fetch_spared lost page s.pool rfl
    show (s.fetch page access name).2.pool.disk = _
    unfold fetch
    split
    · rfl
    · split
      · next ran => simpa only [ran] using left
      · next ran => simpa only [ran] using left
  | release name => exact release_disk s name
  | peek name =>
    unfold serve
    dsimp only
    split <;> rfl
  | poke name start bytes =>
    show (s.poke name start bytes).2.pool.disk = _
    unfold poke
    split
    · split <;> rfl
    · rfl
  | read page => exact perform_disk (Pool.read_spared lost page)
  | write page bytes => exact perform_disk (Pool.write_spared lost page bytes)
  | create page => exact perform_disk (Pool.create_spared lost page)
  | invalidate page => exact perform_disk (Pool.invalidate_spared page)
  | flush page => exact perform_disk (Pool.flush_spared lost page)
  | flushAll => exact perform_disk (.get fun _ _ => Pool.flushFrames_spared lost _)
  | sync => exact perform_disk (Pool.onDisk_spared (Disk.sync_preserves lost))
  | close => exact perform_disk (Pool.onDisk_spared (Disk.close_preserves lost))
  | info | counters | sizes => rfl

/-- No request reaches a file that was let go of. -/
theorem steps_disk (lost : s.pool.disk.isOpen = false) (steps : s.Steps request outcome t) :
    t.pool.disk = s.pool.disk := by
  cases steps with
  | made =>
    unfold step
    split
    · rfl
    · exact serve_disk lost request
  | flushed unmet listed => exact perform_disk (Pool.flushFrames_spared lost _)

end GuardedPool

end PagedStorage
