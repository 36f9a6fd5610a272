import PagedStorage.Proofs.Durability
import PagedStorage.Proofs.EngineLayers
import PagedStorage.Proofs.GuardedEngines

/-!
# Pages that nobody writes to

Pages that are only read go through the same frames as those that are written, and leave them in the
same way. But a frame is newer than the file only if a request has given its page new bytes. So the
file keeps the bytes of every page to which this has not happened, and as long as it has not happened
to any page the file stays as it was (`Pool.Mirrors`), up to its last byte (`Engine.Runs.untouched`).
-/

namespace PagedStorage

open PagedStorage.Action (Settles)

/-! ### Pools that are not written to -/

namespace Pool

variable {size pageSize : Nat} {s t : Pool size pageSize} {f : Fin size} {page : PageId}
  {file : File} {order : List (PageId × Fin size)}

/-- No frame is newer than the file, which has these contents. -/
structure Mirrors (s : Pool size pageSize) (file : File) : Prop where
  clean : ∀ f, (s.frame f).dirty = false
  file_eq : s.disk.file = file

theorem saved_of_clean (clean : (s.frame f).dirty = false) (page : PageId) : s.saved f page = s :=
  dif_neg fun newer => by simp [clean] at newer

namespace Mirrors

theorem tallied (h : s.Mirrors file) (change : Counters → Counters) :
    (s.tallied change).Mirrors file := ⟨h.clean, h.file_eq⟩

theorem touched (h : s.Mirrors file) (f : Fin size) : (s.touched f).Mirrors file := by
  refine ⟨fun g => ?_, h.file_eq⟩
  rw [frame_touched]
  exact h.clean g

theorem vacated (h : s.Mirrors file) (f : Fin size) (page : PageId) :
    (s.vacated f page).Mirrors file := by
  refine ⟨fun g => ?_, h.file_eq⟩
  rw [frame_vacated]
  split
  · rfl
  · exact h.clean g

/-- Bytes that were read are no newer than the file. -/
theorem admitted (h : s.Mirrors file) (f : Fin size) (page : PageId) (bytes : Block pageSize) :
    (s.admitted f page bytes false).Mirrors file := by
  refine ⟨fun g => ?_, h.file_eq⟩
  rw [frame_admitted]
  split
  · rfl
  · exact h.clean g

theorem shut (h : s.Mirrors file) : s.shut.Mirrors file := ⟨h.clean, h.file_eq⟩

/-- A page that makes room leaves without being saved. -/
theorem makesRoom (h : s.Mirrors file) (room : s.MakesRoom t f) : t.Mirrors file := by
  cases room with
  | free => exact h
  | @evict _ victim full oldest held saves =>
    rw [saved_of_clean (h.clean f)]
    exact (h.vacated f victim).tallied _

theorem admits {r : Except StoreError (Fin size)} (h : s.Mirrors file)
    (admits : s.Admits page .load r t) : t.Mirrors file := by
  cases admits with
  | full lacks =>
    cases lacks with
    | saturated => exact h
    | stuck _ _ _ newer => simp [h.clean] at newer
  | unread room => exact h.makesRoom room
  | enters room source =>
    obtain ⟨-, rfl⟩ := source_load_eq_ok_iff.mp source
    exact ((h.makesRoom room).admitted ..).tallied _

theorem read (h : s.Mirrors file) (sound : s.Sound) (unpinned : ∀ f, (s.frame f).pins = 0)
    (addressable : page.Addressable pageSize) :
    Settles (Pool.read page) s (·.Mirrors file) fun _ => False := by
  cases resident : s.table[page]? with
  | some f =>
    have room : (s.frame f).pins + 1 < Frame.pinLimit := by
      rw [unpinned]
      decide
    exact .of_ok (read_hit sound resident room) ((h.touched f).tallied _)
  | none =>
    obtain ⟨r, t, admits, ran⟩ := (read_miss sound resident addressable).sure
    have still := (h.tallied _).admits admits
    cases r with
    | error e => exact .of_error ran still
    | ok f => exact .of_ok ran still

theorem invalidate (h : s.Mirrors file) (page : PageId) :
    Settles (Pool.invalidate page) s (·.Mirrors file) fun _ => False := by
  have ran := invalidate_eq s page
  cases resident : s.table[page]? with
  | none =>
    rw [resident] at ran
    exact .of_ok ran h
  | some f =>
    simp only [resident] at ran
    by_cases busy : (s.frame f).isPinned = true
    · exact .of_error (ran.trans (if_pos busy)) h
    · exact .of_ok (ran.trans (if_neg busy)) ((h.vacated f page).tallied _)

/-- There is nothing to flush. -/
theorem flushFrames (h : s.Mirrors file) (sound : s.Sound) (listed : order.Perm s.dirtyFrames) :
    Settles (Pool.flushFrames order) s (·.Mirrors file) fun _ => False := by
  rw [dirtyFrames_eq_nil sound h.clean, List.perm_nil] at listed
  subst listed
  exact .of_ok rfl h

theorem sync (h : s.Mirrors file) : Settles Pool.sync s (·.Mirrors file) fun _ => False :=
  sync_settles_of h

theorem close (h : s.Mirrors file) : Settles Pool.close s (·.Mirrors file) fun _ => False :=
  close_settles_of h.shut

end Mirrors

end Pool

namespace Engine

variable {config : Config} {e f g : Engine config} {page : PageId} {request : StoreRequest}
  {outcome : Outcome EngineReply} {history : List (StoreRequest × Outcome EngineReply)} {file : File}
  {order : List (PageId × Fin config.bufferSize)}

/-! ### Engines that are not written to -/

/-- The action leaves the file as it is, and no frame newer than it. -/
abbrev Mirrored {α : Type} (act : Action (Engine config) α) (e : Engine config) (file : File) : Prop :=
  Settles act e (·.pool.Mirrors file) fun _ => False

section Mirrored

variable (mirrors : e.pool.Mirrors file)
include mirrors

theorem returned_mirrored (page : PageId) :
    Mirrored (onAllocator (Allocator.deallocate page)) e file := by
  have ran := Allocator.deallocate_eq e.allocator page
  apply Settles.within
  split at ran
  · exact .of_ok ran mirrors
  · exact .of_error ran mirrors

theorem deallocate_mirrored (page : PageId) : Mirrored (deallocate page) e file := by
  refine ensureOpen_settles mirrors fun _ => .get ?_
  dsimp only
  split
  · exact .of_error rfl mirrors
  · apply Settles.bind
    · exact .within (mirrors.invalidate page)
    · exact fun _ f still => returned_mirrored still page

theorem read_mirrored (h : e.Sound) (page : PageId) : Mirrored (read page) e file := by
  refine ensureOpen_settles mirrors fun _ => ensureLive_settles mirrors fun live => ?_
  have addressable := h.addressable page (Sound.index_lt live)
  apply Settles.bind
  · exact .within (mirrors.read h.proper.sound h.unpinned addressable)
  · exact fun _ _ still => .pure still

variable (sound : e.pool.Sound) (listed : order.Perm e.pool.dirtyFrames)
include sound listed

theorem flushAndSyncIn_mirrored : Mirrored (flushAndSyncIn order) e file := by
  apply Settles.bind
  · exact .within (mirrors.flushFrames sound listed)
  · exact fun _ _ still => .within still.sync

theorem syncIn_mirrored : Mirrored (syncIn order) e file :=
  ensureOpen_settles mirrors fun _ => flushAndSyncIn_mirrored mirrors sound listed

theorem closeIn_mirrored : Mirrored (closeIn order) e file := by
  have flushed : Mirrored (flushAndSyncIn order) { e with closed := true } file :=
    flushAndSyncIn_mirrored mirrors sound listed
  exact settles_closeIn (fun _ => mirrors) (fun _ => flushed) fun _ still => .within still.close

end Mirrored

theorem mirrors_of_perform {α : Type} {act : Action (Engine config) α} {reply : α → EngineReply}
    (mirrored : Mirrored act e file) : (e.perform act reply).2.pool.Mirrors file := by
  unfold Mirrored Settles at mirrored
  cases ran : act e with
  | ok a f =>
    rw [ran] at mirrored
    rw [perform_of_ok ran]
    exact mirrored
  | error why f =>
    rw [ran] at mirrored
    rw [perform_of_error ran]
    cases why with
    | error why => exact mirrored
    | fault why => exact mirrored.elim

/-- What is not answered by new bytes for a page changes nothing. -/
theorem Answers.eq_of_not_renews (answers : e.Answers request outcome f)
    (asks : request = .allocate ∨ ∃ page, request = .write page)
    (unrenewed : ∀ page, ¬ Renews page request outcome) : f = e := by
  -- Both succeed only with new bytes, and what they refuse leaves the engine as it was.
  cases answers with
  | allocated => exact absurd rfl (unrenewed _)
  | written => exact absurd rfl (unrenewed _)
  | closed | exhausted | mismatched | unwritten => rfl
  | _ => simp at asks

/-- One step: as long as no page is given new bytes, none is dirty and the file stays as it is. -/
theorem Sound.mirrors_steps (h : e.Sound) (spans : config.Spans) (mirrors : e.pool.Mirrors file)
    (steps : e.Steps request outcome f) (unrenewed : ∀ page, ¬ Renews page request outcome) :
    f.pool.Mirrors file := by
  have sound := h.proper.sound
  have answers := h.steps_answers spans steps
  cases steps with
  | made =>
    cases request with
    | allocate => rwa [answers.eq_of_not_renews (.inl rfl) unrenewed]
    | write page => rwa [answers.eq_of_not_renews (.inr ⟨page, rfl⟩) unrenewed]
    | deallocate page => exact mirrors_of_perform (deallocate_mirrored mirrors page)
    | read page => exact mirrors_of_perform (read_mirrored mirrors h page)
    -- The order of the table is one of the orders.
    | sync =>
      have synced := syncIn_mirrored mirrors sound (List.Perm.refl _)
      exact mirrors_of_perform (.congr (sync_eq e) synced)
    | close =>
      have closed := closeIn_mirrored mirrors sound (List.Perm.refl _)
      exact mirrors_of_perform (.congr (close_eq e) closed)
  | synced listed => exact mirrors_of_perform (syncIn_mirrored mirrors sound listed)
  | closed listed => exact mirrors_of_perform (closeIn_mirrored mirrors sound listed)

/-! ### Pages that are not written to -/

/-- The file has the bytes of a page, and if the page is live it has these bytes too. -/
structure Keeps (e : Engine config) (page : PageId) (block : Block config.pageSize) : Prop where
  blockAt_eq : e.pool.disk.blockAt page = block
  bytesOf_eq : e.allocator.isLive page = true → e.pool.bytesOf page = block
  counted : page.index < e.pool.disk.blockCount

theorem Keeps.read?_eq {block : Block config.pageSize} (keeps : e.Keeps page block) (h : e.Sound) :
    e.pool.disk.file.read? (page.index * config.pageSize) config.pageSize = some block := by
  rw [Disk.read?_eq, if_pos (h.proper.counted.reaches keeps.counted), keeps.blockAt_eq]

/-- One step: a page that is not given new bytes keeps those it has, and its place in the file too. -/
theorem Keeps.steps {block : Block config.pageSize} (keeps : e.Keeps page block) (h : e.Sound)
    (spans : config.Spans) (steps : e.Steps request outcome f)
    (untouched : ¬ Renews page request outcome) : f.Keeps page block := by
  have answers := h.steps_answers spans steps
  obtain ⟨_, _, turns⟩ := answers.turns h
  constructor
  case blockAt_eq =>
    -- If the place was written, it was with the bytes of the page, which are the same.
    rcases turns.blockAt page with kept | ⟨live, saved⟩
    · exact kept.trans keeps.blockAt_eq
    · exact saved.trans (keeps.bytesOf_eq live)
  case bytesOf_eq =>
    intro live
    obtain ⟨before, same⟩ := answers.kept_of_not_renews h untouched live
    exact same.trans (keeps.bytesOf_eq before)
  case counted => exact Nat.lt_of_lt_of_le keeps.counted turns.blockCount_le

/-! ### Runs and their endings -/

/-- Requests with their answers, and what they make of an engine. -/
inductive Runs : Engine config → List (StoreRequest × Outcome EngineReply) → Engine config → Prop
  | nil (e : Engine config) : Runs e [] e
  | cons {e f g : Engine config} {request : StoreRequest} {outcome : Outcome EngineReply}
      {history : List (StoreRequest × Outcome EngineReply)} (steps : e.Steps request outcome f)
      (rest : Runs f history g) : Runs e ((request, outcome) :: history) g

/-- The requests that an engine is asked one after the other make a run of it. -/
theorem runs_after (e : Engine config) (requests : List StoreRequest) :
    e.Runs (requests.zip (Run.answers step e requests)) (Run.after step e requests) := by
  induction requests generalizing e with
  | nil => exact .nil e
  | cons request rest ih => exact .cons (.made request) (ih _)

/-- As `dispose`, with the dirty frames in a given order. -/
def disposeIn (order : List (PageId × Fin config.bufferSize)) : Action (Engine config) Unit := do
  if !(← get).closed then
    let _ ← Action.attempt (closeIn order)

theorem dispose_eq_disposeIn (e : Engine config) : dispose e = disposeIn e.pool.dirtyFrames e := by
  cases closed : e.closed <;> simp [dispose, disposeIn, closed, close_eq]

/-- What is left of an engine at the end of its use. One that was closed is given up as it is. -/
inductive Quits (e : Engine config) : Ending → Engine config → Prop
  | crash : Quits e .crash e
  | close {outcome : Outcome EngineReply} {f : Engine config} (steps : e.Steps .close outcome f) :
      Quits e .close f
  | drop {order : List (PageId × Fin config.bufferSize)} {f : Engine config}
      (listed : order.Perm e.pool.dirtyFrames) (given : disposeIn order e = .ok () f) :
      Quits e .drop f

/-- Whoever gives up an engine closes it, unless it is closed. -/
theorem steps_of_disposeIn (listed : order.Perm e.pool.dirtyFrames)
    (given : disposeIn order e = .ok () f) : f = e ∨ ∃ outcome, e.Steps .close outcome f := by
  cases closed : e.closed with
  | true =>
    left
    obtain rfl : e = f := by simpa [disposeIn, closed] using given
    rfl
  | false =>
    right
    have steps := Steps.closed listed
    cases ran : closeIn order e with
    | ok _ g =>
      rw [perform_of_ok ran] at steps
      obtain rfl : g = f := by simpa [disposeIn, closed, ran] using given
      exact ⟨_, steps⟩
    | error why g =>
      rw [perform_of_error ran] at steps
      cases why with
      | error why =>
        obtain rfl : g = f := by simpa [disposeIn, closed, ran] using given
        exact ⟨_, steps⟩
      | fault why => simp [disposeIn, closed, ran] at given

namespace Runs

theorem snoc (runs : e.Runs history f) (steps : f.Steps request outcome g) :
    e.Runs (history ++ [(request, outcome)]) g := by
  induction runs with
  | nil => exact .cons steps (.nil _)
  | cons first _ ih => exact .cons first (ih steps)

/-- At the end there may be one more close. -/
theorem quits {ending : Ending} (runs : e.Runs history f) (quits : f.Quits ending g) :
    ∃ last, (∀ entry ∈ last, entry.1 = StoreRequest.close) ∧ e.Runs (history ++ last) g := by
  have closes {outcome} (steps : f.Steps .close outcome g) :
      ∃ last, (∀ entry ∈ last, entry.1 = StoreRequest.close) ∧ e.Runs (history ++ last) g :=
    ⟨[(.close, outcome)], by simp, runs.snoc steps⟩
  have stays : ∃ last, (∀ entry ∈ last, entry.1 = StoreRequest.close) ∧ e.Runs (history ++ last) f :=
    ⟨[], by simp, by simpa using runs⟩
  cases quits with
  | crash => exact stays
  | close steps => exact closes steps
  | drop listed given =>
    rcases steps_of_disposeIn listed given with rfl | ⟨outcome, steps⟩
    · exact stays
    · exact closes steps

variable (h : e.Sound) (spans : config.Spans) (runs : e.Runs history f)
include h spans runs

theorem sound : f.Sound := by
  -- `Sound` is kept by every request, in whatever order it flushes.
  induction runs with
  | nil => exact h
  | cons steps _ ih => exact ih (h.steps spans steps)

/-- A run: a page that is never given new bytes keeps those it has. -/
theorem keeps {block : Block config.pageSize} (keeps : e.Keeps page block)
    (untouched : ∀ entry ∈ history, ¬ Renews page entry.1 entry.2) : f.Keeps page block := by
  -- What a page keeps is the invariant: a place in the file is only written with what the page has.
  induction runs with
  | nil => exact keeps
  | cons steps _ ih =>
    obtain ⟨first, rest⟩ := List.forall_mem_cons.mp untouched
    exact ih (h.steps spans steps) (keeps.steps h spans steps first) rest

/-- A run: as long as no page is given new bytes, the file stays as it is. -/
theorem mirrors (mirrors : e.pool.Mirrors file)
    (unrenewed : ∀ page, ∀ entry ∈ history, ¬ Renews page entry.1 entry.2) :
    f.pool.Mirrors file := by
  -- Nothing is ever dirty, so neither an eviction nor a flush has anything to write.
  induction runs with
  | nil => exact mirrors
  | cons steps _ ih =>
    simp only [List.forall_mem_cons, forall_and] at unrenewed
    exact ih (h.steps spans steps) (h.mirrors_steps spans mirrors steps unrenewed.1) unrenewed.2

end Runs

/-- Whatever is asked of an engine, in whatever order its flushes take the frames, and however its use
ends: the file has the bytes that it had of each page that no request has given new ones. If there was
no such request at all it is the same file. -/
theorem Runs.untouched {tree u : FileTree} {ending : Ending} (small : config.pageSize < 0x100000000)
    (started : start config tree = .ok e u) (runs : e.Runs history f) (quits : f.Quits ending g) :
    (∀ page : PageId, page.index < (tree.found config).size / config.pageSize →
        (∀ entry ∈ history, ¬ Renews page entry.1 entry.2) →
        ∃ block : Block config.pageSize,
          (tree.found config).read? (page.index * config.pageSize) config.pageSize = some block ∧
          g.pool.disk.file.read? (page.index * config.pageSize) config.pageSize = some block) ∧
      ((∀ page, ∀ entry ∈ history, ¬ Renews page entry.1 entry.2) →
        g.pool.disk.file = tree.found config) := by
  obtain ⟨valid, opens⟩ := opens_of_start started
  have sound := opens.sound small
  have spans := Config.spans_of_pageSize small
  obtain ⟨last, closing, whole⟩ := runs.quits quits
  -- What may come at the end gives no page new bytes.
  have longer : ∀ page, (∀ entry ∈ history, ¬ Renews page entry.1 entry.2) →
      ∀ entry ∈ history ++ last, ¬ Renews page entry.1 entry.2 := by
    intro page untouched entry mem
    rcases List.mem_append.mp mem with asked | ended
    · exact untouched entry asked
    · simp [closing entry ended, Renews]
  constructor
  · intro page inside untouched
    -- No page is in a frame yet, so all live pages have the bytes of the file.
    have keeps : e.Keeps page (e.pool.disk.blockAt page) :=
      ⟨rfl, fun _ => opens.fresh.bytesOf page, opens.blockCount_eq valid ▸ inside⟩
    refine ⟨_, ?_, (whole.keeps sound spans keeps (longer page untouched)).read?_eq
      (whole.sound sound spans)⟩
    rw [← opens.file_eq]
    exact keeps.read?_eq sound
  · intro unrenewed
    have mirrors : e.pool.Mirrors (tree.found config) := by
      refine ⟨fun f => ?_, opens.file_eq⟩
      rw [Pool.frame_ofDisk opens.fresh.made]
      rfl
    exact (whole.mirrors sound spans mirrors fun page => longer page (unrenewed page)).file_eq

/-- Two pages and a half, and one frame. The second page is written and pushed out by a read of the
first, and then the engine crashes. Or else nothing is written, and the engine is dropped. -/
theorem untouched_hole :
    let config : Config := ⟨"", 512, 1, 1024⟩
    let tree : FileTree := .bare (.hole 1280)
    let first : PageId := ⟨0, by decide⟩
    let second : PageId := ⟨1, by decide⟩
    let written : Page := ⟨second, Array.replicate 512 7⟩
    ∃ (e crashed used dropped : Engine config) (seen seen' returned synced : Outcome EngineReply),
      start config tree = .ok e tree ∧
      e.Runs [(.write written, .done .done), (.read first, seen)] crashed ∧
      (∃ block : Block config.pageSize,
        (File.hole 1280).read? (first.index * config.pageSize) config.pageSize = some block ∧
        crashed.pool.disk.file.read? (first.index * config.pageSize) config.pageSize = some block) ∧
      e.Runs [(.read first, seen'), (.deallocate second, returned), (.sync, synced)] used ∧
      used.Quits .drop dropped ∧ dropped.pool.disk.file = .hole 1280 := by
  intro config tree first second written
  have small : config.pageSize < 0x100000000 := by decide
  have spans := Config.spans_of_pageSize small
  have valid : config.validate = .ok () := Config.validate_eq_ok_iff.mpr (by decide)
  have houses : tree.Houses config (.hole 1280) := FileTree.bare_houses _ rfl
  have found : tree.found config = .hole 1280 := houses.found_eq
  obtain ⟨e, started, opens⟩ := start_of_houses valid houses (by decide)
  have sound := opens.sound small
  have opened := opens.fresh.closed_eq
  have live : e.allocator.isLive written.id = true := by
    rw [opens.fresh.isLive_iff, opens.blockCount_eq valid]
    decide
  have fits : written.bytes = (Vector.replicate 512 7 : Block 512).toArray := rfl
  obtain ⟨pool, wrote, -⟩ := write_turns sound opened fits live
  have answer : (e.step (.write written)).1 = .done .done := by rw [step, perform_of_ok wrote]
  have runs := runs_after e [.write written, .read first]
  rw [Run.answers, answer] at runs
  obtain ⟨block, before, after⟩ := (runs.untouched small started .crash).1 first
    (by rw [found]; decide) (by simp [Renews, Run.answers, written, first, second])
  rw [found] at before
  -- Without the write.
  have reads := runs_after e [.read first, .deallocate second, .sync]
  have working : StoreRequest.close ∉ [.read first, .deallocate second, .sync] := by simp
  have given := dispose_eq (sound_after sound spans _) ((closed_after sound spans working).trans opened)
  rw [dispose_eq_disposeIn] at given
  have drops := Quits.drop (List.Perm.refl _) given
  have kept := (reads.untouched small started drops).2 (by simp [Renews, Run.answers])
  exact ⟨e, _, _, _, _, _, _, _, started, runs, ⟨block, before, after⟩, reads, drops,
    kept.trans found⟩

end Engine

end PagedStorage
