import Mathlib.Logic.Function.Basic
import PagedStorage.Proofs.EngineAnswers
import PagedStorage.Proofs.Opening
import PagedStorage.Session.Handles

/-!
# A plain row of blocks

What a handle on a file does for its callers, without offsets and files: it knows the number of its
blocks, how far it may grow, and the bytes at each place (`BlockStore`). A handle that was opened on a
file is such a row of blocks, the one that was in the file, and to close the file and open it again is
nothing but to set another limit (`HandleSession.stores_blocks`).

Bytes behind the last whole block are not part of the row, but they are still in the file. So they are
at the place of the next block, and show when it is counted.
-/

namespace PagedStorage

/-! ### The row -/

structure BlockStore (pageSize : Nat) where
  /-- How long the file may grow. -/
  limit : Nat
  count : Nat
  /-- The bytes at the place of a block, whether it is counted yet or not. -/
  block : PageId → Block pageSize

inductive BlockRequest where
  /-- Reads into a buffer of that length. -/
  | read (page : PageId) (length : Nat)
  | write (page : PageId) (bytes : Array UInt8)
  /-- Drops the handle and opens the file again, which may grow up to another limit. -/
  | reopen (maxFileSize : Nat)

/-- The request names no page without a successor. -/
def BlockRequest.Numbered : BlockRequest → Prop
  | .read page _ | .write page _ => page.index + 1 < 0x100000000
  | .reopen _ => True

namespace BlockStore

variable {pageSize : Nat}

/-- The blocks of a file. -/
def ofFile (limit : Nat) (file : File) : BlockStore pageSize where
  limit := limit
  count := file.size / pageSize
  block page := Vector.ofFn fun j => file.byteAt (page.index * pageSize + j.val)

/-- A block that is there may be written again, and others as far as the file may grow. -/
def Accepts (s : BlockStore pageSize) (page : PageId) : Prop :=
  page.index < s.count ∨ (page.index + 1) * pageSize ≤ s.limit

instance (s : BlockStore pageSize) (page : PageId) : Decidable (s.Accepts page) :=
  inferInstanceAs (Decidable (_ ∨ _))

/-- The row after a block was written. Whatever is skipped is counted with it. -/
def put (s : BlockStore pageSize) (page : PageId) (block : Block pageSize) : BlockStore pageSize :=
  { s with
    count := max s.count (page.index + 1)
    block := Function.update s.block page block }

def step (s : BlockStore pageSize) : BlockRequest → Outcome HandleReply × BlockStore pageSize
  | .read page length =>
    if length ≠ pageSize then (.failed (.error (.pageSizeMismatch pageSize length)), s)
    else if page.index < s.count then (.done (.bytes (s.block page).toArray), s)
    else (.failed (.error (.device (.beyondEnd page s.count))), s)
  | .write page bytes =>
    match Block.ofArray? bytes with
    | none => (.failed (.error (.pageSizeMismatch pageSize bytes.size)), s)
    | some block =>
      if s.Accepts page then (.done .done, s.put page block)
      else (.failed (.error (.allocationExhausted ((page.index + 1) * pageSize) s.limit)), s)
  | .reopen limit => (.done .done, { s with limit })

/-- The bytes that were written last as the block of a page, in a history that begins with the first
request. -/
def lastWritten? (page : PageId) : List (BlockRequest × Outcome HandleReply) →
    Option (Block pageSize)
  | [] => none
  | (.write other bytes, .done _) :: later =>
    (lastWritten? page later).or (if other = page then Block.ofArray? bytes else none)
  | _ :: later => lastWritten? page later

theorem block_step (s : BlockStore pageSize) (request : BlockRequest) (page : PageId)
    (later : List (BlockRequest × Outcome HandleReply)) :
    (lastWritten? page later).getD ((s.step request).2.block page) =
      (lastWritten? page ((request, (s.step request).1) :: later)).getD (s.block page) := by
  cases request with
  | read other length =>
    simp only [step]
    split
    · rfl
    · split <;> rfl
  | write other bytes =>
    cases size : (Block.ofArray? bytes : Option (Block pageSize)) with
    | none => simp [step, size, lastWritten?]
    | some block =>
      by_cases accepts : s.Accepts other
      · by_cases same : other = page
        · subst same
          cases known : (lastWritten? other later : Option (Block pageSize)) <;>
            simp [step, size, accepts, lastWritten?, put, known]
        · simp [step, size, accepts, lastWritten?, put, same, Function.update_of_ne (Ne.symm same)]
      · simp [step, size, accepts, lastWritten?]
  | reopen limit => rfl

/-- After every run a block is what was written last, or what it was. -/
theorem block_after (s : BlockStore pageSize) (requests : List BlockRequest) (page : PageId) :
    (Run.after step s requests).block page =
      (lastWritten? page (requests.zip (Run.answers step s requests))).getD (s.block page) := by
  induction requests generalizing s with
  | nil => rfl
  | cons request rest ih =>
    rw [Run.after, ih, block_step]
    rfl

end BlockStore

/-! ### Handles -/

namespace Disk

variable {pageSize : Nat} {d : Disk pageSize} {store : BlockStore pageSize} {page : PageId}

/-- A handle is an open one on the row of blocks. -/
structure Refines (d : Disk pageSize) (store : BlockStore pageSize) : Prop where
  counted : d.Counted
  reliable : d.Reliable
  isOpen : d.isOpen = true
  limit_eq : store.limit = d.maxFileSize
  count_eq : store.count = d.blockCount
  block_eq : ∀ page, store.block page = d.blockAt page

namespace Refines

theorem accepts_iff (h : d.Refines store) : store.Accepts page ↔ d.HasRoom page := by
  rw [BlockStore.Accepts, h.count_eq, h.limit_eq, HasRoom]

theorem put (h : d.Refines store) (block : Block pageSize) (next : page.index + 1 < 0x100000000) :
    (d.written page block next).Refines (store.put page block) := by
  constructor
  case counted => exact h.counted.written page block next
  case reliable => exact (device_written ..).trans h.reliable
  case isOpen => rw [isOpen_written, h.isOpen]
  case limit_eq => rw [maxFileSize_written, ← h.limit_eq]; rfl
  case count_eq => rw [blockCount_written, ← h.count_eq]; rfl
  case block_eq =>
    intro other
    rw [blockAt_written, ← h.block_eq]
    exact Function.update_apply ..

theorem read (h : d.Refines store) (addressable : page.Addressable pageSize) (length : Nat) :
    let r := Outcome.ofAction (Disk.read page length) d
    r.1.map (fun block => HandleReply.bytes block.toArray) = (store.step (.read page length)).1 ∧
      r.2 = d := by
  have reading := d.readBlock_eq addressable
  rw [block?_of_reliable h.reliable] at reading
  by_cases right : length = pageSize
  · by_cases counted : page.index < d.blockCount
    · have reaches := h.counted.reaches counted
      simp [Outcome.ofAction, Outcome.map, Disk.read, checkLength, right, reading,
        Nat.not_le.mpr counted, h.isOpen, reaches, BlockStore.step, h.count_eq, counted, h.block_eq]
    · simp [Outcome.ofAction, Outcome.map, Disk.read, checkLength, right, reading,
        Nat.not_lt.mp counted, BlockStore.step, h.count_eq, counted]
  · simp [Outcome.ofAction, Outcome.map, Disk.read, checkLength, right, BlockStore.step]

/-- A write that fails leaves the handle as it is. -/
theorem write (h : d.Refines store) (addressable : page.Addressable pageSize)
    (bytes : Array UInt8) :
    let r := Outcome.ofAction (Disk.write page bytes) d
    r.1.map (fun _ => HandleReply.done) = (store.step (.write page bytes)).1 ∧
      r.2.Refines (store.step (.write page bytes)).2 ∧
      ((∃ why, r.1 = .failed why) → r.2 = d) := by
  cases size : (Block.ofArray? bytes : Option (Block pageSize)) with
  | none => simp [Outcome.ofAction, Outcome.map, Disk.write, size, BlockStore.step, h]
  | some block =>
    have writing := d.writeBlock_eq addressable block
    rw [spoiled_of_reliable h.reliable, refusal_of_reliable h.reliable] at writing
    simp only [takes_iff_of_reliable h.reliable] at writing
    by_cases room : d.HasRoom page
    · have accepts := h.accepts_iff.mpr room
      simp [Outcome.ofAction, Outcome.map, Disk.write, size, writing, room, h.isOpen,
        BlockStore.step, accepts, h.put]
    · have declines := mt h.accepts_iff.mp room
      simp [Outcome.ofAction, Outcome.map, Disk.write, size, writing, room,
        BlockStore.step, declines, h, h.limit_eq]

end Refines

/-- A handle on a file that exists is the row of its blocks. -/
theorem refines_ofFile {maxFileSize : Nat} {file : File}
    (opened : ofFile maxFileSize file = .ok d) :
    d.Refines (.ofFile maxFileSize file) ∧ d.file = file := by
  obtain ⟨-, blocks, limit, isOpen, reliable, rfl⟩ := ofFile_eq_ok_iff.mp opened
  exact ⟨⟨counted_of_ofFile opened, reliable, isOpen, limit.symm, blocks, fun _ => rfl⟩, rfl⟩

theorem refines_ofNew (maxFileSize : Nat) :
    (ofNew maxFileSize : Disk pageSize).Refines (.ofFile maxFileSize .empty) :=
  ⟨counted_ofNew maxFileSize, reliable_ofNew maxFileSize, rfl, rfl, Nat.zero_div pageSize,
    fun _ => rfl⟩

end Disk

/-! ### Sessions -/

/-- What is in the file at a path. Where there is none, a new one will be empty. -/
def FileTree.contents (t : FileTree) (path : Path) : File :=
  match t.file path with
  | .ok file => file
  | .error _ => .empty

theorem FileTree.contents_of_file {t : FileTree} {path : Path} {file : File}
    (there : t.file path = .ok file) : t.contents path = file := by
  rw [contents, there]

/-- No file is made where there is one. -/
theorem FileTree.contents_of_createFile {t u : FileTree} {path : Path}
    (made : t.createFile path = .ok u) : t.contents path = .empty := by
  obtain ⟨place, leads, vacant, -⟩ := createFile_eq_ok_iff.mp made
  cases there : t.file path with
  | error e => rw [contents, there]
  | ok file =>
    obtain ⟨other, found⟩ := file_eq_ok_iff.mp there
    obtain ⟨also, stands, -⟩ := find_eq_ok_file_iff.mp found
    rw [leads] at also
    cases also
    simp [vacant] at stands

namespace HandleSession

variable {s t : HandleSession} {name : String} {path : Path} {pageSize maxFileSize : Nat}
  {d : Disk pageSize} {store : BlockStore pageSize} {request : BlockRequest}

/-- Makes a request of the handle of a name, on the file at a path. -/
def ask (name : String) (path : Path) (pageSize : Nat) (s : HandleSession) :
    BlockRequest → Outcome HandleReply × HandleSession
  | .read page length => s.step name (.read page (some length))
  | .write page bytes => s.step name (.write page bytes)
  | .reopen maxFileSize =>
    (s.step name .drop).2.step name (.start .openFile path pageSize maxFileSize)

/-- The handle of the name is on the file at the path, which nobody else has touched. -/
structure Has (s : HandleSession) (name : String) (path : Path) (d : Disk pageSize) : Prop where
  handle : s.handle? name = some ⟨path, pageSize, d⟩
  file : s.tree.file path = .ok d.file

theorem handle?_putHandle (s : HandleSession) (name : String) (h : Handle) :
    (s.putHandle name h).handle? name = some h := by
  simp [putHandle, handle?]

/-- A handle runs its actions on the file as it has left it. -/
theorem Has.perform {α : Type} (has : s.Has name path d) (act : Action (Disk pageSize) α) :
    (s.perform name ⟨path, pageSize, d⟩ act).1 = (Outcome.ofAction act d).1 ∧
      (s.perform name ⟨path, pageSize, d⟩ act).2.Has name path (Outcome.ofAction act d).2 := by
  unfold HandleSession.perform
  simp only [has.file, true_and]
  exact ⟨handle?_putHandle .., FileTree.file_setFile has.file has.file rfl _⟩

/-- A file that was closed by dropping its handle is opened as it was left. -/
theorem Has.reopened (has : s.Has name path d) (counted : d.Counted) (reliable : d.Reliable)
    (long : 0 < pageSize) (limit : Nat) :
    let d' : Disk pageSize := { d with maxFileSize := limit, isOpen := true }
    (s.ask name path pageSize (.reopen limit)).1 = .done .done ∧
      (s.ask name path pageSize (.reopen limit)).2.Has name path d' := by
  intro d'
  have opened : Disk.ofFile limit d.file = .ok d' :=
    Disk.ofFile_eq_ok_iff.mpr ⟨long, (counted long).symm, rfl, rfl, reliable, rfl⟩
  have opening : Disk.openFile path limit s.tree =
      (.ok d' s.tree : EStateM.Result Failure FileTree (Disk pageSize)) := by
    simp [Disk.openFile, has.file, opened]
  simp only [ask, step, has.handle, start, opening, true_and]
  exact ⟨handle?_putHandle .., has.file⟩

/-- A request is answered as by the row of blocks, and leaves handle and row alike. If it fails, it
leaves the handle and the file as they are. -/
theorem Has.asked (has : s.Has name path d) (refines : d.Refines store) (long : 0 < pageSize)
    (small : pageSize < 0x100000000) (numbered : request.Numbered) :
    (s.ask name path pageSize request).1 = (store.step request).1 ∧
      ∃ d' : Disk pageSize, (s.ask name path pageSize request).2.Has name path d' ∧
        d'.Refines (store.step request).2 ∧
        ((∃ why, (store.step request).1 = .failed why) → d' = d) := by
  cases request with
  | read page length =>
    obtain ⟨same, still⟩ := has.perform (Disk.read page length)
    obtain ⟨answered, left⟩ := refines.read (.of_small numbered small) length
    have unchanged : (store.step (.read page length)).2 = store := by
      simp only [BlockStore.step]
      split
      · rfl
      · split <;> rfl
    rw [left] at still
    rw [unchanged, ← answered]
    simp only [HandleSession.ask, step, has.handle, Option.getD_some, same, true_and]
    exact ⟨d, still, refines, fun _ => rfl⟩
  | write page bytes =>
    obtain ⟨same, still⟩ := has.perform (Disk.write page bytes)
    obtain ⟨answered, refined, spared⟩ := refines.write (.of_small numbered small) bytes
    simp only [HandleSession.ask, step, has.handle, same, answered, true_and]
    refine ⟨_, still, refined, ?_⟩
    rintro ⟨why, failed⟩
    rw [← answered] at failed
    apply spared
    generalize (Outcome.ofAction (Disk.write page bytes) d).1 = outcome at failed
    cases outcome <;> simp_all [Outcome.map]
  | reopen limit =>
    obtain ⟨done, still⟩ := has.reopened refines.counted refines.reliable long limit
    refine ⟨done, _, still, ?_, ?_⟩
    · exact ⟨refines.counted, refines.reliable, rfl, rfl, refines.count_eq, refines.block_eq⟩
    · rintro ⟨why, failed⟩
      cases failed

private theorem has_of_create
    (started : s.start name .create path pageSize maxFileSize = (.done .done, t)) :
    ∃ d : Disk pageSize, t.Has name path d ∧
      d.Refines (.ofFile maxFileSize (s.tree.contents path)) := by
  cases created : s.tree.createFile path with
  | error e => simp [start, Disk.create, created] at started
  | ok u =>
    simp only [start, Disk.create, Action.run_bind, Action.run_get, created, Action.run_set,
      Action.run_pure, Prod.mk.injEq, true_and] at started
    subst started
    rw [FileTree.contents_of_createFile created]
    exact ⟨_, ⟨handle?_putHandle .., FileTree.file_createFile created⟩,
      Disk.refines_ofNew maxFileSize⟩

private theorem has_of_openFile
    (started : s.start name .openFile path pageSize maxFileSize = (.done .done, t)) :
    ∃ d : Disk pageSize, t.Has name path d ∧
      d.Refines (.ofFile maxFileSize (s.tree.contents path)) := by
  cases there : s.tree.file path with
  | error e => simp [start, Disk.openFile, there] at started
  | ok file =>
    cases opened : (Disk.ofFile maxFileSize file : Except Failure (Disk pageSize)) with
    | error why => simp [start, Disk.openFile, there, opened] at started
    | ok d =>
      simp only [start, Disk.openFile, Action.run_bind, Action.run_get, there, opened,
        Action.run_pure, Prod.mk.injEq, true_and] at started
      subst started
      obtain ⟨refines, same⟩ := Disk.refines_ofFile opened
      rw [FileTree.contents_of_file there]
      refine ⟨d, ⟨handle?_putHandle .., ?_⟩, refines⟩
      rw [same]
      exact there

/-- What a handle is that was just opened: the row of the blocks that are in the file. -/
theorem has_of_start {how : Opening}
    (started : s.start name how path pageSize maxFileSize = (.done .done, t)) :
    ∃ d : Disk pageSize, t.Has name path d ∧
      d.Refines (.ofFile maxFileSize (s.tree.contents path)) := by
  cases how with
  | create => exact has_of_create started
  | openFile => exact has_of_openFile started
  | openOrCreate =>
    cases held : s.tree.holds path with
    | true =>
      apply has_of_openFile
      simpa only [start, Disk.openOrCreate, Action.run_bind, Action.run_get, held, if_true]
        using started
    | false =>
      apply has_of_create
      simpa only [start, Disk.openOrCreate, Action.run_bind, Action.run_get, held, if_false,
        Bool.false_eq_true] using started

/-! ### Runs -/

/-- Requests that are made one after the other are answered as by the row of blocks. -/
theorem Has.after (has : s.Has name path d) (refines : d.Refines store) (long : 0 < pageSize)
    (small : pageSize < 0x100000000) {requests : List BlockRequest}
    (numbered : ∀ request ∈ requests, request.Numbered) :
    Run.answers (ask name path pageSize) s requests = Run.answers BlockStore.step store requests ∧
      ∃ d' : Disk pageSize, (Run.after (ask name path pageSize) s requests).Has name path d' ∧
        d'.Refines (Run.after BlockStore.step store requests) := by
  let alike (s : HandleSession) (store : BlockStore pageSize) : Prop :=
    ∃ d : Disk pageSize, s.Has name path d ∧ d.Refines store
  have steps : ∀ s store request, BlockRequest.Numbered request → alike s store →
      (ask name path pageSize s request).1 = (BlockStore.step store request).1 ∧
        alike (ask name path pageSize s request).2 (BlockStore.step store request).2 := by
    rintro s store request numbered ⟨d, has, refines⟩
    obtain ⟨same, d', still, refined, -⟩ := has.asked refines long small numbered
    exact ⟨same, d', still, refined⟩
  have run := Run.related_run steps ⟨d, has, refines⟩ numbered
  rw [List.forall₂_eq_eq_eq] at run
  exact run

/-- A handle on a file, whether it was there or not, is a plain row of its blocks. Whatever is read and
written, and however often the file is opened again, the answers are those of the row, a block is what
was written last or what it was, the number of blocks is that of the whole blocks in the file, and what
fails changes nothing. -/
theorem stores_blocks {how : Opening} (long : 0 < pageSize) (small : pageSize < 0x100000000)
    (started : s.start name how path pageSize maxFileSize = (.done .done, t))
    {requests : List BlockRequest} (numbered : ∀ request ∈ requests, request.Numbered) :
    let row : BlockStore pageSize := .ofFile maxFileSize (s.tree.contents path)
    let answers := Run.answers (ask name path pageSize) t requests
    let u := Run.after (ask name path pageSize) t requests
    answers = Run.answers BlockStore.step row requests ∧
      ∃ d : Disk pageSize, u.Has name path d ∧ d.blockCount = d.file.size / pageSize ∧
        (∀ page, d.blockAt page =
          (BlockStore.lastWritten? page (requests.zip answers)).getD (row.block page)) ∧
        ∀ request, request.Numbered → (∃ why, (u.ask name path pageSize request).1 = .failed why) →
          (u.ask name path pageSize request).2.Has name path d := by
  intro row answers u
  obtain ⟨d₀, has₀, refines₀⟩ := has_of_start started
  obtain ⟨same, d, has, refines⟩ := has₀.after refines₀ long small numbered
  have answered : answers = Run.answers BlockStore.step row requests := same
  refine ⟨answered, d, has, refines.counted long, ?_, ?_⟩
  · intro page
    rw [← refines.block_eq, answered]
    exact BlockStore.block_after row requests page
  · rintro request numbered ⟨why, failed⟩
    obtain ⟨answered, d', still, -, unchanged⟩ := has.asked refines long small numbered
    obtain rfl := unchanged ⟨why, answered ▸ failed⟩
    exact still

/-- A file of two blocks and a half, in a tree where there is nothing else. -/
def plainFile : HandleSession := ⟨⟨[(["f"], .file (.hole 1280))]⟩, []⟩

/-- The third block is completed, and read after the file was opened again with no room to grow. -/
theorem stores_blocks_reopened :
    let path : Path := ⟨[.into "f"], false, none⟩
    let page : PageId := ⟨2, by decide⟩
    let requests : List BlockRequest :=
      [.write page (Array.replicate 512 7), .reopen 0, .read page 512]
    let row : BlockStore 512 := .ofFile 4096 (plainFile.tree.contents path)
    let t := (plainFile.start "d" .openFile path 512 4096).2
    let answers := Run.answers (ask "d" path 512) t requests
    let u := Run.after (ask "d" path 512) t requests
    answers = Run.answers BlockStore.step row requests ∧
      ∃ d : Disk 512, u.Has "d" path d ∧ d.blockCount = d.file.size / 512 ∧
        (∀ page, d.blockAt page =
          (BlockStore.lastWritten? page (requests.zip answers)).getD (row.block page)) ∧
        ∀ request, request.Numbered → (∃ why, (u.ask "d" path 512 request).1 = .failed why) →
          (u.ask "d" path 512 request).2.Has "d" path d := by
  intro path page requests
  have started : plainFile.start "d" .openFile path 512 4096 =
      (.done .done, (plainFile.start "d" .openFile path 512 4096).2) := rfl
  have next : page.index + 1 < 0x100000000 := by decide
  have numbered : ∀ request ∈ requests, request.Numbered := by
    intro request listed
    simp only [requests, List.mem_cons, List.not_mem_nil, or_false] at listed
    rcases listed with rfl | rfl | rfl
    · exact next
    · trivial
    · exact next
  exact stores_blocks (by decide) (by decide) started numbered

end HandleSession

end PagedStorage
