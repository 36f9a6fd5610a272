import PagedStorage.Proofs.SessionRuns

/-!
# Pages in memory

The engine without a file answers as the one with a file does, request by request
(`MemoryEngine.Mirrors`). Both issue pages by the same allocator, and whatever the one looks up in its
map the other finds in a frame or in the file. Each hit there is a hit or a miss here.
-/

namespace PagedStorage

namespace MemoryEngine

variable {config : Config} {m n : MemoryEngine config} {e f : Engine config} {page : PageId}

/-- The engine in memory and the one on a file have the same pages, and have read and written as often
as each other. -/
structure Mirrors (m : MemoryEngine config) (e : Engine config) : Prop where
  sound : e.Sound
  allocator_eq : m.allocator = e.allocator
  closed_eq : m.closed = e.closed
  pages_iff : ∀ (q : PageId) (block : Block config.pageSize),
    m.pages[q]? = some block ↔ e.allocator.isLive q = true ∧ e.pool.bytesOf q = block
  size_eq : m.pages.size + m.allocator.free.size = m.allocator.total
  hits_eq : m.hits = e.pool.requests

theorem perform_of_ok {α : Type} {act : Action (MemoryEngine config) α} {a : α}
    (ran : act m = .ok a n) (reply : α → EngineReply) : m.perform act reply = (.done (reply a), n) := by
  simp [perform, Outcome.ofAction, ran, Outcome.map]

theorem perform_of_error {α : Type} {act : Action (MemoryEngine config) α} {why : Failure}
    (ran : act m = .error why n) (reply : α → EngineReply) : m.perform act reply = (.failed why, n) := by
  simp [perform, Outcome.ofAction, ran, Outcome.map]

theorem ensureOpen_eq (m : MemoryEngine config) :
    ensureOpen m = if m.closed then .error (.error .closed) m else .ok () m := by
  by_cases closed : m.closed <;> simp [ensureOpen, closed]

theorem ensureLive_eq (m : MemoryEngine config) (page : PageId) :
    ensureLive page m =
      match m.allocator.checkLive page with
      | .ok () => .ok () m
      | .error why => .error (.error why) m := by
  cases checked : m.allocator.checkLive page <;> simp [ensureLive, checked]

theorem step_of_closed (closed : m.closed = true) (request : StoreRequest) :
    m.step request.toEngine = (.failed (.error .closed), m) := by
  have refused : ensureOpen m = .error (.error .closed) m := by simp [ensureOpen_eq, closed]
  cases request <;> apply perform_of_error
  · simp [allocate, refused]
  · simp [deallocate, refused]
  · simp [write, refused]
  · simp [read, refused]
  · simp [sync, refused]
  · simp [close, refused]

namespace Mirrors

/-- The pages in memory are the live ones. -/
theorem contains_iff (mirrors : m.Mirrors e) (q : PageId) :
    m.pages.contains q = true ↔ e.allocator.isLive q = true := by
  rw [Std.ExtTreeMap.contains_eq_isSome_getElem?, Option.isSome_iff_exists]
  simp [mirrors.pages_iff]

/-- A step that leaves the allocator and all bytes alone. -/
private theorem of_turns {asked : Nat} {closed : Bool}
    {pool : Pool config.bufferSize config.pageSize} (mirrors : m.Mirrors e)
    (turns : e.Turns { e with closed, pool } asked e.pool.bytesOf) :
    Mirrors { m with closed, hits := m.hits + asked } { e with closed, pool } := by
  constructor
  case sound => exact turns.sound
  case allocator_eq => exact mirrors.allocator_eq
  case closed_eq => rfl
  case pages_iff =>
    intro q block
    rw [mirrors.pages_iff]
    apply and_congr_right
    intro live
    rw [turns.bytesOf q live]
  case size_eq => exact mirrors.size_eq
  case hits_eq => rw [turns.requests_eq, ← mirrors.hits_eq]

/-- A page is put in its place, where it was or where none was. -/
private theorem insert_iff {b : Allocator} {block : Block config.pageSize}
    {pool : Pool config.bufferSize config.pageSize} (mirrors : m.Mirrors e)
    (gains : e.allocator.Gains b page)
    (bytes : ∀ q, b.isLive q = true → pool.bytesOf q = Function.update e.pool.bytesOf page block q)
    (q : PageId) (other : Block config.pageSize) :
    (m.pages.insert page block)[q]? = some other ↔ b.isLive q = true ∧ pool.bytesOf q = other := by
  simp only [Std.ExtTreeMap.getElem?_insert, Std.compare_eq_iff_eq, gains.isLive_iff]
  split
  · next same =>
    -- The page that was put there is live, and has these bytes.
    subst same
    rw [bytes page ((gains.isLive_iff page).mpr (.inr rfl)), Function.update_self]
    simp
  · next apart =>
    have still : e.allocator.isLive q = true ∨ q = page ↔ e.allocator.isLive q = true :=
      or_iff_left (Ne.symm apart)
    rw [mirrors.pages_iff, still]
    apply and_congr_right
    intro known
    rw [bytes q ((gains.isLive_iff q).mpr (.inl known)), Function.update_of_ne (Ne.symm apart)]

private theorem of_write {block : Block config.pageSize}
    {pool : Pool config.bufferSize config.pageSize} (mirrors : m.Mirrors e)
    (live : e.allocator.isLive page = true)
    (turns : e.Turns { e with pool } 1 (Function.update e.pool.bytesOf page block)) :
    Mirrors { m with pages := m.pages.insert page block, hits := m.hits + 1 } { e with pool } := by
  have gains := mirrors.sound.issued.gains_of_live live
  constructor
  case sound => exact turns.sound
  case allocator_eq => exact mirrors.allocator_eq
  case closed_eq => exact mirrors.closed_eq
  case pages_iff => exact mirrors.insert_iff gains turns.bytesOf
  case size_eq =>
    -- The page was in the map already, so the map has not grown.
    rw [Std.ExtTreeMap.size_insert, if_pos ((mirrors.contains_iff page).mpr live)]
    exact mirrors.size_eq
  case hits_eq => rw [turns.requests_eq, ← mirrors.hits_eq]

private theorem of_issue {issued : Allocation} {b : Allocator}
    {pool : Pool config.bufferSize config.pageSize} (mirrors : m.Mirrors e)
    (issues : e.allocator.Issues issued b)
    (turns : e.Turns ⟨b, e.closed, pool⟩ 0 (Function.update e.pool.bytesOf issued.page .zero)) :
    Mirrors ⟨b, m.closed, m.pages.insert issued.page .zero, m.hits⟩ ⟨b, e.closed, pool⟩ := by
  have gains := issues.gains mirrors.sound.issued
  constructor
  case sound => exact turns.sound
  case allocator_eq => rfl
  case closed_eq => exact mirrors.closed_eq
  case pages_iff => exact mirrors.insert_iff gains turns.bytesOf
  case size_eq =>
    have new : ¬ m.pages.contains issued.page = true := by
      rw [mirrors.contains_iff, issues.not_live]
      nofun
    have size := mirrors.size_eq
    have grown := issues.size_eq
    rw [mirrors.allocator_eq] at size
    show (m.pages.insert issued.page .zero).size + b.free.size = b.total
    rw [Std.ExtTreeMap.size_insert, if_neg new]
    omega
  case hits_eq => exact mirrors.hits_eq.trans turns.requests_eq.symm

private theorem of_return {pool : Pool config.bufferSize config.pageSize} (mirrors : m.Mirrors e)
    (live : e.allocator.isLive page = true)
    (turns : e.Turns ⟨e.allocator.returned page, e.closed, pool⟩ 0 e.pool.bytesOf) :
    Mirrors ⟨e.allocator.returned page, m.closed, m.pages.erase page, m.hits⟩
      ⟨e.allocator.returned page, e.closed, pool⟩ := by
  constructor
  case sound => exact turns.sound
  case allocator_eq => rfl
  case closed_eq => exact mirrors.closed_eq
  case pages_iff =>
    intro q other
    simp only [Std.ExtTreeMap.getElem?_erase, Std.compare_eq_iff_eq, Allocator.isLive_returned]
    split
    · next same => simp [same]
    · next apart =>
      rw [mirrors.pages_iff, and_iff_left (Ne.symm apart)]
      apply and_congr_right
      intro known
      rw [turns.bytesOf q ((Allocator.isLive_returned q).mpr ⟨known, Ne.symm apart⟩)]
  case size_eq =>
    -- The page leaves the map and joins the free ones.
    have size := mirrors.size_eq
    have there := (mirrors.contains_iff page).mpr live
    have some : m.pages.size ≠ 0 := by
      rw [Ne, ← Std.ExtTreeMap.eq_empty_iff_size_eq_zero]
      exact Std.ExtTreeMap.ne_empty_of_mem there
    have one := Allocator.size_returned live
    rw [mirrors.allocator_eq] at size
    show (m.pages.erase page).size + (e.allocator.returned page).free.size = e.allocator.total
    rw [Std.ExtTreeMap.size_erase, if_pos there]
    omega
  case hits_eq => exact mirrors.hits_eq.trans turns.requests_eq.symm

/-- The engine in memory answers as the one on a file, and the two stay alike. -/
theorem step_of_answers {request : StoreRequest} {outcome : Outcome EngineReply}
    (mirrors : m.Mirrors e) (answers : e.Answers request outcome f) :
    (m.step request.toEngine).1 = outcome ∧ (m.step request.toEngine).2.Mirrors f := by
  -- The checks of the engine in memory, in their order, are decided by the answer of the other.
  obtain ⟨allocator, closed, pages, hits⟩ := m
  obtain rfl : allocator = e.allocator := mirrors.allocator_eq
  obtain rfl : closed = e.closed := mirrors.closed_eq
  cases answers with
  | closed shut =>
    rw [step_of_closed shut]
    exact ⟨rfl, mirrors⟩
  | @allocated issued b pool opened issues ran turns =>
    have done : allocate ⟨e.allocator, e.closed, pages, hits⟩ =
        .ok issued.page ⟨b, e.closed, pages.insert issued.page .zero, hits⟩ := by
      simp [allocate, ensureOpen_eq, opened, onAllocator, ran]
    rw [StoreRequest.toEngine, step, perform_of_ok done]
    exact ⟨rfl, mirrors.of_issue issues turns⟩
  | exhausted opened none full ran =>
    have failed : allocate ⟨e.allocator, e.closed, pages, hits⟩ =
        .error e.allocator.exhausted ⟨e.allocator, e.closed, pages, hits⟩ := by
      simp [allocate, ensureOpen_eq, opened, onAllocator, ran]
    rw [StoreRequest.toEngine, step, perform_of_error failed]
    exact ⟨rfl, mirrors⟩
  | @deallocated page pool opened live turns =>
    have done : deallocate page ⟨e.allocator, e.closed, pages, hits⟩ =
        .ok () ⟨e.allocator.returned page, e.closed, pages.erase page, hits⟩ := by
      simp [deallocate, ensureOpen_eq, opened, onAllocator, Allocator.deallocate_eq, live]
    rw [StoreRequest.toEngine, step, perform_of_ok done]
    exact ⟨rfl, mirrors.of_return live turns⟩
  | @kept page opened dead =>
    have failed : deallocate page ⟨e.allocator, e.closed, pages, hits⟩ =
        .error (.error (.invalidPageId page)) ⟨e.allocator, e.closed, pages, hits⟩ := by
      simp [deallocate, ensureOpen_eq, opened, onAllocator, Allocator.deallocate_eq, dead]
    rw [StoreRequest.toEngine, step, perform_of_error failed]
    exact ⟨rfl, mirrors⟩
  | @written page block pool opened fits live turns =>
    have there : page.id ∈ pages := (mirrors.contains_iff page.id).mpr live
    have checked := Allocator.checkLive_eq_ok_iff.mpr live
    have done : write page ⟨e.allocator, e.closed, pages, hits⟩ =
        .ok () ⟨e.allocator, e.closed, pages.insert page.id block, hits + 1⟩ := by
      simp [write, ensureOpen_eq, opened, fits, ensureLive_eq, checked, there]
    rw [StoreRequest.toEngine, step, perform_of_ok done]
    exact ⟨rfl, mirrors.of_write live turns⟩
  | @mismatched page opened fits =>
    have failed : write page ⟨e.allocator, e.closed, pages, hits⟩ =
        .error (.error (.pageSizeMismatch config.pageSize page.length))
          ⟨e.allocator, e.closed, pages, hits⟩ := by
      simp [write, ensureOpen_eq, opened, fits]
    rw [StoreRequest.toEngine, step, perform_of_error failed]
    exact ⟨rfl, mirrors⟩
  | @unwritten page block why opened fits refused =>
    have failed : write page ⟨e.allocator, e.closed, pages, hits⟩ =
        .error (.error why) ⟨e.allocator, e.closed, pages, hits⟩ := by
      simp [write, ensureOpen_eq, opened, fits, ensureLive_eq, refused]
    rw [StoreRequest.toEngine, step, perform_of_error failed]
    exact ⟨rfl, mirrors⟩
  | @shown page pool opened live turns =>
    have there : pages[page]? = some (e.pool.bytesOf page) :=
      (mirrors.pages_iff page _).mpr ⟨live, rfl⟩
    have checked := Allocator.checkLive_eq_ok_iff.mpr live
    have done : read page ⟨e.allocator, e.closed, pages, hits⟩ =
        .ok ⟨page, (e.pool.bytesOf page).toArray⟩ ⟨e.allocator, e.closed, pages, hits + 1⟩ := by
      simp [read, ensureOpen_eq, opened, ensureLive_eq, checked, there]
    rw [StoreRequest.toEngine, step, perform_of_ok done]
    exact ⟨rfl, mirrors.of_turns turns⟩
  | @unread page why opened refused =>
    have failed : read page ⟨e.allocator, e.closed, pages, hits⟩ =
        .error (.error why) ⟨e.allocator, e.closed, pages, hits⟩ := by
      simp [read, ensureOpen_eq, opened, ensureLive_eq, refused]
    rw [StoreRequest.toEngine, step, perform_of_error failed]
    exact ⟨rfl, mirrors⟩
  | synced opened turns saved =>
    have done : sync ⟨e.allocator, e.closed, pages, hits⟩ =
        .ok () ⟨e.allocator, e.closed, pages, hits⟩ := by
      simp [sync, ensureOpen_eq, opened]
    rw [StoreRequest.toEngine, step, perform_of_ok done]
    exact ⟨rfl, mirrors.of_turns turns⟩
  | shut opened turns saved =>
    have done : close ⟨e.allocator, e.closed, pages, hits⟩ =
        .ok () ⟨e.allocator, true, pages, hits⟩ := by
      simp [close, ensureOpen_eq, opened]
    rw [StoreRequest.toEngine, step, perform_of_ok done]
    exact ⟨rfl, mirrors.of_turns turns⟩

end Mirrors

/-- A new engine in memory is alike to one on a file that holds no page. -/
theorem start_mirrors {u : FileTree} {f : File} (valid : config.validate = .ok ())
    (opens : e.Opens u f) (new : f.size < config.pageSize) :
    ∃ m, start config = .ok m ∧ m.Mirrors e := by
  obtain ⟨⟨long, -⟩, -, -⟩ := Config.validate_eq_ok_iff.mp valid
  have none : e.pool.disk.blockCount = 0 := by
    rw [opens.blockCount_eq valid, Nat.div_eq_of_lt new]
  have total := opens.fresh.total_eq.trans none
  have sound : e.Sound := by
    apply opens.fresh.sound opens.counted opens.reliable opens.isOpen_eq opens.maxFileSize_eq
    intro q below
    omega
  have issued : Allocator.ofExtent 0 PageId.bound_pos config.pageSize config.maxFileSize =
      .ok e.allocator :=
    Allocator.ofExtent_eq_ok_iff.mpr
      ⟨long, opens.fresh.pageSize_eq, opens.fresh.maxPages_eq, total, opens.fresh.free_eq⟩
  refine ⟨⟨e.allocator, false, ∅, 0⟩, by simp [start, valid, issued], ?_⟩
  constructor
  case sound => exact sound
  case allocator_eq => rfl
  case closed_eq => exact opens.fresh.closed_eq.symm
  case pages_iff =>
    intro q block
    simp [opens.fresh.isLive_iff, none]
  case size_eq => simp [opens.fresh.free_eq, total]
  case hits_eq => exact opens.fresh.requests_eq.symm

end MemoryEngine

/-! ### What is told -/

/-- What an engine in memory tells of itself, next to what the one on a file tells. -/
structure StorageStats.Matches (memory file : StorageStats) : Prop where
  total_eq : memory.total = file.total
  free_eq : memory.free = file.free
  hits_eq : memory.hits = file.hits + file.misses
  resident_eq : memory.resident = memory.total - memory.free
  free_le : memory.free ≤ memory.total

/-- The same answers, except that what an engine tells of itself need only match. -/
def Outcome.Alike : Outcome EngineReply → Outcome EngineReply → Prop
  | .done (.stats memory), .done (.stats file) => memory.Matches file
  | memory, file => memory = file

/-- Both kinds of engine have the request. -/
def EngineRequest.Shared (request : EngineRequest) : Prop :=
  request = .stats ∨ ∃ asked : StoreRequest, request = asked.toEngine

theorem MemoryEngine.Mirrors.stats {config : Config} {m : MemoryEngine config} {e : Engine config}
    (mirrors : m.Mirrors e) : m.stats.Matches e.stats := by
  have size := mirrors.size_eq
  constructor
  case total_eq => exact congrArg Allocator.total mirrors.allocator_eq
  case free_eq => exact congrArg (·.free.size) mirrors.allocator_eq
  case hits_eq => exact mirrors.hits_eq
  case resident_eq => exact Nat.eq_sub_of_add_eq size
  case free_le => exact Nat.le.intro ((Nat.add_comm ..).trans size)

namespace EngineSession

variable {config : Config} {s t : EngineSession}

/-- A session with an engine in memory, and one with an engine on a file that is alike. -/
def Twins (config : Config) (s t : EngineSession) : Prop :=
  ∃ (m : MemoryEngine config) (e : Engine config),
    s.current = some (.memory config m) ∧ t.Runs e ∧ m.Mirrors e

/-- No answer to a request for pages tells of the engine itself. -/
private theorem alike_of_answers {e f : Engine config} {request : StoreRequest}
    {outcome : Outcome EngineReply} (answers : e.Answers request outcome f) :
    outcome.Alike outcome := by
  cases answers <;> rfl

theorem Twins.step (spans : config.Spans) (twins : Twins config s t) {request : EngineRequest}
    (shared : request.Shared) :
    (s.step request).1.Alike (t.step request).1 ∧
      Twins config (s.step request).2 (t.step request).2 := by
  obtain ⟨m, e, current, runs, mirrors⟩ := twins
  rcases shared with rfl | ⟨asked, rfl⟩
  · -- What an engine tells of itself changes nothing.
    have told : s.step .stats = (.done (.stats m.stats), { s with current := some (.memory config m) }) := by
      rw [EngineSession.step, current]
      rfl
    have counted : t.step .stats = (.done (.stats e.stats), { t with
        tree := GuardedEngine.settle ⟨e, []⟩ t.tree t.dataPath
        current := some (.file config ⟨e, []⟩) }) := by
      rw [EngineSession.step, runs.current]
      simp only [runs.refresh_eq]
      rfl
    rw [told, counted]
    exact ⟨mirrors.stats, m, e, rfl, runs.settled e, mirrors⟩
  · have answers := Engine.step_answers mirrors.sound spans asked
    obtain ⟨same, still⟩ := mirrors.step_of_answers answers
    obtain ⟨answered, left⟩ := runs.ask_eq asked
    have asking : s.step asked.toEngine = ((m.step asked.toEngine).1,
        { s with current := some (.memory config (m.step asked.toEngine).2) }) := by
      rw [EngineSession.step, current]
    have told : (t.step asked.toEngine).1 = (e.step asked).1 := answered
    rw [asking, same, told]
    exact ⟨alike_of_answers answers, _, _, rfl, left, still⟩

/-- The engine in memory and the one on a new file answer alike, whatever is asked, and keep telling
the same of their pages. The limit of a file is a 64-bit number. -/
theorem memory_alike {c : Config} {tree other : FileTree} {file : EngineSession}
    (limit : c.maxFileSize < 0x10000000000000000) (new : (tree.found c).size = 0)
    (opened : start ⟨.file, tree, c, none⟩ = (.done (), file)) :
    ∃ memory, start ⟨.memory, other, c, none⟩ = (.done (), memory) ∧
      ∀ requests : List EngineRequest, (∀ request ∈ requests, request.Shared) →
        List.Forall₂ Outcome.Alike (Run.answers step memory requests)
          (Run.answers step file requests) ∧
        ∃ m f, (Run.after step memory requests).current.map LiveEngine.stats = some m ∧
          (Run.after step file requests).current.map LiveEngine.stats = some f ∧ m.Matches f := by
  obtain ⟨valid, e, runs, opens⟩ := runs_of_start rfl opened
  have spans : c.Spans := Config.spans_of_maxFileSize limit
  obtain ⟨⟨long, -⟩, -, -⟩ := Config.validate_eq_ok_iff.mp valid
  obtain ⟨m, started, mirrors⟩ := MemoryEngine.start_mirrors valid opens (by rw [new]; exact long)
  have begun : start ⟨.memory, other, c, none⟩ =
      (.done (), ⟨.memory, other, c, some (.memory c m)⟩) := by
    simp [start, started]
  refine ⟨_, begun, ?_⟩
  intro requests shared
  have twins : Twins c ⟨.memory, other, c, some (.memory c m)⟩ file := ⟨m, e, rfl, runs, mirrors⟩
  have steps : ∀ (s t : EngineSession) (request : EngineRequest), request.Shared → Twins c s t →
      (s.step request).1.Alike (t.step request).1 ∧ Twins c (s.step request).2 (t.step request).2 :=
    fun s t request shared twins => twins.step spans shared
  obtain ⟨alike, m', e', current, runs', mirrors'⟩ := Run.related_run steps twins shared
  refine ⟨alike, m'.stats, e'.stats, ?_, ?_, mirrors'.stats⟩
  · rw [current]
    rfl
  · rw [runs'.current]
    rfl

/-- Two engines with room for two pages, each of which starts with nothing. -/
theorem memory_alike_empty :
    ∃ memory file, start ⟨.memory, .empty, ⟨"", 512, 1, 1024⟩, none⟩ = (.done (), memory) ∧
      start ⟨.file, .empty, ⟨"", 512, 1, 1024⟩, none⟩ = (.done (), file) ∧
      List.Forall₂ Outcome.Alike (Run.answers step memory [.allocate, .allocate, .allocate, .stats])
        (Run.answers step file [.allocate, .allocate, .allocate, .stats]) := by
  let c : Config := ⟨"", 512, 1, 1024⟩
  have valid : c.validate = .ok () := Config.validate_eq_ok_iff.mpr (by decide)
  obtain ⟨e, made⟩ := FileTree.start_empty rfl valid
  have opened : start ⟨.file, .empty, c, none⟩ =
      (.done (), ⟨.file, .bare .empty, c, some (.file c ⟨e, []⟩)⟩) := by
    simp [start, made]
  have new : (FileTree.empty.found c).size = 0 := by
    rw [FileTree.found_empty rfl]
    rfl
  obtain ⟨memory, started, alike⟩ := memory_alike (by decide) new opened
  have allocate : EngineRequest.Shared .allocate := .inr ⟨.allocate, rfl⟩
  have shared : ∀ request ∈ [.allocate, .allocate, .allocate, .stats], EngineRequest.Shared request := by
    intro request listed
    simp only [List.mem_cons, List.not_mem_nil, or_false] at listed
    rcases listed with rfl | rfl | rfl | rfl
    · exact allocate
    · exact allocate
    · exact allocate
    · exact .inl rfl
  obtain ⟨answers, -⟩ := alike _ shared
  exact ⟨memory, _, started, opened, answers⟩

end EngineSession

end PagedStorage
