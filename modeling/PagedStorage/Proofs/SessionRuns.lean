import PagedStorage.Proofs.Opening
import PagedStorage.Proofs.PageStore
import PagedStorage.Session.Engines

/-!
# Sessions with an engine on a file

As long as nobody else touches the file, a session in which no guard is held does what its engine
does, and the file in the tree is the one the engine left (`EngineSession.Runs`). So from the moment an
engine has been opened, all that is asked is answered as by the plain store of the pages that were in
the file.
-/

namespace PagedStorage

namespace Engine.Opens

variable {config : Config} {e : Engine config} {u : FileTree} {f : File}

theorem sound (opens : e.Opens u f) (small : config.pageSize < 0x100000000) : e.Sound := by
  apply opens.fresh.sound opens.counted opens.reliable opens.isOpen_eq opens.maxFileSize_eq
  intro q below
  have := e.pool.disk.blockCount_lt
  exact .of_small (by omega) small

theorem blockCount_eq (opens : e.Opens u f) (valid : config.validate = .ok ()) :
    e.pool.disk.blockCount = f.size / config.pageSize := by
  obtain ⟨⟨long, -⟩, -, -⟩ := Config.validate_eq_ok_iff.mp valid
  rw [opens.counted long, opens.file_eq]

/-- An engine that was just opened is the store of the pages in its file. -/
theorem refines (opens : e.Opens u f) (valid : config.validate = .ok ())
    (small : config.pageSize < 0x100000000) :
    ∃ numbered, e.Refines (PageStore.ofFile config f numbered) := by
  have counted := opens.blockCount_eq valid
  have numbered : f.size / config.pageSize < 0x100000000 := counted ▸ e.pool.disk.blockCount_lt
  use numbered
  constructor
  case sound => exact opens.sound small
  case closed_eq => exact opens.fresh.closed_eq.symm
  case total_eq => exact counted.symm.trans opens.fresh.total_eq.symm
  case mem_free_iff =>
    intro q
    simp [PageStore.ofFile, opens.fresh.free_eq]
  case contents_eq =>
    intro q live
    rw [opens.fresh.bytesOf, Disk.blockAt, opens.file_eq]
    rfl

end Engine.Opens

namespace EngineSession

variable {config : Config} {e : Engine config} {s t : EngineSession}

/-- Makes a request that every store answers. -/
def ask (s : EngineSession) (request : StoreRequest) : Outcome EngineReply × EngineSession :=
  s.step request.toEngine

/-- The session is that of an engine on a file which nobody else has touched. -/
structure Runs (s : EngineSession) (e : Engine config) : Prop where
  backing : s.backing = .file
  current : s.current = some (.file config ⟨e, []⟩)
  config_eq : s.config = config
  houses : s.tree.Houses config e.pool.disk.file

namespace Runs

theorem refresh_eq (runs : s.Runs e) :
    GuardedEngine.refresh ⟨e, []⟩ s.tree s.dataPath = ⟨e, []⟩ := by
  simp [GuardedEngine.refresh, GuardedEngine.held, GuardedPool.refresh, GuardedEngine.withHeld,
    dataPath, runs.config_eq, runs.houses.file]

/-- What the engine leaves in its file is found there. -/
theorem settled (runs : s.Runs e) (f : Engine config) :
    Runs { s with
      tree := GuardedEngine.settle ⟨f, []⟩ s.tree s.dataPath
      current := some (.file config ⟨f, []⟩) } f := by
  refine ⟨runs.backing, rfl, runs.config_eq, ?_⟩
  rw [dataPath, runs.config_eq]
  exact runs.houses.setFile f.pool.disk.file

theorem ask_eq (runs : s.Runs e) (request : StoreRequest) :
    (s.ask request).1 = (e.step request).1 ∧ (s.ask request).2.Runs (e.step request).2 := by
  -- No guard is held, so the file is read before the request and written back after it.
  rw [ask, step, runs.current]
  simp only [runs.refresh_eq, Engine.ask_toEngine, true_and]
  exact runs.settled (e.step request).2

theorem after (runs : s.Runs e) (requests : List StoreRequest) :
    (Run.after ask s requests).Runs (Run.after Engine.step e requests) := by
  have steps : ∀ (s : EngineSession) (e : Engine config) (request : StoreRequest), s.Runs e →
      (s.ask request).2.Runs (e.step request).2 := fun s e request runs => (runs.ask_eq request).2
  exact Run.related_after steps runs requests

end Runs

/-- What an opened session is, and on which file. -/
theorem runs_of_start (backing : s.backing = .file) (started : s.start = (.done (), t)) :
    s.config.validate = .ok () ∧
      ∃ e : Engine s.config, t.Runs e ∧ e.Opens t.tree (s.tree.found s.config) := by
  unfold start at started
  rw [backing] at started
  simp only at started
  split at started
  · cases started
  · next e u opened =>
    obtain ⟨valid, opens⟩ := Engine.opens_of_start opened
    cases started
    have houses := opens.houses
    rw [← opens.file_eq] at houses
    exact ⟨valid, e, ⟨rfl, rfl, rfl, houses⟩, opens⟩

/-- A file that is in place can be opened, and is opened as it is. -/
theorem start_of_houses {f : File} (backing : s.backing = .file) (valid : s.config.validate = .ok ())
    (houses : s.tree.Houses s.config f) (numbered : f.size / s.config.pageSize < 0x100000000) :
    ∃ (t : EngineSession) (e : Engine s.config), s.start = (.done (), t) ∧ t.Runs e ∧
      e.Opens t.tree f := by
  obtain ⟨e, opened, opens⟩ := Engine.start_of_houses valid houses numbered
  have started : s.start = (.done (), { s with current := some (.file s.config ⟨e, []⟩) }) := by
    simp [start, backing, opened]
  rw [← opens.file_eq] at houses
  exact ⟨_, e, started, ⟨backing, rfl, rfl, houses⟩, opens⟩

/-! ### Answers -/

/-- A session answers as the plain store of the pages that were in the file, whatever is asked. -/
theorem answers_eq_pageStore (backing : s.backing = .file)
    (small : s.config.pageSize < 0x100000000) (started : s.start = (.done (), t)) :
    ∃ numbered : (s.tree.found s.config).size / s.config.pageSize < 0x100000000,
      ∀ requests : List StoreRequest, Run.answers ask t requests =
        Run.answers PageStore.step (.ofFile s.config (s.tree.found s.config) numbered) requests := by
  obtain ⟨valid, e, runs, opens⟩ := runs_of_start backing started
  obtain ⟨numbered, refines⟩ := opens.refines valid small
  -- A session and a store are alike if the session's engine refines the store.
  let alike (session : EngineSession) (store : PageStore s.config) : Prop :=
    ∃ e : Engine s.config, session.Runs e ∧ e.Refines store
  have steps : ∀ session store request, alike session store →
      (session.ask request).1 = (store.step request).1 ∧
        alike (session.ask request).2 (store.step request).2 := by
    rintro session store request ⟨e, runs, refines⟩
    obtain ⟨same, still⟩ := runs.ask_eq request
    obtain ⟨answered, refined⟩ := refines.step_refines small request
    exact ⟨same.trans answered, _, still, refined⟩
  exact ⟨numbered, Run.answers_eq_of_related steps ⟨e, runs, refines⟩⟩

end EngineSession

/-! ### A data file in the root -/

private theorem splitOnAux_skip {text : String} {i : String.Pos.Raw} (inside : i.atEnd text = false)
    (other : (i.get text == '/') = false) :
    text.splitOnAux "/" 0 i 0 [] = text.splitOnAux "/" 0 (i.next text) 0 [] := by
  have slash : String.Pos.Raw.get "/" 0 = '/' := by decide
  rw [String.splitOnAux, inside, if_neg nofun, slash, other, if_neg nofun]
  rfl

theorem Path.parse_dataFileName :
    Path.parse Config.dataFileName = ⟨[.into "pages.db"], false, none⟩ := by
  have flawless : Path.flaw? "pages.db" = none := by
    rw [Path.flaw?, String.contains_char_eq]
    decide
  have name : "pages.db".splitOn "/" = ["pages.db"] := by
    rw [String.splitOn, if_neg (by decide)]
    simp (disch := decide) only [splitOnAux_skip]
    rw [String.splitOnAux, if_pos (by decide)]
    decide
  rw [Config.dataFileName, Path.parse, name, flawless]
  decide

namespace FileTree

/-- A tree in which there is only a data file. -/
def bare (f : File) : FileTree := ⟨[([Config.dataFileName], .file f)]⟩

private theorem parse_root : Path.parse "" = ⟨[], true, none⟩ := by
  have flawless : Path.flaw? "" = none := by
    rw [Path.flaw?, String.contains_char_eq]
    decide
  have name : "".splitOn "/" = [""] := by
    rw [String.splitOn, if_neg (by decide), String.splitOnAux, if_pos (by decide)]
    decide
  rw [Path.parse, name, flawless]
  decide

private theorem dataFilePath_root {c : Config} (root : c.dataDirectory = "") :
    c.dataFilePath = Config.dataFileName := by
  rw [Config.dataFilePath, if_pos (.inl root), root]
  rfl

theorem bare_houses (f : File) {c : Config} (root : c.dataDirectory = "") :
    (bare f).Houses c f := by
  constructor
  · rw [root, parse_root]
    rfl
  · rw [dataFilePath_root root, Path.parse_dataFileName]
    rfl

/-- Where there is nothing, the data file is made in the root. -/
theorem start_empty_eq {c : Config} {e : Engine c} (root : c.dataDirectory = "")
    (valid : c.validate = .ok ()) (opened : Engine.ofDisk (.ofNew c.maxFileSize) = .ok e) :
    Engine.start c .empty = .ok e (.bare .empty) := by
  have directory : FileTree.empty.isDirectory (Path.parse c.dataDirectory) = true := by
    rw [root, parse_root]
    rfl
  have absent : FileTree.empty.holds (Path.parse c.dataFilePath) = false := by
    rw [dataFilePath_root root, Path.parse_dataFileName]
    rfl
  have made : FileTree.empty.createFile (Path.parse c.dataFilePath) = .ok (.bare .empty) := by
    rw [dataFilePath_root root, Path.parse_dataFileName]
    rfl
  exact Engine.start_of_absent valid directory absent made opened

theorem start_empty {c : Config} (root : c.dataDirectory = "") (valid : c.validate = .ok ()) :
    ∃ e, Engine.start c .empty = .ok e (.bare .empty) := by
  obtain ⟨⟨long, -⟩, some, -⟩ := Config.validate_eq_ok_iff.mp valid
  obtain ⟨e, opened, -⟩ := Engine.ofDisk_fresh (.ofNew c.maxFileSize) long some
  exact ⟨e, start_empty_eq root valid opened⟩

theorem found_empty {c : Config} (root : c.dataDirectory = "") : empty.found c = .empty := by
  unfold found
  rw [root, parse_root, dataFilePath_root root, Path.parse_dataFileName]
  rfl

end FileTree

namespace EngineSession

/-- A file of two pages and a half, kept by an engine with one frame. -/
theorem answers_eq_pageStore_bare :
    ∃ (t : EngineSession) (file : File) (numbered : file.size / 512 < 0x100000000),
      file = .hole 1280 ∧
      start ⟨.file, .bare (.hole 1280), ⟨"", 512, 1, 1024⟩, none⟩ = (.done (), t) ∧
      ∀ requests : List StoreRequest, Run.answers ask t requests =
        Run.answers PageStore.step (.ofFile ⟨"", 512, 1, 1024⟩ file numbered) requests := by
  let s : EngineSession := ⟨.file, .bare (.hole 1280), ⟨"", 512, 1, 1024⟩, none⟩
  have houses : s.tree.Houses s.config (.hole 1280) := FileTree.bare_houses _ rfl
  have valid : s.config.validate = .ok () := Config.validate_eq_ok_iff.mpr (by decide)
  obtain ⟨t, e, started, -⟩ := start_of_houses rfl valid houses (by decide)
  obtain ⟨numbered, same⟩ := answers_eq_pageStore rfl (by decide) started
  exact ⟨_, _, numbered, houses.found_eq, started, same⟩

end EngineSession

end PagedStorage
