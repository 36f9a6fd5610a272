import PagedStorage.Proofs.EngineRuns

/-!
# Opening a data file

Once an engine has been opened, its directory and its data file are there, and nothing that is done
to the contents of the file takes them away (`FileTree.Houses`). So an engine can be opened again, and
finds the file as it was left.
-/

namespace PagedStorage

/-! ### What stays in a tree -/

namespace FileTree

variable {t u : FileTree} {path other : Path} {place : Location}

theorem find_eq_ok_directory_iff :
    t.find path = .ok (place, .directory) ↔
      t.place path = .ok place ∧ t.look place = .ok (some .directory) := by
  cases reached : t.place path with
  | error e => simp [find, reached, bind, Except.bind]
  | ok there =>
    have settled : t.find path = .ok (place, .directory) ↔
        there = place ∧ t.look there = .ok (some .directory) := by
      cases found : t.look there with
      | error e => simp [find, reached, found, bind, Except.bind]
      | ok node =>
        cases node with
        | none => simp [find, reached, found, bind, Except.bind, throw, throwThe, MonadExcept.throw]
        | some node =>
          cases node <;> cases slashed : path.slash <;>
            simp [find, reached, found, slashed, bind, Except.bind, throw, throwThe,
              MonadExcept.throw, pure, Except.pure]
    simp only [settled, Except.ok.injEq]
    constructor
    · rintro ⟨rfl, there⟩
      exact ⟨rfl, there⟩
    · rintro ⟨rfl, there⟩
      exact ⟨rfl, there⟩

theorem isDirectory_iff :
    t.isDirectory path = true ↔
      ∃ place, t.place path = .ok place ∧ t.look place = .ok (some .directory) := by
  simp only [← find_eq_ok_directory_iff]
  unfold isDirectory
  split
  · next place found => simp [found]
  · next other =>
    -- Whatever else is found, or nothing, is no directory.
    simp only [Bool.false_eq_true, false_iff, not_exists]
    exact fun place => other place

/-- A place where nothing stands is below the root. -/
private theorem below_of_vacant (vacant : t.look place = .ok none) : place ≠ [] := by
  rintro rfl
  simp [look] at vacant

/-- What is put where nothing stood is in the way of no path. -/
private theorem walk_put_vacant (vacant : t.look place = .ok none) (node : Node)
    {start there : Location} {steps : List Path.Step} (walked : t.walk start steps = .ok there) :
    (t.put place node).walk start steps = .ok there := by
  -- A walk goes from directory to directory, so it never stood at the place.
  induction steps generalizing start with
  | nil => exact walked
  | cons step rest ih =>
    cases stands : t.look start with
    | error e => simp [walk, stands] at walked
    | ok found =>
      rcases found with _ | _ | contents
      · simp [walk, stands] at walked
      · have apart : start ≠ place := by
          rintro rfl
          simp [stands] at vacant
        simp only [walk, stands] at walked
        simp only [walk, look_put_of_below vacant (below_of_vacant vacant), apart, if_false, stands]
        exact ih walked
      · simp [walk, stands] at walked

private theorem place_put_vacant (vacant : t.look place = .ok none) (node : Node) {there : Location}
    (leads : t.place path = .ok there) : (t.put place node).place path = .ok there := by
  unfold FileTree.place at *
  split at leads
  · cases leads
  · exact walk_put_vacant vacant node leads

private theorem isDirectory_put_vacant (vacant : t.look place = .ok none) (node : Node)
    (there : t.isDirectory path = true) : (t.put place node).isDirectory path = true := by
  obtain ⟨other, leads, stands⟩ := isDirectory_iff.mp there
  have apart : other ≠ place := by
    rintro rfl
    simp [stands] at vacant
  have still : (t.put place node).look other = .ok (some .directory) := by
    rw [look_put_of_below vacant (below_of_vacant vacant), if_neg apart, stands]
  exact isDirectory_iff.mpr ⟨other, place_put_vacant vacant node leads, still⟩

theorem isDirectory_setFile (contents : File) (there : t.isDirectory path = true) :
    (t.setFile other contents).isDirectory path = true := by
  cases held : t.file other with
  | error e => rwa [setFile_of_not_file held]
  | ok f =>
    obtain ⟨place, found⟩ := file_eq_ok_iff.mp held
    obtain ⟨standing, leads, stands⟩ := isDirectory_iff.mp there
    -- Where the file stands there is no directory.
    have stood := (find_eq_ok_file_iff.mp found).2.1
    have apart : standing ≠ place := by
      rintro rfl
      simp [stands] at stood
    have still : (t.setFile other contents).look standing = .ok (some .directory) := by
      rw [setFile_of_find found, look_put stood, if_neg apart, stands]
    exact isDirectory_iff.mpr ⟨standing, (place_setFile ..).trans leads, still⟩

theorem createFile_eq_ok_iff :
    t.createFile path = .ok u ↔
      ∃ place, t.place path = .ok place ∧ t.look place = .ok none ∧ path.slash = false ∧
        u = t.put place (.file .empty) := by
  cases reached : t.place path with
  | error e => simp [createFile, reached, bind, Except.bind]
  | ok place =>
    cases slashed : path.slash
    · cases found : t.look place with
      | error e =>
        simp [createFile, reached, found, slashed, bind, Except.bind]
      | ok node =>
        cases node with
        | none =>
          simp [createFile, reached, found, slashed, bind, Except.bind, pure, Except.pure,
            @eq_comm _ u]
        | some node =>
          simp [createFile, reached, found, slashed, bind, Except.bind, throw, throwThe,
            MonadExcept.throw]
    · simp [createFile, reached, slashed, bind, Except.bind, throw, throwThe, MonadExcept.throw]

theorem makeDirectory_eq_ok_iff :
    t.makeDirectory path = .ok u ↔
      ∃ place, t.place path = .ok place ∧ t.look place = .ok none ∧ u = t.put place .directory := by
  cases reached : t.place path with
  | error e => simp [makeDirectory, reached, bind, Except.bind]
  | ok place =>
    cases found : t.look place with
    | error e => simp [makeDirectory, reached, found, bind, Except.bind]
    | ok node =>
      cases node with
      | none =>
        simp [makeDirectory, reached, found, bind, Except.bind, pure, Except.pure, @eq_comm _ u]
      | some node =>
        simp [makeDirectory, reached, found, bind, Except.bind, throw, throwThe, MonadExcept.throw]

/-- A file that was made is there, and it is empty. -/
theorem file_createFile (made : t.createFile path = .ok u) : u.file path = .ok .empty := by
  obtain ⟨place, leads, vacant, slashless, rfl⟩ := createFile_eq_ok_iff.mp made
  have reached := place_put_vacant vacant (.file .empty) leads
  have stands : (t.put place (.file .empty)).look place = .ok (some (.file .empty)) := by
    rw [look_put_of_below vacant (below_of_vacant vacant), if_pos rfl]
  exact file_eq_ok_iff.mpr ⟨place, find_eq_ok_file_iff.mpr ⟨reached, stands, slashless⟩⟩

theorem isDirectory_createFile (made : t.createFile other = .ok u)
    (there : t.isDirectory path = true) : u.isDirectory path = true := by
  obtain ⟨place, -, vacant, -, rfl⟩ := createFile_eq_ok_iff.mp made
  exact isDirectory_put_vacant vacant _ there

/-! ### Making directories -/

theorem ensureDirectory_of_isDirectory (there : t.isDirectory path = true) :
    t.ensureDirectory path = .ok t := by
  unfold ensureDirectory
  split
  · next made =>
    -- Nothing can be made where a directory stands.
    obtain ⟨place, leads, stands⟩ := isDirectory_iff.mp there
    obtain ⟨other, leads', vacant, -⟩ := makeDirectory_eq_ok_iff.mp made
    rw [leads] at leads'
    cases leads'
    simp [stands] at vacant
  · exact if_pos there

theorem isDirectory_of_ensureDirectory (ensured : t.ensureDirectory path = .ok u) :
    u.isDirectory path = true := by
  unfold ensureDirectory at ensured
  split at ensured
  · next made =>
    cases ensured
    obtain ⟨place, leads, vacant, rfl⟩ := makeDirectory_eq_ok_iff.mp made
    have stands : (t.put place .directory).look place = .ok (some .directory) := by
      rw [look_put_of_below vacant (below_of_vacant vacant), if_pos rfl]
    exact isDirectory_iff.mpr ⟨place, place_put_vacant vacant _ leads, stands⟩
  · split at ensured
    · next there =>
      cases ensured
      exact there
    · cases ensured

theorem makeDirectories_of_isDirectory (there : t.isDirectory path = true) :
    t.makeDirectories path = (.ok (), t) := by
  rw [makeDirectories, ensureFirst, ensureDirectory_of_isDirectory there]

theorem isDirectory_of_makeDirectories (made : t.makeDirectories path = (.ok (), u)) :
    u.isDirectory path = true := by
  unfold makeDirectories ensureFirst at made
  split at made
  · next ensured =>
    cases made
    exact isDirectory_of_ensureDirectory ensured
  · -- A directory above was missing: after it was made, the last one is ensured once more.
    split at made
    · split at made
      · next ensured =>
        cases made
        exact isDirectory_of_ensureDirectory ensured
      · cases made
    · next refused => exact (refused _ made).elim
  · cases made

/-- The directory of an engine is there, and its data file has these contents. -/
structure Houses (t : FileTree) (c : Config) (f : File) : Prop where
  directory : t.isDirectory (Path.parse c.dataDirectory) = true
  file : t.file (Path.parse c.dataFilePath) = .ok f

theorem Houses.setFile {c : Config} {f : File} (houses : t.Houses c f) (g : File) :
    (t.setFile (Path.parse c.dataFilePath) g).Houses c g :=
  ⟨isDirectory_setFile g houses.directory, file_setFile houses.file houses.file rfl g⟩

/-- Of all options only the directory says where the data file is. -/
theorem Houses.of_directory {c d : Config} {f : File} (houses : t.Houses c f)
    (same : d.dataDirectory = c.dataDirectory) : t.Houses d f := by
  have path : d.dataFilePath = c.dataFilePath := by
    rw [Config.dataFilePath, Config.dataFilePath, same]
  constructor
  · rw [same]
    exact houses.directory
  · rw [path]
    exact houses.file

/-- The contents that an engine finds in its data file, once its directory has been made. -/
def found (t : FileTree) (c : Config) : File :=
  match (t.makeDirectories (Path.parse c.dataDirectory)).2.file (Path.parse c.dataFilePath) with
  | .ok f => f
  | .error _ => .empty

/-- A file that is in place is what is found. -/
theorem Houses.found_eq {c : Config} {f : File} (houses : t.Houses c f) : t.found c = f := by
  rw [found, makeDirectories_of_isDirectory houses.directory, houses.file]

end FileTree

theorem Config.validate_eq_ok_iff {c : Config} :
    c.validate = .ok () ↔ (0 < c.pageSize ∧ c.pageSize % sectorSize = 0) ∧ 0 < c.bufferSize ∧
      c.pageSize ≤ c.maxFileSize := by
  unfold Config.validate
  split
  · simp only [reduceCtorEq, false_iff]
    omega
  · split
    · simp only [reduceCtorEq, false_iff]
      omega
    · split
      · simp only [reduceCtorEq, false_iff]
        omega
      · simp only [true_iff]
        omega

/-! ### Engines -/

/-- A handle that was opened is one on the file that was there, or on a new one. -/
theorem Disk.openOrCreate_cases {pageSize maxFileSize : Nat} {d : Disk pageSize} {path : Path}
    {t u : FileTree} (opened : openOrCreate path maxFileSize t = .ok d u) :
    (d.Counted ∧ d.Reliable ∧ d.isOpen = true ∧ d.maxFileSize = maxFileSize) ∧
      (u = t ∧ t.file path = .ok d.file ∨
        t.holds path = false ∧ t.createFile path = .ok u ∧ d.file = .empty) := by
  cases held : t.holds path with
  | true =>
    -- Something stands there. It is opened, which succeeds for a file only.
    cases there : t.file path with
    | error e => simp [openOrCreate, held, openFile, there] at opened
    | ok f =>
      cases handle : (ofFile maxFileSize f : Except Failure (Disk pageSize)) with
      | error why => simp [openOrCreate, held, openFile, there, handle] at opened
      | ok disk =>
        simp only [openOrCreate, Action.run_bind, Action.run_get, held, if_true, openFile, there,
          handle, Action.run_pure, EStateM.Result.ok.injEq] at opened
        obtain ⟨rfl, rfl⟩ := opened
        obtain ⟨-, -, limit, isOpen, reliable, same⟩ := ofFile_eq_ok_iff.mp handle
        exact ⟨⟨counted_of_ofFile handle, reliable, isOpen, limit⟩,
          .inl ⟨rfl, congrArg Except.ok same.symm⟩⟩
  | false =>
    cases made : t.createFile path with
    | error e => simp [openOrCreate, held, create, made] at opened
    | ok v =>
      simp only [openOrCreate, Action.run_bind, Action.run_get, held, create, made,
        Bool.false_eq_true, if_false, Action.run_set, Action.run_pure,
        EStateM.Result.ok.injEq] at opened
      obtain ⟨rfl, rfl⟩ := opened
      exact ⟨⟨counted_ofNew maxFileSize, reliable_ofNew maxFileSize, rfl, rfl⟩,
        .inr ⟨rfl, rfl, rfl⟩⟩

namespace Engine

variable {config : Config} {t u : FileTree} {f : File} {e : Engine config}

/-- The engine was just opened, and the file that it found is in the tree. -/
structure Opens (e : Engine config) (u : FileTree) (f : File) : Prop where
  fresh : e.Fresh e.pool.disk
  file_eq : e.pool.disk.file = f
  counted : e.pool.disk.Counted
  reliable : e.pool.disk.Reliable
  isOpen_eq : e.pool.disk.isOpen = true
  maxFileSize_eq : e.pool.disk.maxFileSize = config.maxFileSize
  houses : u.Houses config f

/-- How an engine is opened on what its path leads to. -/
private theorem opens_of_disk {disk : Disk config.pageSize} (valid : config.validate = .ok ())
    (counted : disk.Counted) (reliable : disk.Reliable) (isOpen_eq : disk.isOpen = true)
    (maxFileSize_eq : disk.maxFileSize = config.maxFileSize) (houses : u.Houses config disk.file) :
    ∃ e, ofDisk disk = .ok e ∧ e.Opens u disk.file := by
  obtain ⟨⟨long, -⟩, some, -⟩ := Config.validate_eq_ok_iff.mp valid
  obtain ⟨e, made, fresh⟩ := ofDisk_fresh disk long some
  have same := fresh.disk_eq
  subst same
  exact ⟨e, made, fresh, rfl, counted, reliable, isOpen_eq, maxFileSize_eq, houses⟩

/-- A file that is in place is opened again as it is. -/
theorem start_of_houses (valid : config.validate = .ok ()) (houses : t.Houses config f)
    (numbered : f.size / config.pageSize < 0x100000000) :
    ∃ e, start config t = .ok e t ∧ e.Opens t f := by
  obtain ⟨⟨long, -⟩, -, -⟩ := Config.validate_eq_ok_iff.mp valid
  let disk : Disk config.pageSize :=
    ⟨config.maxFileSize, f.size / config.pageSize, true, f, .reliable, numbered⟩
  have opened : Disk.ofFile config.maxFileSize f = .ok disk :=
    Disk.ofFile_eq_ok_iff.mpr ⟨long, rfl, rfl, rfl, rfl, rfl⟩
  have kept : t.Houses config disk.file := houses
  obtain ⟨e, made, opens⟩ := opens_of_disk valid (Disk.counted_of_ofFile opened)
    (Disk.reliable_of_ofFile opened) rfl rfl kept
  refine ⟨e, ?_, opens⟩
  have held : t.holds (Path.parse config.dataFilePath) = true := by
    obtain ⟨place, leads⟩ := FileTree.file_eq_ok_iff.mp houses.file
    simp [FileTree.holds, leads]
  simp [start, valid, FileTree.makeDirectories_of_isDirectory houses.directory, Disk.openOrCreate,
    held, Disk.openFile, houses.file, opened, made]

/-- A file that is missing is made, and is empty. -/
theorem start_of_absent (valid : config.validate = .ok ())
    (directory : t.isDirectory (Path.parse config.dataDirectory) = true)
    (absent : t.holds (Path.parse config.dataFilePath) = false)
    (made : t.createFile (Path.parse config.dataFilePath) = .ok u)
    (opened : ofDisk (.ofNew config.maxFileSize) = .ok e) : start config t = .ok e u := by
  simp [start, valid, FileTree.makeDirectories_of_isDirectory directory, Disk.openOrCreate, absent,
    Disk.create, made, opened]

/-- What it means that an engine could be opened. -/
theorem opens_of_start (started : start config t = .ok e u) :
    config.validate = .ok () ∧ e.Opens u (t.found config) := by
  cases valid : config.validate with
  | error flaw => simp [start, valid] at started
  | ok =>
    unfold FileTree.found
    generalize made : t.makeDirectories (Path.parse config.dataDirectory) = making
    obtain ⟨refused | _, tree⟩ := making
    · simp [start, valid, made] at started
    · -- The directory is there before the file is looked for.
      have directory := FileTree.isDirectory_of_makeDirectories made
      cases opened : (Disk.openOrCreate (Path.parse config.dataFilePath) config.maxFileSize tree :
        EStateM.Result Failure FileTree (Disk config.pageSize)) with
      | error why v => simp [start, valid, made, opened] at started
      | ok disk v =>
        obtain ⟨⟨counted, reliable, isOpen, limit⟩, found⟩ := Disk.openOrCreate_cases opened
        have houses : v.Houses config disk.file := by
          rcases found with ⟨rfl, there⟩ | ⟨-, created, empty⟩
          · exact ⟨directory, there⟩
          · have file := FileTree.file_createFile created
            rw [← empty] at file
            exact ⟨FileTree.isDirectory_createFile created directory, file⟩
        obtain ⟨fresh, made', opens⟩ := opens_of_disk valid counted reliable isOpen limit houses
        simp [start, valid, made, opened, made'] at started
        obtain ⟨rfl, rfl⟩ := started
        refine ⟨rfl, ?_⟩
        rcases found with ⟨rfl, there⟩ | ⟨absent, created, empty⟩
        · simpa only [there] using opens
        · -- What is held by no path is not found as a file either.
          cases there : tree.file (Path.parse config.dataFilePath) with
          | error e => simpa only [there, empty] using opens
          | ok f =>
            obtain ⟨place, leads⟩ := FileTree.file_eq_ok_iff.mp there
            simp [FileTree.holds, leads] at absent

end Engine

end PagedStorage
