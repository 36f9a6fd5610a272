import PagedStorage.Error
import PagedStorage.File
import PagedStorage.Path

/-!
# Directories and files

The store lives in one directory tree. What matters of a tree is what it refuses: a path through a
file, a path through nothing, a directory where a file is wanted and a file that is there already.
The root is always a directory and is never listed.

Nothing is ever removed or moved, so a path keeps leading to the file that it once led to. By
`place_setFile` new contents lead no path elsewhere, by `file_setFile` they are read back by every
path to the file, and by `file_setFile_of_ne` they are those of no other.
-/

namespace PagedStorage

inductive Node where
  | directory
  | file (contents : File)

structure FileTree where
  nodes : List (Location × Node)

namespace FileTree

def empty : FileTree := ⟨[]⟩

/-- What stands at a place whose parents are known to be directories. A name of more than 255 bytes
is not looked for. -/
def look (t : FileTree) (place : Location) : Except DeviceError (Option Node) :=
  match place.getLast? with
  | none => .ok (some .directory)
  | some name => if 255 < name.utf8ByteSize then .error .nameTooLong else .ok (t.nodes.lookup place)

/-- Puts a node at a place instead of what stood there. -/
def put (t : FileTree) (place : Location) (node : Node) : FileTree :=
  ⟨(place, node) :: t.nodes.filter fun entry => entry.1 ≠ place⟩

/-! ### Where a path leads -/

/-- Takes steps from a place. A step can only be taken from a directory; nothing at the place where
they end is no error yet. -/
def walk (t : FileTree) (place : Location) : List Path.Step → Except DeviceError Location
  | [] => .ok place
  | step :: rest =>
    match t.look place with
    | .ok (some .directory) => t.walk (step.goFrom place) rest
    | .ok (some (.file _)) => .error .notADirectory
    | .ok none => .error .notFound
    | .error e => .error e

/-- The place that a path names, where anything or nothing may stand. -/
def place (t : FileTree) (path : Path) : Except DeviceError Location :=
  match path.flaw with
  | some e => .error e
  | none => t.walk [] path.steps

/-- What a path leads to, and where. No file stands in front of a slash. -/
def find (t : FileTree) (path : Path) : Except DeviceError (Location × Node) := do
  let place ← t.place path
  match ← t.look place with
  | some (.file contents) =>
    if path.slash then throw .notADirectory
    return (place, .file contents)
  | some .directory => return (place, .directory)
  | none => throw .notFound

/-- Nothing that cannot be reached is there. -/
def holds (t : FileTree) (path : Path) : Bool :=
  match t.find path with
  | .ok _ => true
  | .error _ => false

def isDirectory (t : FileTree) (path : Path) : Bool :=
  match t.find path with
  | .ok (_, .directory) => true
  | _ => false

/-! ### Files -/

/-- The file at a path. -/
def file (t : FileTree) (path : Path) : Except DeviceError File :=
  match t.find path with
  | .ok (_, .file contents) => .ok contents
  | .ok (_, .directory) => .error .isADirectory
  | .error e => .error e

/-- The tree after the file at a path was given other contents. -/
def setFile (t : FileTree) (path : Path) (contents : File) : FileTree :=
  match t.find path with
  | .ok (place, .file _) => t.put place (.file contents)
  | _ => t

/-- A new, empty file in a directory that exists. -/
def createFile (t : FileTree) (path : Path) : Except DeviceError FileTree := do
  let place ← t.place path
  if path.slash then throw .isADirectory
  match ← t.look place with
  | some _ => throw .alreadyExists
  | none => return t.put place (.file .empty)

/-! ### Directories -/

/-- A new directory in a directory that exists. -/
def makeDirectory (t : FileTree) (path : Path) : Except DeviceError FileTree := do
  let place ← t.place path
  match ← t.look place with
  | some _ => throw .alreadyExists
  | none => return t.put place .directory

/-- Makes a directory unless it is there. -/
def ensureDirectory (t : FileTree) (path : Path) : Except DeviceError FileTree :=
  match t.makeDirectory path with
  | .ok t => .ok t
  | .error e => if t.isDirectory path then .ok t else .error e

/-- Ensures the first of some directories. Where something on the way to it is missing, ensures the
others before it, its parents. What was made by then stays when a directory is refused. -/
def ensureFirst (t : FileTree) : List Path → Except DeviceError Unit × FileTree
  | [] => (.ok (), t)
  | path :: parents =>
    match t.ensureDirectory path with
    | .ok t => (.ok (), t)
    | .error .notFound =>
      -- Only what is missing on the way can be helped by making the parents.
      match t.ensureFirst parents with
      | (.ok (), t) =>
        match t.ensureDirectory path with
        | .ok t => (.ok (), t)
        | .error e => (.error e, t)
      | refused => refused
    | .error e => (.error e, t)

/-- Makes a directory together with its parents, unless it is there. -/
def makeDirectories (t : FileTree) (path : Path) : Except DeviceError Unit × FileTree :=
  t.ensureFirst (path :: path.parents)

/-- Makes a file unless it is there. -/
def ensureFile (t : FileTree) (path : Path) : Except DeviceError FileTree :=
  if t.holds path then (t.file path).map fun _ => t else t.createFile path

/-- Puts a file in place together with its parents. A file that was there is replaced. -/
def plant (t : FileTree) (path : Path) (contents : File) : Except DeviceError Unit × FileTree :=
  let (made, t) := if path.flaw.isNone then t.ensureFirst path.parents else (.ok (), t)
  match made, t.ensureFile path with
  | .ok (), .ok t => (.ok (), t.setFile path contents)
  | .ok (), .error e => (.error e, t)
  | .error e, _ => (.error e, t)

/-! ### New contents -/

/-- A node that is put below the root is what stands there. -/
theorem look_put_of_below {t : FileTree} {place : Location} {found : Option Node}
    (h : t.look place = .ok found) (below : place ≠ []) (node : Node) (other : Location) :
    (t.put place node).look other = if other = place then .ok (some node) else t.look other := by
  by_cases same : other = place
  · subst same
    cases last : other.getLast? with
    | none => exact absurd (List.getLast?_eq_none_iff.mp last) below
    | some name =>
      by_cases long : 255 < name.utf8ByteSize
      · simp [look, last, long] at h
      · simp [look, last, long, put]
  · -- Taking the old entry of the place out leaves the entries of other places.
    have other_kept : ∀ nodes : List (Location × Node),
        (nodes.filter fun entry => entry.1 ≠ place).lookup other = nodes.lookup other := by
      intro nodes
      induction nodes with
      | nil => rfl
      | cons entry rest ih =>
        obtain ⟨key, value⟩ := entry
        by_cases hit : key = place
        · subst hit
          simpa [List.lookup_cons, beq_eq_false_iff_ne.mpr same] using ih
        · simp only [List.filter_cons, hit, ne_eq, not_false_eq_true, decide_true, if_true,
            List.lookup_cons, ih]
    simp only [look, put, List.lookup_cons, same, if_false, beq_eq_false_iff_ne.mpr same,
      other_kept]

/-- A node that takes the place of a file is what stands there. -/
theorem look_put {t : FileTree} {place : Location} {f : File}
    (h : t.look place = .ok (some (.file f))) (node : Node) (other : Location) :
    (t.put place node).look other = if other = place then .ok (some node) else t.look other := by
  apply look_put_of_below h
  rintro rfl
  simp [look] at h

theorem find_eq_ok_file_iff {t : FileTree} {path : Path} {place : Location} {f : File} :
    t.find path = .ok (place, .file f) ↔
      t.place path = .ok place ∧ t.look place = .ok (some (.file f)) ∧ path.slash = false := by
  cases reached : t.place path with
  | error e => simp [find, reached, bind, Except.bind]
  | ok there =>
    have settled : t.find path = .ok (place, .file f) ↔
        there = place ∧ t.look there = .ok (some (.file f)) ∧ path.slash = false := by
      cases found : t.look there with
      | error e => simp [find, reached, found, bind, Except.bind]
      | ok node =>
        cases node with
        | none => simp [find, reached, found, bind, Except.bind, throw, throwThe, MonadExcept.throw]
        | some node =>
          cases node <;> cases slashed : path.slash <;>
            simp [find, reached, found, slashed, bind, Except.bind, throw, throwThe,
              MonadExcept.throw, pure, Except.pure]
    simp only [settled, Except.ok.injEq]
    constructor
    · rintro ⟨rfl, rest⟩
      exact ⟨rfl, rest⟩
    · rintro ⟨rfl, rest⟩
      exact ⟨rfl, rest⟩

theorem file_eq_ok_iff {t : FileTree} {path : Path} {f : File} :
    t.file path = .ok f ↔ ∃ place, t.find path = .ok (place, .file f) := by
  cases found : t.find path with
  | error e => simp [file, found]
  | ok entry =>
    obtain ⟨place, node⟩ := entry
    cases node <;> simp [file, found]

theorem setFile_of_find {t : FileTree} {path : Path} {place : Location} {f : File}
    (h : t.find path = .ok (place, .file f)) (g : File) :
    t.setFile path g = t.put place (.file g) := by
  rw [setFile, h]

/-- Where there is no file, nothing changes. -/
theorem setFile_of_not_file {t : FileTree} {path : Path} {e : DeviceError}
    (h : t.file path = .error e) (g : File) : t.setFile path g = t := by
  unfold setFile
  split
  · next found => simp [file, found] at h
  · rfl

/-- Other contents of a file lead no step elsewhere. -/
theorem walk_put {t : FileTree} {place : Location} {f : File}
    (h : t.look place = .ok (some (.file f))) (g : File) (start : Location)
    (steps : List Path.Step) :
    (t.put place (.file g)).walk start steps = t.walk start steps := by
  induction steps generalizing start with
  | nil => rfl
  | cons step rest ih =>
    -- A walk ends at a file, whatever is in it.
    by_cases same : start = place
    · subst same
      simp [walk, look_put h, h]
    · simp only [walk, look_put h, same, if_false, ih]

theorem place_setFile (t : FileTree) (path : Path) (g : File) (other : Path) :
    (t.setFile path g).place other = t.place other := by
  cases held : t.file path with
  | error e => rw [setFile_of_not_file held]
  | ok f =>
    obtain ⟨place, found⟩ := file_eq_ok_iff.mp held
    rw [setFile_of_find found]
    simp only [FileTree.place, walk_put (find_eq_ok_file_iff.mp found).2.1]

/-- The contents given to a file are read back, by whatever path leads to it. -/
theorem file_setFile {t : FileTree} {path other : Path} {f f' : File} (h : t.file path = .ok f)
    (h' : t.file other = .ok f') (same : t.place other = t.place path) (g : File) :
    (t.setFile path g).file other = .ok g := by
  obtain ⟨place, found⟩ := file_eq_ok_iff.mp h
  obtain ⟨there, reached⟩ := file_eq_ok_iff.mp h'
  have there_eq : there = place := by
    have := (find_eq_ok_file_iff.mp reached).1
    rw [same, (find_eq_ok_file_iff.mp found).1] at this
    exact (Except.ok.inj this).symm
  subst there_eq
  refine file_eq_ok_iff.mpr ⟨there, find_eq_ok_file_iff.mpr ⟨?_, ?_, ?_⟩⟩
  · rw [place_setFile, (find_eq_ok_file_iff.mp reached).1]
  · rw [setFile_of_find found, look_put (find_eq_ok_file_iff.mp found).2.1, if_pos rfl]
  · exact (find_eq_ok_file_iff.mp reached).2.2

/-- No file in another place changes. -/
theorem file_setFile_of_ne (t : FileTree) {path other : Path} (g : File)
    (apart : t.place other ≠ t.place path) : (t.setFile path g).file other = t.file other := by
  cases held : t.file path with
  | error e => rw [setFile_of_not_file held]
  | ok f =>
    obtain ⟨place, found⟩ := file_eq_ok_iff.mp held
    have kept : (t.setFile path g).find other = t.find other := by
      have unmoved := place_setFile t path g other
      unfold find
      rw [unmoved]
      cases reached : t.place other with
      | error e => rfl
      | ok there =>
        have elsewhere : there ≠ place := by
          rintro rfl
          exact apart (by rw [reached, (find_eq_ok_file_iff.mp found).1])
        simp only [bind, Except.bind, setFile_of_find found,
          look_put (find_eq_ok_file_iff.mp found).2.1, elsewhere, if_false]
    rw [file, kept, file]

end FileTree

end PagedStorage
