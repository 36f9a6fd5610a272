import PagedStorage.Disk
import PagedStorage.Session.Outcome

/-!
# Named handles on files

Several handles may be open at once, also on one file. A handle counts blocks for itself, but the
bytes belong to the file: each request is made on the contents as they are in the tree, and leaves
them there.
-/

namespace PagedStorage

/-- A handle on the file at a path. -/
structure Handle where
  path : Path
  pageSize : Nat
  disk : Disk pageSize

structure HandleSession where
  tree : FileTree
  handles : List (String × Handle)

/-- Ways to open a file. -/
inductive Opening where
  | create
  | openFile
  | openOrCreate

inductive HandleRequest where
  | start (how : Opening) (path : Path) (pageSize maxFileSize : Nat)
  /-- Reads into a buffer of that length, or of one page. -/
  | read (page : PageId) (length : Option Nat)
  | write (page : PageId) (bytes : Array UInt8)
  | sync
  | close
  | drop

inductive HandleReply where
  | done
  | bytes (bytes : Array UInt8)

namespace HandleSession

def handle? (s : HandleSession) (name : String) : Option Handle := s.handles.lookup name

def putHandle (s : HandleSession) (name : String) (h : Handle) : HandleSession :=
  { s with handles := (name, h) :: s.handles.filter fun entry => entry.1 ≠ name }

/-- Opens a file under a name. A handle that fails to open leaves the older one in place. -/
def start (s : HandleSession) (name : String) (how : Opening) (path : Path)
    (pageSize maxFileSize : Nat) : Outcome HandleReply × HandleSession :=
  let opening : Action FileTree (Disk pageSize) :=
    match how with
    | .create => Disk.create path maxFileSize
    | .openFile => Disk.openFile path maxFileSize
    | .openOrCreate => Disk.openOrCreate path maxFileSize
  match opening s.tree with
  | .ok disk tree => (.done .done, { s with tree }.putHandle name ⟨path, pageSize, disk⟩)
  | .error why tree => (.failed why, { s with tree })

/-- Runs an action of a handle on its file as it is now. -/
def perform {α : Type} (s : HandleSession) (name : String) (h : Handle)
    (act : Action (Disk h.pageSize) α) : Outcome α × HandleSession :=
  let disk : Disk h.pageSize :=
    match s.tree.file h.path with
    | .ok file => { h.disk with file }
    | .error _ => h.disk
  let (outcome, disk) := Outcome.ofAction act disk
  (outcome,
    { s with tree := s.tree.setFile h.path disk.file }.putHandle name { h with disk })

def step (s : HandleSession) (name : String) :
    HandleRequest → Outcome HandleReply × HandleSession
  | .start how path pageSize maxFileSize => s.start name how path pageSize maxFileSize
  | request =>
    match s.handle? name with
    | none => (.refused .handle, s)
    | some h =>
      match request with
      | .read page length =>
        let (outcome, s) := s.perform name h (Disk.read page (length.getD h.pageSize))
        (outcome.map fun block => .bytes block.toArray, s)
      | .write page bytes =>
        let (outcome, s) := s.perform name h (Disk.write page bytes)
        (outcome.map fun _ => .done, s)
      | .sync =>
        let (outcome, s) := s.perform name h Disk.sync
        (outcome.map fun _ => .done, s)
      | .close =>
        let (outcome, s) := s.perform name h Disk.close
        (outcome.map fun _ => .done, s)
      | _ => (.done .done, { s with handles := s.handles.filter fun entry => entry.1 ≠ name })

end HandleSession

end PagedStorage
