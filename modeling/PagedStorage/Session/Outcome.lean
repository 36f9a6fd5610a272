import PagedStorage.Action
import PagedStorage.FileTree

/-!
# Sessions

A session is a store in use by one thread: the directory tree it lives in, the store itself once it
is open, and what the thread holds of it. A request to a session ends in one of four ways. The store
did what was asked; it failed; the request would have made the thread wait for itself and was not
made; or it names something that is not there and was not made either.

The files can also be looked at and changed behind the store's back.
-/

namespace PagedStorage

/-- What a refused request asked for in vain. -/
inductive Refusal where
  /-- The guard's name is in use, unknown, or that of a guard that may not write. -/
  | guardName
  /-- The bytes reach past the end of the page. -/
  | offset
  | handle
  | file
  | noPool
  | noEngine
  /-- This kind of engine does not have the request. -/
  | request
deriving DecidableEq

inductive Outcome (α : Type) where
  | done (answer : α)
  | failed (why : Failure)
  /-- The one thread would wait for a latch that it holds itself. -/
  | wouldBlock
  | refused (why : Refusal)
deriving DecidableEq

namespace Outcome

variable {α β : Type}

def map (g : α → β) : Outcome α → Outcome β
  | done a => done (g a)
  | failed why => failed why
  | wouldBlock => wouldBlock
  | refused why => refused why

/-- How an action ends, together with the state it leaves. -/
def ofAction {σ : Type} (act : Action σ α) (s : σ) : Outcome α × σ :=
  match act s with
  | .ok a s => (.done a, s)
  | .error why s => (.failed why, s)

end Outcome

/-- What can be done to a file behind the store's back. -/
inductive FileRequest where
  | contents
  | length
  | resize (n : Nat)
  | append (bytes : Array UInt8)

inductive FileReply where
  | done
  | length (n : Nat)
  | contents (bytes : Array UInt8)

/-- Looks at a file or changes it. -/
def FileTree.step (t : FileTree) (path : Path) (request : FileRequest) :
    Outcome FileReply × FileTree :=
  match t.file path with
  | .error _ => (.refused .file, t)
  | .ok f =>
    match request with
    | .contents => (.done (.contents f.toArray), t)
    | .length => (.done (.length f.size), t)
    | .resize n => (.done .done, t.setFile path (f.resize n))
    | .append bytes => (.done .done, t.setFile path (f.append bytes))

end PagedStorage
