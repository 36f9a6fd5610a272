import PagedStorage.Error

/-!
# Paths

A path is taken step by step from the root. Dots are steps like names: one dot stays in a directory
and two go to the directory above, so what they lead to can only be said in a tree. A slash at the
end leads no further, but only a directory can be named that way. Some texts are refused whatever the
tree holds.
-/

namespace PagedStorage

namespace Path

inductive Step where
  /-- Stays, in what must be a directory. -/
  | here
  /-- Goes to the directory above. -/
  | up
  | into (name : String)
deriving DecidableEq

end Path

structure Path where
  steps : List Path.Step
  /-- A slash stands behind the last name, or there is no step at all. -/
  slash : Bool
  /-- Why the path is not even looked at. -/
  flaw : Option DeviceError
deriving DecidableEq

/-- The names from the root down to a place. -/
abbrev Location : Type := List String

namespace Path

def Step.ofName : String → Step
  | "." => .here
  | ".." => .up
  | name => .into name

/-- Where a step from a directory leads. The root is above itself. -/
def Step.goFrom (step : Step) (place : Location) : Location :=
  match step with
  | .here => place
  | .up => place.dropLast
  | .into name => place ++ [name]

/-- The last step already leads to a directory. -/
def endsInDots (steps : List Step) : Bool :=
  match steps.getLast? with
  | some .here | some .up => true
  | _ => false

/-- No path holds a NUL character, and none is as long as 4096 bytes. -/
def flaw? (text : String) : Option DeviceError :=
  if text.contains '\x00' then some .nulInPath
  else if 4096 ≤ text.utf8ByteSize then some .nameTooLong
  else none

/-- Reads the text of a path. Names stand between slashes, and slashes in a row are as good as one.
A slash behind dots says nothing that the dots do not say. -/
def parse (text : String) : Path :=
  let names := text.splitOn "/"
  let steps := (names.filter (· ≠ "")).map Step.ofName
  ⟨steps, names.getLast? = some "" && !endsInDots steps, flaw? text⟩

/-- The paths to the directories above, the nearest first and the root last. A step that stays leads
through no directory of its own. -/
def parents (path : Path) : List Path :=
  let steps := path.steps.filter (· ≠ .here)
  (List.range steps.length).reverse.map fun n => ⟨steps.take n, false, none⟩

end Path

end PagedStorage
