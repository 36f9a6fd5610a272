import PagedStorage.Config
import PagedStorage.Toml.Document

/-!
# Configurations in TOML

The options are the keys `data_directory`, `page_size`, `buffer_size` and `max_file_size` of the top
table. A missing one has its default, other keys are passed over, and the configuration has to pass
its own checks.
-/

namespace PagedStorage.Config

/-- An option that is a text. -/
def tomlText (root : Toml.Entries) (key default : String) : Option String :=
  match root.lookup key with
  | none => some default
  | some (.text text) => some text
  | some _ => none

/-- An option that is a number, which must not be negative. -/
def tomlNumber (root : Toml.Entries) (key : String) (default : Nat) : Option Nat :=
  match root.lookup key with
  | none => some default
  | some (.integer n) => if 0 ≤ n then some n.toNat else none
  | some _ => none

/-- The configuration that a document spells, whether it passes its checks or not. -/
def ofToml? (text : String) : Option Config := do
  let root ← Toml.read? text
  let default : Config := {}
  return {
    dataDirectory := ← tomlText root "data_directory" default.dataDirectory
    pageSize := ← tomlNumber root "page_size" default.pageSize
    bufferSize := ← tomlNumber root "buffer_size" default.bufferSize
    maxFileSize := ← tomlNumber root "max_file_size" default.maxFileSize }

/-- Why a document gives no configuration. -/
inductive TomlError where
  /-- It is no document, or has an option of the wrong type. -/
  | unreadable
  | flawed (flaw : ConfigFlaw)
deriving DecidableEq

/-- The valid configuration that a document spells. -/
def ofToml (text : String) : Except TomlError Config :=
  match ofToml? text with
  | none => .error .unreadable
  | some c =>
    match c.validate with
    | .ok () => .ok c
    | .error flaw => .error (.flawed flaw)

end PagedStorage.Config
