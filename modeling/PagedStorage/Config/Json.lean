import PagedStorage.Config
import PagedStorage.Json.Value

/-!
# Configurations in JSON

A configuration is an object, or an array of its options in their order. What is missing has its
default. An option may be given once and other keys any number of times. The checks of a
configuration are not made here.
-/

namespace PagedStorage.Config

/-- The options by their keys, in their order. -/
def jsonKeys : List String := ["data_directory", "page_size", "buffer_size", "max_file_size"]

/-- Numbers have 64 bits. -/
def jsonNumber? : Json.Value → Option Nat
  | .number (some n) => if n < 0x10000000000000000 then some n else none
  | _ => none

/-- The configuration with one option replaced. -/
def setJson? (c : Config) (key : String) (value : Json.Value) : Option Config :=
  match key, value with
  | "data_directory", .text (some dataDirectory) => some { c with dataDirectory }
  | "data_directory", _ => none
  | "page_size", value => return { c with pageSize := ← jsonNumber? value }
  | "buffer_size", value => return { c with bufferSize := ← jsonNumber? value }
  | "max_file_size", value => return { c with maxFileSize := ← jsonNumber? value }
  | _, _ => some c

/-- The keys of an object, unless one does not spell characters. -/
def spelledKeys? (fields : List (Option String × Json.Value)) :
    Option (List (String × Json.Value)) :=
  fields.mapM fun (key, value) => return (← key, value)

/-- The configuration that a value spells. -/
def ofJsonValue? : Json.Value → Option Config
  | .object fields => do
    let fields ← spelledKeys? fields
    let given := (fields.map Prod.fst).filter (· ∈ jsonKeys)
    if given.Nodup then fields.foldlM (fun c (key, value) => c.setJson? key value) {} else none
  | .array items =>
    if items.length ≤ jsonKeys.length then
      (jsonKeys.zip items).foldlM (fun c (key, value) => c.setJson? key value) {}
    else none
  | _ => none

/-- The configuration that a text spells. -/
def ofJson? (text : String) : Option Config := (Json.read? text).bind ofJsonValue?

end PagedStorage.Config
