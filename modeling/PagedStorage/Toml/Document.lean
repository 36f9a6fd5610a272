import PagedStorage.Toml.Number
import PagedStorage.Toml.Quoted
import PagedStorage.Toml.Table

/-!
# TOML documents

A document is its entries before the first header and then its sections. Arrays and tables between
braces nest less than 80 deep, and a dotted key has less than 80 parts. What a document means is
built while it is read, so a document that defines something twice is no document.
-/

namespace PagedStorage.Toml

open Reader

/-- Bound on the depth of nesting and on the parts of a key. -/
def depthLimit : Nat := 80

def isBareKeyChar (c : Char) : Bool := c.isAlphanum || c = '_' || c = '-'

def bareKey : Reader String := do
  match ← span isBareKeyChar with
  | [] => failure
  | text => return String.ofList text

def simpleKey : Reader String := do
  blanks
  let key ← basic <|> literal <|> bareKey
  blanks
  return key

/-- A dotted key: the tables in front, and the last part. -/
def dottedKey : Reader (List String × String) := do
  let parts ← sepBy1 simpleKey (char '.')
  match parts.getLast? with
  | some key => if parts.length < depthLimit then return (parts.dropLast, key) else failure
  | none => failure

def boolean : Reader Unit := word "true" <|> word "false"

/-- A value without values inside. The first form that fits is taken. -/
def scalar : Reader Node :=
  (.text <$> quoted) <|>
  (do (dateTime <|> float); return .scalar) <|>
  (.integer <$> integer) <|>
  (do (specialFloat <|> boolean); return .scalar)

def array (item : Reader Node) : Reader Node := do
  char '['
  let items ← maybe (sepBy1 (do betweenValues; let _ ← item; betweenValues) (char ','))
  if items.isSome then
    let _ ← maybe (char ',')
  betweenValues
  char ']'
  return .array

/-- A key and its value. -/
def entry (item : Reader Node) : Reader Entry := do
  let (path, key) ← dottedKey
  char '='
  blanks
  return ⟨path, key, ← item⟩

def inlineTable (item : Reader Node) : Reader Node := do
  char '{'
  let entries ← maybe (sepBy1 (do let e ← entry item; blanks; return e) (char ','))
  blanks
  char '}'
  match Entries.insertAll .inline [] (entries.getD []) with
  | some entries => return .table .inline entries
  | none => failure

/-- A value with at most `room` arrays and tables around one another. -/
def value : Nat → Reader Node
  | 0 => scalar
  | room + 1 => array (value room) <|> inlineTable (value room) <|> scalar

/-- A line with one entry, and what comes before the next. -/
def entryLine : Reader Entry := do
  let e ← entry (value (depthLimit - 1))
  restOfLine
  betweenLines
  return e

def header : Reader (Bool × List String × String) :=
  (do word "[["; let key ← dottedKey; word "]]"; return (true, key)) <|>
  (do char '['; let key ← dottedKey; char ']'; return (false, key))

def sectionLines : Reader Section := do
  let (isRow, path, key) ← header
  restOfLine
  betweenLines
  return ⟨isRow, path, key, ← many entryLine⟩

/-- The byte order mark that may open a document. -/
def byteOrderMark : Char := Char.ofNat 0xfeff

def document : Reader Entries := do
  let _ ← maybe (char byteOrderMark)
  betweenLines
  let entries ← many entryLine
  let sections ← many sectionLines
  atEnd
  match (Entries.insertAll .defined [] entries).bind (sections.foldlM Entries.insertSection) with
  | some root => return root
  | none => failure

/-- The top table of a document. -/
def read? (text : String) : Option Entries := document.readAll text

end PagedStorage.Toml
