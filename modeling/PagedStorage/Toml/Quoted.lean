import PagedStorage.Toml.Line

/-!
# Quoted text in TOML

There are four forms. A basic text stands between quotation marks and has escapes, a literal one
stands between apostrophes and has none. Tripled marks let either run over several lines: a line
break right behind the opening marks is dropped, all others are read as line feeds, and one or two
marks may stand inside or just before the closing ones.
-/

namespace PagedStorage.Toml

open Reader

def quotationMark : Char := Char.ofNat 34

def apostrophe : Char := Char.ofNat 39

def backslash : Char := Char.ofNat 92

/-- The character with a number of so many hexadecimal digits; a surrogate is none. -/
def scalarValue (digits : Nat) : Reader Char := do
  let spelled ← upTo (satisfy isHexDigit) digits
  let n := ofDigits 16 spelled
  if spelled.length = digits ∧ n.isValidChar then return Char.ofNat n else failure

def escape : Reader Char := do
  char backslash
  let c ← satisfy fun _ => true
  if c = 'b' then return '\x08'
  else if c = 't' then return '\t'
  else if c = 'n' then return '\n'
  else if c = 'f' then return '\x0c'
  else if c = 'r' then return '\r'
  else if c = quotationMark ∨ c = backslash then return c
  else if c = 'u' then scalarValue 4
  else if c = 'U' then scalarValue 8
  else failure

/-- A character that stands for itself between marks. -/
def unescaped (mark : Char) : Reader Char := satisfy fun c => isPlain c && c ≠ mark

def basicChar : Reader Char :=
  (satisfy fun c => isPlain c && c ≠ quotationMark && c ≠ backslash) <|> escape

def basic : Reader String := do
  char quotationMark
  let text ← many basicChar
  char quotationMark
  return String.ofList text

def literal : Reader String := do
  char apostrophe
  let text ← span fun c => isPlain c && c ≠ apostrophe
  char apostrophe
  return String.ofList text

/-- A backslash at the end of a line hides the line break and all blanks and breaks behind it. -/
def hiddenBreak : Reader Unit := do
  char backslash
  blanks
  newline
  let _ ← many (blank <|> newline)

def lineFeed : Reader (List Char) := do
  newline
  return ['\n']

/-- One or two marks that more text follows. -/
def innerMarks (mark : Char) : Reader (List Char) := do
  let marks ← span (· == mark)
  if marks.length = 1 ∨ marks.length = 2 then return marks else failure

/-- The closing marks, and the one or two marks of the text in front of them. -/
def closingMarks (mark : Char) : Reader (List Char) := do
  let marks ← span (· == mark)
  if 3 ≤ marks.length ∧ marks.length ≤ 5 then return marks.drop 3 else failure

/-- Text between tripled marks, given how its pieces are read. -/
def multiline (mark : Char) (piece : Reader (List Char)) : Reader String := do
  word (String.ofList [mark, mark, mark])
  let _ ← maybe newline
  let pieces ← many (piece <|> innerMarks mark)
  let tail ← closingMarks mark
  return String.ofList (pieces.flatten ++ tail)

def multilineBasic : Reader String :=
  multiline quotationMark
    ((do hiddenBreak; return []) <|> (do return [← basicChar]) <|> lineFeed)

def multilineLiteral : Reader String :=
  multiline apostrophe ((do return [← unescaped apostrophe]) <|> lineFeed)

/-- Text in any of the four forms. -/
def quoted : Reader String := multilineBasic <|> basic <|> multilineLiteral <|> literal

end PagedStorage.Toml
