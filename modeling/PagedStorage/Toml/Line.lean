import PagedStorage.Text.Reader

/-!
# What TOML lines are made of

Blanks are spaces and tabs, and a line ends with a line feed that a carriage return may precede. A
comment runs to the end of its line and holds no control character other than the tab.
-/

namespace PagedStorage.Toml

open Reader

/-- Neither a control character, apart from the tab, nor the delete character. -/
def isPlain (c : Char) : Bool :=
  c = '\t' || (' ' ≤ c && c.toNat ≠ 127)

def isBlank (c : Char) : Bool := c = ' ' || c = '\t'

def blanks : Reader Unit := do
  let _ ← span isBlank

def newline : Reader Unit := char '\n' <|> word "\r\n"

def comment : Reader Unit := do
  char '#'
  let _ ← span isPlain

/-- The end of a line, or of the text. -/
def lineEnd : Reader Unit := newline <|> atEnd

/-- What may follow on a line that has said all. -/
def restOfLine : Reader Unit := do
  blanks
  let _ ← maybe comment
  lineEnd

def blank : Reader Unit := do
  let _ ← satisfy isBlank

/-- Blank lines and lines of comment, and the blanks before the next line that says something. -/
def betweenLines : Reader Unit := do
  let _ ← many (blank <|> newline <|> (do comment; lineEnd))

/-- What may stand between the values of an array, over any number of lines. -/
def betweenValues : Reader Unit := do
  let _ ← many (blank <|> newline <|> (do comment; newline))

end PagedStorage.Toml
