import PagedStorage.Text.Reader

/-!
# JSON values

A JSON text is read into the part of its meaning that a configuration can use. Numbers are kept only
where they are written as plain digits. A text may hold half of a surrogate pair as an escape: it is
well-formed, but it spells no characters.
-/

namespace PagedStorage.Json

open Reader

inductive Value where
  | null
  | bool
  /-- A number, if it is written without sign, point and exponent. -/
  | number (digits : Option Nat)
  /-- A text, if it spells characters. -/
  | text (text : Option String)
  | array (items : List Value)
  | object (fields : List (Option String × Value))

def isSpace (c : Char) : Bool := c = ' ' || c = '\n' || c = '\t' || c = '\r'

def spaces : Reader Unit := do
  let _ ← span isSpace

/-- A mark with the spaces behind it. -/
def mark (c : Char) : Reader Unit := do
  char c
  spaces

def quotationMark : Char := Char.ofNat 34

def backslash : Char := Char.ofNat 92

/-- A character of a text: its number in UTF-16 or in full. -/
def unit : Reader Nat := do
  let c ← satisfy fun c => ' ' ≤ c && c ≠ quotationMark
  if c ≠ backslash then return c.toNat
  else
    let c ← satisfy fun _ => true
    if c = 'b' then return 8
    else if c = 'f' then return 12
    else if c = 'n' then return 10
    else if c = 'r' then return 13
    else if c = 't' then return 9
    else if c = quotationMark ∨ c = backslash ∨ c = '/' then return c.toNat
    else if c = 'u' then
      let spelled ← upTo (satisfy isHexDigit) 4
      if spelled.length = 4 then return ofDigits 16 spelled else failure
    else failure

/-- The characters that units spell: a high surrogate and a low one behind it are one character. -/
def spell? : List Nat → Option (List Char)
  | [] => some []
  | [n] => if n.isValidChar then some [Char.ofNat n] else none
  | high :: low :: rest =>
    if high.isValidChar then (spell? (low :: rest)).map (Char.ofNat high :: ·)
    else if 0xd800 ≤ high ∧ high < 0xdc00 ∧ 0xdc00 ≤ low ∧ low < 0xe000 then
      (spell? rest).map (Char.ofNat (0x10000 + (high - 0xd800) * 0x400 + (low - 0xdc00)) :: ·)
    else none

/-- A text, and the characters it spells. -/
def text : Reader (Option String) := do
  char quotationMark
  let units ← many unit
  mark quotationMark
  return (spell? units).map String.ofList

def digits1 : Reader (List Char) := do
  let first ← satisfy Char.isDigit
  return first :: (← span Char.isDigit)

/-- A number, and its value if it is written in plain digits. -/
def number : Reader (Option Nat) := do
  let minus ← maybe (char '-')
  let whole ← (do char '0'; return ['0']) <|> digits1
  let fraction ← maybe (do char '.'; digits1)
  let exponent ← maybe do
    let _ ← satisfy fun c => c = 'e' || c = 'E'
    let _ ← maybe (char '+' <|> char '-')
    digits1
  spaces
  if minus.isSome ∨ fraction.isSome ∨ exponent.isSome then return none
  else return some (ofDigits 10 whole)

def key (w : String) : Reader Unit := do
  word w
  spaces

/-- Items between two marks, with commas between them and none behind the last. -/
def listed {α : Type} (opening closing : Char) (item : Reader α) : Reader (List α) := do
  mark opening
  let items ← maybe (sepBy1 item (mark ','))
  mark closing
  return items.getD []

/-- A value with less than `depth` values around one another. -/
def value : Nat → Reader Value
  | 0 => failure
  | depth + 1 =>
    (.object <$> listed '{' '}' do
      let name ← text
      mark ':'
      return (name, ← value depth)) <|>
    (.array <$> listed '[' ']' (value depth)) <|>
    (.text <$> text) <|>
    (.number <$> number) <|>
    (do key "null"; return .null) <|>
    (do (key "true" <|> key "false"); return .bool)

/-- The value of a text. Nesting is bounded only by the length of the text. -/
def read? (text : String) : Option Value :=
  (do spaces; value (text.length + 1) : Reader Value).readAll text

end PagedStorage.Json
