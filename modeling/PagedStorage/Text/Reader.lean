/-!
# Readers

A reader takes characters off the front of a text and returns what they mean, or refuses and takes
nothing. Choice is ordered: `p <|> q` reads with `q` only where `p` refuses. Repetition is bounded
by the length of the text, which is enough for a reader that takes at least one character each time.
-/

namespace PagedStorage

abbrev Reader (α : Type) : Type := StateT (List Char) Option α

namespace Reader

variable {α β : Type}

/-- Any character that satisfies `p`. -/
def satisfy (p : Char → Bool) : Reader Char := do
  match ← get with
  | c :: rest => if p c then set rest; return c else failure
  | [] => failure

def char (c : Char) : Reader Unit := do
  let _ ← satisfy (· == c)

/-- The characters of a word, in their order. -/
def word (w : String) : Reader Unit := w.toList.forM char

/-- The longest run of characters that satisfy `p`. -/
def span (p : Char → Bool) : Reader (List Char) := do
  let text ← get
  set (text.dropWhile p)
  return text.takeWhile p

/-- Reads with `p` if it can. -/
def maybe (p : Reader α) : Reader (Option α) := (some <$> p) <|> pure none

/-- At most `n` times `p`, as often as it reads. -/
def upTo (p : Reader α) : Nat → Reader (List α)
  | 0 => pure []
  | n + 1 => do
    match ← maybe p with
    | none => return []
    | some a => return a :: (← upTo p n)

/-- As often as `p` reads. -/
def many (p : Reader α) : Reader (List α) := do upTo p (← get).length

/-- One or more `p` with `separator` between them. -/
def sepBy1 (p : Reader α) (separator : Reader β) : Reader (List α) := do
  let first ← p
  let rest ← many (do let _ ← separator; p)
  return first :: rest

/-- Nothing is left. -/
def atEnd : Reader Unit := do
  if !(← get).isEmpty then failure

/-- What a reader makes of a whole text. -/
def readAll (p : Reader α) (text : String) : Option α :=
  (p.run text.toList).bind fun (a, rest) => if rest.isEmpty then some a else none

end Reader

/-- The value of a digit in the bases up to sixteen, letters in either case. -/
def digitValue (c : Char) : Nat :=
  if c.isDigit then c.toNat - '0'.toNat
  else if 'a' ≤ c ∧ c ≤ 'f' then c.toNat - 'a'.toNat + 10
  else c.toNat - 'A'.toNat + 10

def isHexDigit (c : Char) : Bool :=
  c.isDigit || ('a' ≤ c && c ≤ 'f') || ('A' ≤ c && c ≤ 'F')

/-- The number that digits spell in a base, the highest first. -/
def ofDigits (base : Nat) (digits : List Char) : Nat :=
  digits.foldl (fun n c => n * base + digitValue c) 0

end PagedStorage
