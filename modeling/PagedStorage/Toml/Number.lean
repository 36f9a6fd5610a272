import PagedStorage.Toml.Line

/-!
# Numbers, dates and times in TOML

An integer has 64 bits and a sign. Of floats, dates and times only the form matters here, with one
exception: a float that is too large to be told from infinity is refused, unless it is negative.
-/

namespace PagedStorage.Toml

open Reader

/-- Digits with single underscores between them. -/
def digitRun (isDigit : Char → Bool) : Reader (List Char) := do
  let first ← satisfy isDigit
  let rest ← many (satisfy isDigit <|> (do char '_'; satisfy isDigit))
  return first :: rest

/-- A sign, and whether it is a minus. -/
def sign : Reader Bool := (do char '+'; return false) <|> (do char '-'; return true)

/-- A sign that may be left out. -/
def optionalSign : Reader Bool := sign <|> pure false

/-- Decimal digits without a leading zero. -/
def wholePart : Reader (List Char) :=
  (do char '0'; return ['0']) <|> digitRun Char.isDigit

/-- A number behind the mark of its base. -/
def inBase (mark : String) (base : Nat) (isDigit : Char → Bool) : Reader Int := do
  word mark
  return ofDigits base (← digitRun isDigit)

def decimal : Reader Int := do
  let negative ← optionalSign
  let n : Int := ofDigits 10 (← wholePart)
  return if negative then -n else n

/-- An integer that fits 64 bits. -/
def integer : Reader Int := do
  let n ← inBase "0x" 16 isHexDigit
    <|> inBase "0o" 8 (fun c => '0' ≤ c && c ≤ '7')
    <|> inBase "0b" 2 (fun c => c = '0' || c = '1')
    <|> decimal
  if -0x8000000000000000 ≤ n ∧ n < 0x8000000000000000 then return n else failure

def exponent : Reader Int := do
  let _ ← satisfy fun c => c = 'e' || c = 'E'
  let negative ← optionalSign
  let n : Int := ofDigits 10 (← digitRun Char.isDigit)
  return if negative then -n else n

/-- The number `m * 10 ^ e` is rounded to infinity: it reaches the middle between the largest
finite binary64 number and 2^1024. The digits of `m` are counted first, so that the powers stay
small. -/
def roundsToInfinity (m : Nat) (e : Int) : Bool :=
  let threshold := Nat.pow 2 1024 - Nat.pow 2 970
  let magnitude := ((Nat.toDigits 10 m).length : Int) + e
  if m = 0 ∨ magnitude < 300 then false
  else if 310 < magnitude then true
  else if 0 ≤ e then threshold ≤ m * Nat.pow 10 e.toNat
  else threshold * Nat.pow 10 (-e).toNat ≤ m

def float : Reader Unit := do
  let negative ← optionalSign
  let whole ← wholePart
  let (fraction, e) ←
    (do return ([], ← exponent)) <|>
    (do
      char '.'
      let fraction ← digitRun Char.isDigit
      return (fraction, ← exponent <|> pure 0))
  if !negative && roundsToInfinity (ofDigits 10 (whole ++ fraction)) (e - fraction.length) then
    failure

/-- Infinity and what is no number. -/
def specialFloat : Reader Unit := do
  let _ ← optionalSign
  word "inf" <|> word "nan"

/-- Exactly `count` digits that spell a number from `low` to `high`. -/
def digits (count low high : Nat) : Reader Nat := do
  let spelled ← upTo (satisfy Char.isDigit) count
  let n := ofDigits 10 spelled
  if spelled.length = count ∧ low ≤ n ∧ n ≤ high then return n else failure

def daysInMonth (year month : Nat) : Nat :=
  if month = 2 then
    if year % 4 = 0 ∧ (year % 100 ≠ 0 ∨ year % 400 = 0) then 29 else 28
  else if month = 4 ∨ month = 6 ∨ month = 9 ∨ month = 11 then 30
  else 31

def date : Reader Unit := do
  let year ← digits 4 0 9999
  char '-'
  let month ← digits 2 1 12
  char '-'
  let _ ← digits 2 1 (daysInMonth year month)

/-- A time of day with seconds; a minute may have a leap second. -/
def time : Reader Unit := do
  let _ ← digits 2 0 23
  char ':'
  let _ ← digits 2 0 59
  char ':'
  let _ ← digits 2 0 60
  let _ ← maybe (do char '.'; let _ ← satisfy Char.isDigit; span Char.isDigit)

/-- The distance from universal time. -/
def timeOffset : Reader Unit :=
  (do let _ ← satisfy fun c => c = 'Z' || c = 'z') <|>
  (do
    let _ ← sign
    let _ ← digits 2 0 23
    char ':'
    let _ ← digits 2 0 59)

/-- A date, a time, or both; only both together have an offset. -/
def dateTime : Reader Unit :=
  (do
    date
    let _ ← maybe do
      let _ ← satisfy fun c => c = 'T' || c = 't' || c = ' '
      time
      let _ ← maybe timeOffset) <|>
  time

end PagedStorage.Toml
