import PagedStorage.Fault

/-!
# Counters

The pool counts what it does and the store reports the counts together with the state of its pages.
Both reports print the share of requests that were served from the buffer as a percentage with two
decimals: the exact value of the binary number is rounded to the nearest (`roundDiv_near`), and a
half goes to the even neighbour (`roundDiv_even`).
-/

namespace PagedStorage

/-- The share of hits among all requests; none were made, then it is zero. -/
def hitRate (hits misses : Nat) : Except Fault Float := do
  let total ← Checked.add hits misses
  return if total = 0 then 0 else hits.toUInt64.toFloat / total.toUInt64.toFloat

/-- The whole number nearest to a quotient; a half goes to the even neighbour. -/
def roundDiv (num den : Nat) : Nat :=
  let q := num / den
  let twice := 2 * (num % den)
  if twice < den then q
  else if den < twice then q + 1
  else q + q % 2

/-- The result is within half a unit of the quotient. -/
theorem roundDiv_near (num : Nat) {den : Nat} (h : 0 < den) :
    2 * num ≤ (2 * roundDiv num den + 1) * den ∧ 2 * roundDiv num den * den ≤ 2 * num + den := by
  have hd : num / den * den + num % den = num := Nat.div_add_mod' num den
  have hm : num % den < den := Nat.mod_lt num h
  have key : ∀ r, (2 * r + 1) * den = 2 * (r * den) + den ∧ 2 * r * den = 2 * (r * den) := fun r =>
    ⟨by rw [Nat.add_mul, Nat.mul_assoc, Nat.one_mul], Nat.mul_assoc 2 r den⟩
  have hs : (num / den + 1) * den = num / den * den + den := Nat.succ_mul _ _
  rw [(key _).1, (key _).2, roundDiv]
  split
  · omega
  · split
    · omega
    · obtain hq | hq := Nat.mod_two_eq_zero_or_one (num / den)
      · rw [hq, Nat.add_zero]
        omega
      · rw [hq]
        omega

/-- A quotient in the middle between two numbers is rounded to the even one. -/
theorem roundDiv_even {num den : Nat} (h : 2 * (num % den) = den) : roundDiv num den % 2 = 0 := by
  rw [roundDiv, if_neg (Nat.not_lt.mpr (Nat.le_of_eq h.symm)),
    if_neg (Nat.not_lt.mpr (Nat.le_of_eq h))]
  omega

/-- The hundredths nearest to a finite number that is not negative, read off its binary64 bits:
eleven bits of exponent over 52 of fraction. -/
def hundredths (x : Float) : Nat :=
  let bits := x.toBits.toNat
  let exponent := bits >>> 52 % 0x800
  let fraction := bits % 0x10000000000000
  let significand := if exponent = 0 then fraction else 0x10000000000000 + fraction
  let shift := max exponent 1
  roundDiv ((significand * 100) <<< (shift - 1075)) (1 <<< (1075 - shift))

/-- A number with two decimals, as `33.33`. -/
def twoDecimals (x : Float) : String :=
  let h := hundredths x
  let tail := h % 100
  s!"{h / 100}." ++ (if tail < 10 then "0" else "") ++ toString tail

/-- The share of hits in percent. -/
def hitPercent (hits misses : Nat) : Except Fault String := do
  return twoDecimals ((← hitRate hits misses) * 100)

/-- What a pool has done since it was made. -/
structure Counters where
  /-- Requests served from a resident frame. -/
  hits : Nat := 0
  /-- Requests that needed another frame. -/
  misses : Nat := 0
  evictions : Nat := 0
  invalidations : Nat := 0
  /-- Blocks read from the file. -/
  reads : Nat := 0
  /-- Blocks written to the file. -/
  writes : Nat := 0
deriving DecidableEq

namespace Counters

def hitRate (c : Counters) : Except Fault Float := PagedStorage.hitRate c.hits c.misses

def summary (c : Counters) : Except Fault String := do
  let percent ← hitPercent c.hits c.misses
  return s!"hits: {c.hits}, misses: {c.misses}, evictions: {c.evictions}, " ++
    s!"reads: {c.reads}, writes: {c.writes}, hit_rate: {percent}%"

end Counters

/-- The state of a store in numbers. -/
structure StorageStats where
  /-- The extent of issued pages. -/
  total : Nat := 0
  free : Nat := 0
  hits : Nat := 0
  misses : Nat := 0
  evictions : Nat := 0
  reads : Nat := 0
  writes : Nat := 0
  /-- Frames that hold a page. -/
  resident : Nat := 0
deriving DecidableEq

namespace StorageStats

def hitRate (s : StorageStats) : Except Fault Float := PagedStorage.hitRate s.hits s.misses

/-- Issued pages that are not free; more free pages than issued ones leave none. -/
def live (s : StorageStats) : Nat := s.total - s.free

def summary (s : StorageStats) : Except Fault String := do
  let percent ← hitPercent s.hits s.misses
  return s!"pages: {s.total} ({s.free} free), hits: {s.hits}, misses: {s.misses}, " ++
    s!"evictions: {s.evictions}, resident: {s.resident}, hit_rate: {percent}%"

end StorageStats

end PagedStorage
