/-!
# Faults

An error is an answer: the caller asked for something the store cannot give, and is told so. A fault
is a step that no correct caller asks for, and after it the request is not carried on at all. The
two are kept apart because an error path may mend what was begun, while a fault leaves every part
of the state as it stood at the moment it struck.

Sizes and offsets are 64-bit quantities. They are computed on natural numbers here, and each
operation of `Checked` says when its result would not fit.
-/

namespace PagedStorage

/-- What stops a request outright. -/
inductive Fault where
  | addOverflow
  | subOverflow
  | mulOverflow
  | divideByZero
  | pinUnderflow
  | emptyPool
  | indexOutOfBounds (length index : Nat)
deriving DecidableEq

/-- The words a fault is reported in. -/
def Fault.message : Fault → String
  | .addOverflow => "attempt to add with overflow"
  | .subOverflow => "attempt to subtract with overflow"
  | .mulOverflow => "attempt to multiply with overflow"
  | .divideByZero => "attempt to divide by zero"
  | .pinUnderflow => "pin count underflow"
  | .emptyPool => "pool_size must be > 0"
  | .indexOutOfBounds length index =>
    s!"index out of bounds: the len is {length} but the index is {index}"

namespace Checked

/-- Sums stay below 2^64. -/
def add (a b : Nat) : Except Fault Nat :=
  if a + b < 0x10000000000000000 then .ok (a + b) else .error .addOverflow

/-- Differences stay at or above zero. -/
def sub (a b : Nat) : Except Fault Nat :=
  if b ≤ a then .ok (a - b) else .error .subOverflow

/-- Products stay below 2^64. -/
def mul (a b : Nat) : Except Fault Nat :=
  if a * b < 0x10000000000000000 then .ok (a * b) else .error .mulOverflow

/-- Quotients need a divisor other than zero. -/
def div (a b : Nat) : Except Fault Nat :=
  if b = 0 then .error .divideByZero else .ok (a / b)

end Checked

end PagedStorage
