import PagedStorage.Error

/-!
# Actions

An action runs on a state and ends with a value or with a failure. What it changed before failing
stays changed, so a caller that wants the old state back has to restore it. Only errors can be
handled: `attempt` hands an error to its caller as a value and lets a fault pass.

A layer of the store holds the layer below it as a field. `within` runs an action of the lower layer
on that field. How each of the three runs is said once, in the lemmas at the end.
-/

namespace PagedStorage

abbrev Action (σ α : Type) : Type := EStateM Failure σ α

namespace Action

variable {σ τ α : Type}

/-- Ends the request with an error. -/
def reject (e : StoreError) : Action σ α := throw (.error e)

/-- A computation without state, whose fault is the action's fault. -/
def checked : Except Fault α → Action σ α
  | .ok a => pure a
  | .error f => throw (.fault f)

/-- Runs `act` and returns its error as a value. -/
def attempt (act : Action σ α) : Action σ (Except StoreError α) := fun s =>
  match act s with
  | .ok a s => .ok (.ok a) s
  | .error (.error e) s => .ok (.error e) s
  | .error (.fault f) s => .error (.fault f) s

/-- Runs an action of a lower layer on the part of the state that holds it. -/
def within (part : σ → τ) (put : τ → σ → σ) (act : Action τ α) : Action σ α := fun s =>
  match act (part s) with
  | .ok a t => .ok a (put t s)
  | .error f t => .error f (put t s)

/-! ### How an action runs -/

theorem bind_of_ok {β : Type} {act : Action σ α} {next : α → Action σ β} {s t : σ} {a : α}
    (h : act s = .ok a t) : (act >>= next) s = next a t := by
  show EStateM.bind act next s = next a t
  rw [EStateM.bind, h]

theorem bind_of_error {β : Type} {act : Action σ α} {next : α → Action σ β} {s t : σ} {f : Failure}
    (h : act s = .error f t) : (act >>= next) s = .error f t := by
  show EStateM.bind act next s = .error f t
  rw [EStateM.bind, h]

theorem attempt_of_ok {act : Action σ α} {s t : σ} {a : α} (h : act s = .ok a t) :
    attempt act s = .ok (.ok a) t := by
  rw [attempt, h]

theorem attempt_of_error {act : Action σ α} {s t : σ} {e : StoreError}
    (h : act s = .error (.error e) t) : attempt act s = .ok (.error e) t := by
  rw [attempt, h]

theorem attempt_of_fault {act : Action σ α} {s t : σ} {f : Fault}
    (h : act s = .error (.fault f) t) : attempt act s = .error (.fault f) t := by
  rw [attempt, h]

theorem within_of_ok {part : σ → τ} {put : τ → σ → σ} {act : Action τ α} {s : σ} {t : τ} {a : α}
    (h : act (part s) = .ok a t) : within part put act s = .ok a (put t s) := by
  rw [within, h]

theorem within_of_error {part : σ → τ} {put : τ → σ → σ} {act : Action τ α} {s : σ} {t : τ}
    {f : Failure} (h : act (part s) = .error f t) :
    within part put act s = .error f (put t s) := by
  rw [within, h]

end Action

end PagedStorage
