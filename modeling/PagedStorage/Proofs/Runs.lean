import PagedStorage.Action

/-!
# Running an action

What a composed action does to a state, as rules for the simplifier: together they run an action
until it meets a step whose outcome has to be looked up.

Where only the state matters that is left, `Settles` says that it is a good one however the action
ends, faults apart, and goes through composed actions step by step. `Preserves` says it of every good
state that the action may begin in, and of faults too.
-/

namespace PagedStorage.Action

variable {σ τ α β : Type}

@[simp] theorem run_pure (a : α) (s : σ) : (pure a : Action σ α) s = .ok a s := rfl

@[simp] theorem run_bind (act : Action σ α) (next : α → Action σ β) (s : σ) :
    (act >>= next) s =
      match act s with
      | .ok a t => next a t
      | .error f t => .error f t := by
  cases ran : act s with
  | ok a t => exact bind_of_ok ran
  | error f t => exact bind_of_error ran

theorem bind_congr {act other : Action σ α} {s : σ} (same : act s = other s)
    {next : α → Action σ β} : (act >>= next) s = (other >>= next) s := by
  rw [run_bind, run_bind, same]

@[simp] theorem run_map (g : α → β) (act : Action σ α) (s : σ) :
    (g <$> act) s =
      match act s with
      | .ok a t => .ok (g a) t
      | .error f t => .error f t := by
  show EStateM.map g act s = _
  rw [EStateM.map]
  cases act s <;> rfl

@[simp] theorem run_get (s : σ) : (get : Action σ σ) s = .ok s s := rfl

@[simp] theorem run_set (s t : σ) : (set t : Action σ PUnit) s = .ok ⟨⟩ t := rfl

@[simp] theorem run_modify (change : σ → σ) (s : σ) :
    (modify change : Action σ PUnit) s = .ok ⟨⟩ (change s) := rfl

@[simp] theorem run_throw (why : Failure) (s : σ) : (throw why : Action σ α) s = .error why s := rfl

@[simp] theorem run_reject (e : StoreError) (s : σ) :
    (reject e : Action σ α) s = .error (.error e) s := rfl

@[simp] theorem run_checked_ok (a : α) (s : σ) : (checked (.ok a) : Action σ α) s = .ok a s := rfl

@[simp] theorem run_checked_error (f : Fault) (s : σ) :
    (checked (.error f) : Action σ α) s = .error (.fault f) s := rfl

@[simp] theorem run_ite (c : Prop) [Decidable c] (act other : Action σ α) (s : σ) :
    (if c then act else other) s = if c then act s else other s := by
  split <;> rfl

@[simp] theorem run_attempt (act : Action σ α) (s : σ) :
    attempt act s =
      match act s with
      | .ok a t => .ok (.ok a) t
      | .error (.error e) t => .ok (.error e) t
      | .error (.fault f) t => .error (.fault f) t := rfl

@[simp] theorem run_within (part : σ → τ) (put : τ → σ → σ) (act : Action τ α) (s : σ) :
    within part put act s =
      match act (part s) with
      | .ok a t => .ok a (put t s)
      | .error f t => .error f (put t s) := rfl

/-! ### Faults -/

/-- The action ends with a fault. -/
def Faults (act : Action σ α) (s : σ) : Prop := ∃ why t, act s = .error (.fault why) t

namespace Faults

variable {act : Action σ α} {s : σ}

theorem bind (faults : act.Faults s) (next : α → Action σ β) : (act >>= next).Faults s := by
  obtain ⟨why, t, ran⟩ := faults
  exact ⟨why, t, by simp only [run_bind, ran]⟩

/-- A fault that comes after a step that went well. -/
theorem after {a : α} {t : σ} {next : α → Action σ β} (ran : act s = .ok a t)
    (faults : (next a).Faults t) : (act >>= next).Faults s := by
  obtain ⟨why, u, stops⟩ := faults
  exact ⟨why, u, by simp only [run_bind, ran, stops]⟩

theorem congr {other : Action σ α} {t : σ} (faults : act.Faults s) (same : other t = act s) :
    other.Faults t := by
  obtain ⟨why, u, stops⟩ := faults
  exact ⟨why, u, same.trans stops⟩

/-- No fault is caught. -/
theorem attempt (faults : act.Faults s) : (Action.attempt act).Faults s := by
  obtain ⟨why, t, ran⟩ := faults
  exact ⟨why, t, by simp only [run_attempt, ran]⟩

theorem within {part : σ → τ} {inner : Action τ α} (faults : inner.Faults (part s))
    (put : τ → σ → σ) : (Action.within part put inner).Faults s := by
  obtain ⟨why, t, ran⟩ := faults
  exact ⟨why, put t s, by simp only [run_within, ran]⟩

end Faults

/-! ### States that are left -/

/-- The action leaves a good state, whether it ends with a value or an error. Otherwise it ends with
one of the faults that are allowed. -/
def Settles (act : Action σ α) (s : σ) (good : σ → Prop) (broken : Fault → Prop) : Prop :=
  match act s with
  | .ok _ t | .error (.error _) t => good t
  | .error (.fault why) _ => broken why

namespace Settles

variable {act : Action σ α} {s : σ} {good : σ → Prop} {broken : Fault → Prop}

theorem of_ok {a : α} {t : σ} (ran : act s = .ok a t) (h : good t) : Settles act s good broken := by
  rwa [Settles, ran]

theorem of_error {e : StoreError} {t : σ} (ran : act s = .error (.error e) t) (h : good t) :
    Settles act s good broken := by
  rwa [Settles, ran]

theorem of_fault {why : Fault} {t : σ} (ran : act s = .error (.fault why) t) (h : broken why) :
    Settles act s good broken := by
  rwa [Settles, ran]

theorem of_faults (faults : act.Faults s) (h : ∀ why, broken why) : Settles act s good broken := by
  obtain ⟨why, t, ran⟩ := faults
  exact of_fault ran (h why)

theorem congr {other : Action σ α} {t : σ} (same : act s = other t)
    (h : Settles other t good broken) : Settles act s good broken := by
  rwa [Settles, same]

/-- Looking at the state is no step of its own. -/
theorem get {next : σ → Action σ α} (h : Settles (next s) s good broken) :
    Settles (do next (← MonadStateOf.get)) s good broken := h

theorem mono (h : Settles act s good broken) {good' : σ → Prop} {broken' : Fault → Prop}
    (better : ∀ t, good t → good' t) (allowed : ∀ why, broken why → broken' why) :
    Settles act s good' broken' := by
  unfold Settles at *
  cases ran : act s with
  | ok a t => exact better t (by simpa [ran] using h)
  | error why t =>
    cases why with
    | error e => exact better t (by simpa [ran] using h)
    | fault f => exact allowed f (by simpa [ran] using h)

/-- What comes next begins in a good state. -/
theorem bind {next : α → Action σ β} (first : Settles act s good broken)
    (rest : ∀ a t, good t → Settles (next a) t good broken) :
    Settles (act >>= next) s good broken := by
  unfold Settles at first
  cases ran : act s with
  | ok a t =>
    rw [ran] at first
    simpa [Settles, ran] using rest a t first
  | error why t =>
    rw [ran] at first
    cases why <;> simpa [Settles, ran] using first

theorem attempt (h : Settles act s good broken) : Settles (attempt act) s good broken := by
  unfold Settles at *
  cases ran : act s with
  | ok a t => simpa [ran] using h
  | error why t => cases why <;> simpa [ran] using h

/-- An error that is caught leaves what is good so far, and what comes next may make more of it. -/
theorem bind_attempt {next : Except StoreError α → Action σ β} {fine : σ → Prop}
    (first : Settles act s fine broken)
    (rest : ∀ result t, fine t → Settles (next result) t good broken) :
    Settles (do next (← Action.attempt act)) s good broken := by
  unfold Settles at first
  cases ran : act s with
  | ok a t =>
    rw [ran] at first
    simpa [Settles, ran] using rest (.ok a) t first
  | error why t =>
    rw [ran] at first
    cases why with
    | error e => simpa [Settles, ran] using rest (.error e) t first
    | fault f => simpa [Settles, ran] using first

theorem within {part : σ → τ} {put : τ → σ → σ} {inner : Action τ α}
    (h : Settles inner (part s) (fun t => good (put t s)) broken) :
    Settles (within part put inner) s good broken := by
  unfold Settles at *
  cases ran : inner (part s) with
  | ok a t => simpa [ran] using h
  | error why t => cases why <;> simpa [ran] using h

theorem reject {e : StoreError} (h : good s) : Settles (reject e : Action σ α) s good broken := h

theorem pure {a : α} (h : good s) : Settles (Pure.pure a : Action σ α) s good broken := h

end Settles

/-! ### States that are kept good -/

/-- Begun in a good state, the action leaves a good one, however it ends. -/
def Preserves (act : Action σ α) (good : σ → Prop) : Prop :=
  ∀ s, good s → match act s with
    | .ok _ t | .error _ t => good t

namespace Preserves

variable {act : Action σ α} {good : σ → Prop}

theorem settles (preserves : act.Preserves good) {s : σ} (h : good s) :
    Settles act s good fun _ => True := by
  have left := preserves s h
  unfold Settles
  cases ran : act s with
  | ok a t => simpa only [ran] using left
  | error why t =>
    rw [ran] at left
    cases why with
    | error e => exact left
    | fault f => trivial

theorem pure (a : α) : Preserves (Pure.pure a : Action σ α) good := fun _ h => h

theorem reject (e : StoreError) : Preserves (Action.reject e : Action σ α) good := fun _ h => h

theorem checked (x : Except Fault α) : Preserves (Action.checked x : Action σ α) good := by
  intro s h
  cases x <;> exact h

theorem bind {next : α → Action σ β} (first : act.Preserves good)
    (rest : ∀ a, (next a).Preserves good) : Preserves (act >>= next) good := by
  intro s h
  have left := first s h
  cases ran : act s with
  | ok a t =>
    rw [ran] at left
    simpa [ran] using rest a t left
  | error why t => simpa [ran] using left

/-- What is done unless it is refused at once. -/
theorem rejectIf {refused : Prop} [Decidable refused] {e : StoreError} {next : PUnit → Action σ α}
    (rest : (next ⟨⟩).Preserves good) :
    Preserves (if refused then Action.reject e >>= next else next ⟨⟩) good := by
  split
  · exact .bind (.reject e) fun _ => rest
  · exact rest

/-- What comes next may rely on the state being good. -/
theorem get {next : σ → Action σ α} (rest : ∀ s, good s → (next s).Preserves good) :
    Preserves (do next (← MonadStateOf.get)) good := fun s h => rest s h s h

theorem modify {change : σ → σ} (better : ∀ s, good s → good (change s)) :
    Preserves (modify change : Action σ PUnit) good := better

theorem attempt (preserves : act.Preserves good) : Preserves (Action.attempt act) good := by
  intro s h
  have left := preserves s h
  cases ran : act s with
  | ok a t => simpa [ran] using left
  | error why t => cases why <;> simpa [ran] using left

theorem within {part : σ → τ} {put : τ → σ → σ} {inner : Action τ α} {fine : τ → Prop}
    (preserves : inner.Preserves fine) (into : ∀ s, good s → fine (part s))
    (back : ∀ s t, good s → fine t → good (put t s)) :
    Preserves (Action.within part put inner) good := by
  intro s h
  have left := preserves (part s) (into s h)
  cases ran : inner (part s) with
  | ok a t => simpa [ran] using back s t h (by simpa [ran] using left)
  | error why t => simpa [ran] using back s t h (by simpa [ran] using left)

theorem forM {ι : Type} {each : ι → Action σ PUnit} (preserves : ∀ i, (each i).Preserves good)
    (l : List ι) : Preserves (l.forM each) good := by
  induction l with
  | nil => exact .pure _
  | cons i rest ih => exact .bind (preserves i) fun _ => ih

end Preserves

end PagedStorage.Action
