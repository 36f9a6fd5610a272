import Mathlib.Data.List.Forall2

/-!
# Requests in a row

A store answers one request at a time, and each answer comes with the store that is left. Here are the
answers to requests that are made one after the other. Two stores that answer each request alike, and
are alike again afterwards, answer all of them alike (`Run.related_run`).
-/

namespace PagedStorage.Run

variable {σ τ ρ α : Type}

/-- The answers to requests that are made one after the other. -/
def answers (step : σ → ρ → α × σ) : σ → List ρ → List α
  | _, [] => []
  | s, request :: rest => (step s request).1 :: answers step (step s request).2 rest

/-- What is left after them. -/
def after (step : σ → ρ → α × σ) : σ → List ρ → σ
  | s, [] => s
  | s, request :: rest => after step (step s request).2 rest

theorem after_append (step : σ → ρ → α × σ) (s : σ) (first second : List ρ) :
    after step s (first ++ second) = after step (after step s first) second := by
  induction first generalizing s with
  | nil => rfl
  | cons request rest ih => exact ih (step s request).2

variable {β : Type} {step : σ → ρ → α × σ} {step' : τ → ρ → β × τ} {related : σ → τ → Prop}
  {alike : α → β → Prop} {made : ρ → Prop} {s : σ} {t : τ}

/-- Stores that answer each request alike, and stay alike, do so in every run. -/
theorem related_run
    (steps : ∀ s t request, made request → related s t →
      alike (step s request).1 (step' t request).1 ∧
        related (step s request).2 (step' t request).2)
    (h : related s t) {requests : List ρ} (all : ∀ request ∈ requests, made request) :
    List.Forall₂ alike (answers step s requests) (answers step' t requests) ∧
      related (after step s requests) (after step' t requests) := by
  -- What relates the stores is kept by each request, so it is the invariant of the run.
  induction requests generalizing s t with
  | nil => exact ⟨.nil, h⟩
  | cons request rest ih =>
    obtain ⟨first, still⟩ := steps s t request (all request List.mem_cons_self) h
    obtain ⟨others, last⟩ := ih still fun later listed => all later (List.mem_cons_of_mem _ listed)
    exact ⟨.cons first others, last⟩

theorem related_after
    (steps : ∀ s t request, related s t → related (step s request).2 (step' t request).2)
    (h : related s t) (requests : List ρ) :
    related (after step s requests) (after step' t requests) := by
  induction requests generalizing s t with
  | nil => exact h
  | cons request rest ih => exact ih (steps s t request h)

/-- Stores that answer each request in the same way answer every run in the same way. -/
theorem answers_eq_of_related {step' : τ → ρ → α × τ}
    (steps : ∀ s t request, related s t → (step s request).1 = (step' t request).1 ∧
      related (step s request).2 (step' t request).2)
    (h : related s t) (requests : List ρ) : answers step s requests = answers step' t requests := by
  have run : List.Forall₂ (· = ·) (answers step s requests) (answers step' t requests) ∧
      related (after step s requests) (after step' t requests) := by
    apply related_run
    · exact fun s t request (_ : True) => steps s t request
    · exact h
    · exact fun _ _ => trivial
  rw [List.forall₂_eq_eq_eq] at run
  exact run.1

end PagedStorage.Run
