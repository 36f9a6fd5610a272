import PagedStorage.Proofs.EngineRuns
import PagedStorage.Proofs.RequestRuns
import PagedStorage.Session.GuardedEngine

/-!
# What an engine answers

All that an engine can answer when it is used by itself, with what it leaves behind (`Engine.Answers`).
An answer depends on the allocator, on the bytes of the page that is named, and on whether the engine
is closed. It does not depend on which pages are in a frame, and no error of the pool or of the file
is ever passed on.
-/

namespace PagedStorage

/-! ### Requests -/

/-- What can be asked of every store, with or without a file. -/
inductive StoreRequest where
  | allocate
  | deallocate (page : PageId)
  | write (page : Page)
  | read (page : PageId)
  | sync
  | close

def StoreRequest.toEngine : StoreRequest → EngineRequest
  | allocate => .allocate
  | deallocate page => .deallocate page
  | write page => .write page
  | read page => .read page
  | sync => .sync
  | close => .close

namespace Engine

variable {config : Config} {e f : Engine config}

def perform {α : Type} (e : Engine config) (act : Action (Engine config) α)
    (reply : α → EngineReply) : Outcome EngineReply × Engine config :=
  let (outcome, e) := Outcome.ofAction act e
  (outcome.map reply, e)

/-- Makes a request of an engine on whose pool no guard is held. -/
def step (e : Engine config) : StoreRequest → Outcome EngineReply × Engine config
  | .allocate => e.perform allocate .allocated
  | .deallocate page => e.perform (deallocate page) fun _ => .done
  | .write page => e.perform (write page) fun _ => .done
  | .read page => e.perform (read page) .page
  | .sync => e.perform sync fun _ => .done
  | .close => e.perform close fun _ => .done

theorem perform_of_ok {α : Type} {act : Action (Engine config) α} {a : α}
    (ran : act e = .ok a f) (reply : α → EngineReply) : e.perform act reply = (.done (reply a), f) := by
  simp [perform, Outcome.ofAction, ran, Outcome.map]

theorem perform_of_error {α : Type} {act : Action (Engine config) α} {why : Failure}
    (ran : act e = .error why f) (reply : α → EngineReply) : e.perform act reply = (.failed why, f) := by
  simp [perform, Outcome.ofAction, ran, Outcome.map]

/-- Nothing waits where no guard is held. -/
theorem ask_toEngine (e : Engine config) (request : StoreRequest) :
    GuardedEngine.ask ⟨e, []⟩ request.toEngine = ((e.step request).1, ⟨(e.step request).2, []⟩) := by
  have calm : GuardedEngine.mightWait ⟨e, []⟩ request.toEngine = false := by cases request <;> rfl
  rw [GuardedEngine.ask_eq_serve calm]
  cases request <;> rfl

theorem step_of_closed (closed : e.closed = true) (request : StoreRequest) :
    e.step request = (.failed (.error .closed), e) := by
  have refused : ensureOpen e = .error (.error .closed) e := by simp [ensureOpen_eq, closed]
  cases request <;> apply perform_of_error
  · simp [allocate, refused]
  · simp [deallocate, refused]
  · simp [write, refused]
  · simp [read, refused]
  · simp [sync, refused]
  · simp [close, refused]

/-- How an engine in order can answer a request. What it refuses leaves it as it was. -/
inductive Answers (e : Engine config) :
    StoreRequest → Outcome EngineReply → Engine config → Prop
  | closed {request : StoreRequest} (closed : e.closed = true) :
      Answers e request (.failed (.error .closed)) e
  | allocated {issued : Allocation} {b : Allocator} {pool : Pool config.bufferSize config.pageSize}
      (opened : e.closed = false) (issues : e.allocator.Issues issued b)
      (ran : Allocator.allocate e.allocator = .ok issued b)
      (turns : e.Turns ⟨b, e.closed, pool⟩ 0 (Function.update e.pool.bytesOf issued.page .zero)) :
      Answers e .allocate (.done (.allocated issued.page)) ⟨b, e.closed, pool⟩
  | exhausted (opened : e.closed = false) (none : e.allocator.free = ∅)
      (full : ¬ e.allocator.total < e.allocator.maxPages)
      (ran : Allocator.allocate e.allocator = .error e.allocator.exhausted e.allocator) :
      Answers e .allocate (.failed e.allocator.exhausted) e
  | deallocated {page : PageId} {pool : Pool config.bufferSize config.pageSize}
      (opened : e.closed = false) (live : e.allocator.isLive page = true)
      (turns : e.Turns ⟨e.allocator.returned page, e.closed, pool⟩ 0 e.pool.bytesOf) :
      Answers e (.deallocate page) (.done .done) ⟨e.allocator.returned page, e.closed, pool⟩
  | kept {page : PageId} (opened : e.closed = false) (dead : e.allocator.isLive page = false) :
      Answers e (.deallocate page) (.failed (.error (.invalidPageId page))) e
  | written {page : Page} {block : Block config.pageSize}
      {pool : Pool config.bufferSize config.pageSize} (opened : e.closed = false)
      (fits : Block.ofArray? page.bytes = some block)
      (live : e.allocator.isLive page.id = true)
      (turns : e.Turns { e with pool } 1 (Function.update e.pool.bytesOf page.id block)) :
      Answers e (.write page) (.done .done) { e with pool }
  | mismatched {page : Page} (opened : e.closed = false)
      (fits : (Block.ofArray? page.bytes : Option (Block config.pageSize)) = none) :
      Answers e (.write page) (.failed (.error (.pageSizeMismatch config.pageSize page.length))) e
  | unwritten {page : Page} {block : Block config.pageSize} {why : StoreError}
      (opened : e.closed = false) (fits : Block.ofArray? page.bytes = some block)
      (refused : e.allocator.checkLive page.id = .error why) :
      Answers e (.write page) (.failed (.error why)) e
  | shown {page : PageId} {pool : Pool config.bufferSize config.pageSize}
      (opened : e.closed = false) (live : e.allocator.isLive page = true)
      (turns : e.Turns { e with pool } 1 e.pool.bytesOf) :
      Answers e (.read page) (.done (.page ⟨page, (e.pool.bytesOf page).toArray⟩)) { e with pool }
  | unread {page : PageId} {why : StoreError} (opened : e.closed = false)
      (refused : e.allocator.checkLive page = .error why) :
      Answers e (.read page) (.failed (.error why)) e
  | synced {pool : Pool config.bufferSize config.pageSize} (opened : e.closed = false)
      (turns : e.Turns { e with pool } 0 e.pool.bytesOf) (saved : Saved { e with pool }) :
      Answers e .sync (.done .done) { e with pool }
  | shut {pool : Pool config.bufferSize config.pageSize} (opened : e.closed = false)
      (turns : e.Turns { e with closed := true, pool } 0 e.pool.bytesOf)
      (saved : Saved { e with closed := true, pool }) :
      Answers e .close (.done .done) { e with closed := true, pool }

theorem checkLive_error_of_dead {a : Allocator} {page : PageId} (dead : ¬ a.isLive page = true) :
    ∃ why, a.checkLive page = .error why := by
  cases checked : a.checkLive page with
  | error why => exact ⟨why, rfl⟩
  | ok => exact absurd (Allocator.checkLive_eq_ok_iff.mp checked) dead

/-- Every request is answered in one of these ways. -/
theorem step_answers (h : e.Sound) (spans : config.Spans) (request : StoreRequest) :
    e.Answers request (e.step request).1 (e.step request).2 := by
  -- Every request looks first whether the engine is closed, and then at the allocator.
  cases closed : e.closed with
  | true =>
    rw [step_of_closed closed]
    exact .closed closed
  | false =>
    cases request with
    | allocate =>
      rcases e.allocator.allocate_cases with ⟨issued, b, issues, ran⟩ | ⟨none, full, ran⟩
      · obtain ⟨pool, done, turns⟩ := allocate_turns closed h spans issues ran
        rw [step, perform_of_ok done]
        exact .allocated closed issues ran turns
      · rw [step, perform_of_error (allocate_refused closed ran)]
        exact .exhausted closed none full ran
    | deallocate page =>
      by_cases live : e.allocator.isLive page = true
      · obtain ⟨pool, done, turns⟩ := deallocate_turns closed h live
        rw [step, perform_of_ok done]
        exact .deallocated closed live turns
      · have dead := Bool.eq_false_iff.mpr live
        rw [step, perform_of_error (deallocate_refused closed dead)]
        exact .kept closed dead
    | write page =>
      cases fits : (Block.ofArray? page.bytes : Option (Block config.pageSize)) with
      | none =>
        -- The length is checked before the page is looked up.
        rw [step, perform_of_error (write_mismatch closed (Block.ofArray?_eq_none_iff.mp fits))]
        exact .mismatched closed fits
      | some block =>
        have bytes := Block.ofArray?_eq_some_iff.mp fits
        have length : page.length = config.pageSize := by
          rw [Page.length, bytes, Vector.size_toArray]
        by_cases live : e.allocator.isLive page.id = true
        · obtain ⟨pool, done, turns⟩ := write_turns h closed bytes live
          rw [step, perform_of_ok done]
          exact .written closed fits live turns
        · obtain ⟨why, refused⟩ := checkLive_error_of_dead live
          rw [step, perform_of_error (write_refused closed length refused)]
          exact .unwritten closed fits refused
    | read page =>
      by_cases live : e.allocator.isLive page = true
      · obtain ⟨pool, done, turns⟩ := read_turns h closed live
        rw [step, perform_of_ok done]
        exact .shown closed live turns
      · obtain ⟨why, refused⟩ := checkLive_error_of_dead live
        rw [step, perform_of_error (read_refused closed refused)]
        exact .unread closed refused
    | sync =>
      obtain ⟨pool, done, turns, saved⟩ := sync_turns h closed
      rw [step, perform_of_ok done]
      exact .synced closed turns saved
    | close =>
      obtain ⟨pool, done, turns, saved⟩ := close_turns h closed
      rw [step, perform_of_ok done]
      exact .shut closed turns saved

/-- The bytes of all pages after a request. -/
theorem Answers.turns {request : StoreRequest} {outcome : Outcome EngineReply}
    (answers : e.Answers request outcome f) (h : e.Sound) : ∃ asked after, e.Turns f asked after := by
  -- What is refused leaves the engine as it was. Each other answer says what it leaves.
  cases answers
  case closed | exhausted | kept | mismatched | unwritten | unread => exact ⟨_, _, h.turns_refl⟩
  all_goals exact ⟨_, _, ‹_›⟩

/-! ### Runs -/

theorem sound_step (h : e.Sound) (spans : config.Spans) (request : StoreRequest) :
    (e.step request).2.Sound := by
  obtain ⟨_, _, turns⟩ := (step_answers h spans request).turns h
  exact turns.sound

theorem sound_after (h : e.Sound) (spans : config.Spans) (requests : List StoreRequest) :
    (Run.after step e requests).Sound := by
  induction requests generalizing e with
  | nil => exact h
  | cons request rest ih => exact ih (sound_step h spans request)

end Engine

end PagedStorage
