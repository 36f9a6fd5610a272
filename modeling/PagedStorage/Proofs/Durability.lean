import PagedStorage.Proofs.SessionRuns

/-!
# Crashes

The file gets no bytes but those that a live page had, so whatever stands in a page's place was at some
moment what the page was read with. A sync puts every live page there as it is. Hence after a crash a
page that was live at a sync is read as it was then, or as it was at some moment since; and after a
close or a drop, which flush, every page is read as it was last.
-/

namespace PagedStorage

/-- How the use of an engine ends. -/
inductive Ending where
  | crash
  | close
  | drop
deriving DecidableEq

/-- The request gave the page new bytes. -/
def Renews (page : PageId) : StoreRequest → Outcome EngineReply → Prop
  | .write written, .done _ => written.id = page
  | .allocate, .done (.allocated issued) => issued = page
  | _, _ => False

namespace Engine

variable {config : Config} {e f : Engine config} {page : PageId} {request : StoreRequest}
  {outcome : Outcome EngineReply}

namespace Answers

theorem closed_eq (answers : e.Answers request outcome f) (working : request ≠ .close) :
    f.closed = e.closed := by
  cases answers with
  | shut => exact absurd rfl working
  | _ => rfl

/-- A page that is not given new bytes keeps those it has, or is no longer live. -/
theorem kept_of_not_renews (answers : e.Answers request outcome f) (h : e.Sound)
    (untouched : ¬ Renews page request outcome) (live : f.allocator.isLive page = true) :
    e.allocator.isLive page = true ∧ f.pool.bytesOf page = e.pool.bytesOf page := by
  cases answers with
  | closed | exhausted | kept | mismatched | unwritten | unread => exact ⟨live, rfl⟩
  | @allocated issued b pool opened issues ran turns =>
    have other : page ≠ issued.page := fun same => untouched same.symm
    rw [turns.bytesOf page live, Function.update_of_ne other]
    exact ⟨((issues.isLive_iff h.issued page).mp live).resolve_right other, rfl⟩
  | deallocated opened still turns =>
    exact ⟨((Allocator.isLive_returned page).mp live).1, turns.bytesOf page live⟩
  | @written written block pool opened fits known turns =>
    have other : page ≠ written.id := fun same => untouched same.symm
    rw [turns.bytesOf page live, Function.update_of_ne other]
    exact ⟨live, rfl⟩
  | shown opened known turns => exact ⟨live, turns.bytesOf page live⟩
  | synced opened turns saved => exact ⟨live, turns.bytesOf page live⟩
  | shut opened turns saved => exact ⟨live, turns.bytesOf page live⟩

end Answers

/-! ### Runs -/

section After

variable (h : e.Sound) (spans : config.Spans)
include h spans

theorem closed_after {requests : List StoreRequest} (working : .close ∉ requests) :
    (Run.after step e requests).closed = e.closed := by
  -- None of the requests is a close.
  induction requests generalizing e with
  | nil => rfl
  | cons request rest ih =>
    have other : request ≠ .close := by
      rintro rfl
      exact working List.mem_cons_self
    have same := (step_answers h spans request).closed_eq other
    exact (ih (sound_step h spans request) fun later => working (List.mem_cons_of_mem _ later)).trans same

theorem blockCount_le_after (requests : List StoreRequest) :
    e.pool.disk.blockCount ≤ (Run.after step e requests).pool.disk.blockCount := by
  induction requests generalizing e with
  | nil => exact Nat.le_refl _
  | cons request rest ih =>
    obtain ⟨_, _, turns⟩ := (step_answers h spans request).turns h
    exact Nat.le_trans turns.blockCount_le (ih turns.sound)

/-- What stands in a page's place is what stood there before, or what the page had when one of the
requests was made. -/
theorem blockAt_after (requests : List StoreRequest) (q : PageId) :
    (Run.after step e requests).pool.disk.blockAt q = e.pool.disk.blockAt q ∨
      ∃ first request rest, requests = first ++ request :: rest ∧
        (Run.after step e first).allocator.isLive q = true ∧
        (Run.after step e requests).pool.disk.blockAt q =
          (Run.after step e first).pool.bytesOf q := by
  induction requests generalizing e with
  | nil => exact .inl rfl
  | cons request rest ih =>
    obtain ⟨_, _, turns⟩ := (step_answers h spans request).turns h
    rcases ih turns.sound with same | ⟨first, later, others, rfl, live, was⟩
    · -- The rest of the run has left the place alone, so this request may have been the one.
      rcases turns.blockAt q with kept | ⟨live, was⟩
      · exact .inl (same.trans kept)
      · exact .inr ⟨[], request, rest, rfl, live, same.trans was⟩
    · exact .inr ⟨request :: first, later, others, rfl, live, was⟩

/-- A page that no request gives new bytes has the bytes that it had, if it is still live. -/
theorem bytesOf_after {requests : List StoreRequest}
    (untouched : ∀ first request rest, requests = first ++ request :: rest →
      ¬ Renews page request ((Run.after step e first).step request).1)
    (live : (Run.after step e requests).allocator.isLive page = true) :
    e.allocator.isLive page = true ∧
      (Run.after step e requests).pool.bytesOf page = e.pool.bytesOf page := by
  induction requests generalizing e with
  | nil => exact ⟨live, rfl⟩
  | cons request rest ih =>
    have others : ∀ first later others, rest = first ++ later :: others →
        ¬ Renews page later ((Run.after step (e.step request).2 first).step later).1 := by
      rintro first later others rfl
      exact untouched (request :: first) later others rfl
    -- The page is live at the end, so it is live after every request that leaves it alone.
    obtain ⟨before, same⟩ := ih (sound_step h spans request) others live
    obtain ⟨known, kept⟩ := (step_answers h spans request).kept_of_not_renews h
      (untouched [] request rest rfl) before
    exact ⟨known, same.trans kept⟩

end After

/-! ### Giving an engine up -/

/-- An engine that is given up while it is open is closed. -/
theorem dispose_eq (h : e.Sound) (opened : e.closed = false) :
    dispose e = .ok () (e.step .close).2 := by
  obtain ⟨pool, done, -, -⟩ := close_turns h opened
  rw [step, perform_of_ok done]
  simp [dispose, opened, done]

theorem dispose_of_closed (closed : e.closed = true) : dispose e = .ok () e := by
  simp [dispose, closed]

/-- The engine that is left when its use has ended. -/
def left (e : Engine config) : Ending → Engine config
  | .crash => e
  | .close | .drop => (e.step .close).2

theorem left_turns (h : e.Sound) (opened : e.closed = false) (ending : Ending) :
    e.Turns (e.left ending) 0 e.pool.bytesOf := by
  obtain ⟨pool, done, turns, -⟩ := close_turns h opened
  cases ending with
  | crash => exact h.turns_refl
  | close | drop =>
    rw [left, step, perform_of_ok done]
    exact turns

theorem closed_step_close (h : e.Sound) (opened : e.closed = false) :
    (e.step .close).2.closed = true := by
  obtain ⟨pool, done, -⟩ := close_turns h opened
  rw [step, perform_of_ok done]

/-- Unless it crashes, an engine leaves all its pages in the file. -/
theorem saved_left (h : e.Sound) (opened : e.closed = false) {ending : Ending}
    (orderly : ending ≠ .crash) (live : e.allocator.isLive page = true) :
    page.index < (e.left ending).pool.disk.blockCount ∧
      (e.left ending).pool.disk.blockAt page = e.pool.bytesOf page := by
  obtain ⟨pool, done, turns, saved⟩ := close_turns h opened
  have closing : e.left ending = { e with closed := true, pool } := by
    cases ending with
    | crash => exact absurd rfl orderly
    | close | drop => rw [left, step, perform_of_ok done]
  obtain ⟨counted, same⟩ := saved page live
  rw [closing]
  exact ⟨counted, same.trans (turns.bytesOf page live)⟩

/-- After a sync the file has all pages, and the engine is still open. -/
theorem saved_of_synced (h : e.Sound) (spans : config.Spans)
    (synced : (e.step .sync).1 = .done .done) :
    (e.step .sync).2.closed = false ∧ (e.step .sync).2.Saved := by
  have answers := step_answers h spans .sync
  rw [synced] at answers
  generalize (e.step .sync).2 = f at answers
  -- Of all answers to a sync only this one is a success.
  cases answers with
  | synced opened turns saved => exact ⟨opened, saved⟩

/-- Whatever the ending, the place of a page that was saved has bytes that the page had at some moment
since. -/
theorem place_of_saved (h : e.Sound) (spans : config.Spans) (opened : e.closed = false)
    (saved : e.Saved) {requests : List StoreRequest} (working : .close ∉ requests) (ending : Ending)
    (live : e.allocator.isLive page = true) :
    page.index < ((Run.after step e requests).left ending).pool.disk.blockCount ∧
      ∃ first, first <+: requests ∧ (Run.after step e first).allocator.isLive page = true ∧
        ((Run.after step e requests).left ending).pool.disk.blockAt page =
          (Run.after step e first).pool.bytesOf page := by
  obtain ⟨counted, same⟩ := saved page live
  have still := (closed_after h spans working).trans opened
  have turns := left_turns (sound_after h spans requests) still ending
  constructor
  · -- The file never gets shorter.
    calc page.index < e.pool.disk.blockCount := counted
      _ ≤ (Run.after step e requests).pool.disk.blockCount := blockCount_le_after h spans requests
      _ ≤ _ := turns.blockCount_le
  · -- The ending may have written the place last, or a request, or else the sync did.
    rcases turns.blockAt page with kept | ⟨known, was⟩
    · rcases blockAt_after h spans requests page with before | ⟨first, request, rest, rfl, known, was⟩
      · exact ⟨[], List.nil_prefix, live, kept.trans (before.trans same)⟩
      · exact ⟨first, List.prefix_append .., known, kept.trans was⟩
    · exact ⟨requests, List.prefix_rfl, known, was⟩

end Engine

namespace EngineSession

variable {config : Config} {e f : Engine config} {s t : EngineSession} {page : PageId}

/-- The bytes that a page would be read with. -/
def shows (s : EngineSession) (page : PageId) : Option (Array UInt8) :=
  match (s.ask (.read page)).1 with
  | .done (.page seen) => some seen.bytes
  | _ => none

theorem Runs.shows_eq (runs : s.Runs e) (h : e.Sound) (opened : e.closed = false) (page : PageId) :
    s.shows page =
      if e.allocator.isLive page = true then some (e.pool.bytesOf page).toArray else none := by
  rw [shows, (runs.ask_eq (.read page)).1]
  by_cases live : e.allocator.isLive page = true
  · obtain ⟨pool, done, -⟩ := Engine.read_turns h opened live
    rw [Engine.step, Engine.perform_of_ok done, if_pos live]
  · obtain ⟨why, refused⟩ := Engine.checkLive_error_of_dead live
    rw [Engine.step, Engine.perform_of_error (Engine.read_refused opened refused), if_neg live]

theorem Runs.shows_eq_some_iff (runs : s.Runs e) (h : e.Sound) (opened : e.closed = false)
    {bytes : Array UInt8} :
    s.shows page = some bytes ↔
      e.allocator.isLive page = true ∧ (e.pool.bytesOf page).toArray = bytes := by
  rw [runs.shows_eq h opened]
  split
  · next live => simp [live]
  · next dead => simp [dead]

theorem Runs.ask_sync (runs : s.Runs e) (h : e.Sound) (opened : e.closed = false) :
    ∃ t, s.ask .sync = (.done .done, t) := by
  obtain ⟨pool, done, -⟩ := Engine.sync_turns h opened
  have answered := (runs.ask_eq .sync).1
  rw [Engine.step, Engine.perform_of_ok done] at answered
  exact ⟨(s.ask .sync).2, Prod.ext answered rfl⟩

/-! ### Endings -/

/-- Ends the use of the engine and opens another one on its file, with other options. -/
def restart (s : EngineSession) (o : Override) : Ending → Outcome Unit × EngineSession
  | .crash => s.crash o
  | .close => (s.ask .close).2.reopen o
  | .drop => s.reopen o

/-- The bytes at the place of a page in a file. -/
private def bytesAt (file : File) (pageSize : Nat) (page : PageId) : Array UInt8 :=
  Array.ofFn fun j : Fin pageSize => file.byteAt (page.index * pageSize + j.val)

private theorem toArray_blockAt {pageSize : Nat} (d : Disk pageSize) (page : PageId) :
    (d.blockAt page).toArray = bytesAt d.file pageSize page := rfl

/-- What an engine shows that was opened on the file of another with pages of the same length. -/
private theorem shows_of_start (backing : s.backing = .file)
    (directory : s.config.dataDirectory = config.dataDirectory)
    (same : s.config.pageSize = config.pageSize) (valid : s.config.validate = .ok ())
    (small : config.pageSize < 0x100000000) (h : e.Sound)
    (houses : s.tree.Houses config e.pool.disk.file) :
    ∃ u, s.start = (.done (), u) ∧ ∀ page, u.shows page =
      if page.index < e.pool.disk.blockCount then some (e.pool.disk.blockAt page).toArray
      else none := by
  obtain ⟨⟨long, -⟩, -, -⟩ := Config.validate_eq_ok_iff.mp valid
  have counted : e.pool.disk.file.size / s.config.pageSize = e.pool.disk.blockCount := by
    rw [same, h.proper.counted (same ▸ long)]
  have numbered : e.pool.disk.file.size / s.config.pageSize < 0x100000000 :=
    counted ▸ e.pool.disk.blockCount_lt
  obtain ⟨u, g, started, runs, opens⟩ :=
    start_of_houses backing valid (houses.of_directory directory) numbered
  have short : s.config.pageSize < 0x100000000 := same ▸ small
  use u, started
  intro page
  rw [runs.shows_eq (opens.sound short) opens.fresh.closed_eq, opens.fresh.bytesOf,
    toArray_blockAt, toArray_blockAt, opens.file_eq, same]
  simp only [opens.fresh.isLive_iff, opens.blockCount_eq valid, counted]

/-- An engine that is given up leaves its file to the next one. -/
private theorem reopen_eq (runs : s.Runs e) (disposed : Engine.dispose e = .ok () f) (o : Override) :
    ∃ u : EngineSession, s.reopen o = u.start ∧ u.backing = .file ∧ u.config = o.apply config ∧
      u.tree.Houses config f.pool.disk.file := by
  have given : GuardedEngine.dispose ⟨e, []⟩ = (.done (), (⟨f, []⟩ : GuardedEngine config)) := by
    have alone : GuardedEngine.dispose ⟨e, []⟩ = GuardedEngine.perform ⟨e, []⟩ Engine.dispose id := rfl
    rw [alone, GuardedEngine.perform, Outcome.ofAction, disposed]
    rfl
  have settled := runs.settled f
  have opening : s.reopen o = start { s with
      tree := GuardedEngine.settle ⟨f, []⟩ s.tree s.dataPath
      config := o.apply s.config
      current := none } := by
    rw [reopen, drop, runs.current]
    simp only [runs.refresh_eq, given]
  exact ⟨_, opening, runs.backing, congrArg o.apply runs.config_eq, settled.houses⟩

/-- Whatever the ending, what is opened then is opened on the file that the engine has left. -/
private theorem restart_eq (runs : s.Runs e) (h : e.Sound) (opened : e.closed = false)
    (o : Override) (ending : Ending) :
    ∃ u : EngineSession, s.restart o ending = u.start ∧ u.backing = .file ∧
      u.config = o.apply config ∧ u.tree.Houses config (e.left ending).pool.disk.file := by
  cases ending with
  | crash =>
    exact ⟨_, rfl, runs.backing, congrArg o.apply runs.config_eq, runs.houses⟩
  | close =>
    -- The engine is given up as well, but it is closed by then.
    have closed := Engine.closed_step_close h opened
    exact reopen_eq (runs.ask_eq .close).2 (Engine.dispose_of_closed closed) o
  | drop => exact reopen_eq runs (Engine.dispose_eq h opened) o

/-- The next engine finds the pages that stand in the file. -/
private theorem restart_shows {o : Override} (runs : s.Runs e) (h : e.Sound)
    (opened : e.closed = false) (small : config.pageSize < 0x100000000)
    (same : (o.apply config).pageSize = config.pageSize) (valid : (o.apply config).validate = .ok ())
    (ending : Ending) :
    ∃ w, s.restart o ending = (.done (), w) ∧ ∀ page, w.shows page =
      if page.index < (e.left ending).pool.disk.blockCount then
        some ((e.left ending).pool.disk.blockAt page).toArray
      else none := by
  obtain ⟨u, restarted, backing, config_eq, houses⟩ := restart_eq runs h opened o ending
  have sound := (Engine.left_turns h opened ending).sound
  have directory : u.config.dataDirectory = config.dataDirectory := by
    rw [config_eq]
    rfl
  rw [← config_eq] at same valid
  obtain ⟨w, started, shows⟩ := shows_of_start backing directory same valid small sound houses
  exact ⟨w, restarted.trans started, shows⟩

/-! ### What survives -/

/-- From `u` requests have led to the end of an engine, and then `w` was opened. Each page that `u` shows
is shown by `w` as it was at some moment since, and as it was in `u` if no request has given it new
bytes. -/
structure Survives (u : EngineSession) (requests : List StoreRequest) (w : EngineSession) : Prop where
  moment : ∀ page, (u.shows page).isSome → ∃ first bytes, first <+: requests ∧
    (Run.after ask u first).shows page = some bytes ∧ w.shows page = some bytes
  untouched : ∀ page bytes, u.shows page = some bytes →
    (∀ first request rest, requests = first ++ request :: rest →
      ¬ Renews page request ((Run.after ask u first).ask request).1) →
    w.shows page = some bytes

private theorem survives_of_saved {requests : List StoreRequest} {w : EngineSession}
    {ending : Ending} (runs : s.Runs e) (h : e.Sound) (spans : config.Spans)
    (opened : e.closed = false) (saved : e.Saved) (working : .close ∉ requests)
    (found : ∀ page, w.shows page =
      if page.index < ((Run.after Engine.step e requests).left ending).pool.disk.blockCount then
        some (((Run.after Engine.step e requests).left ending).pool.disk.blockAt page).toArray
      else none) :
    Survives s requests w := by
  -- What the session shows at a moment, and what is shown in the end, told of the engine.
  have shown : ∀ first, first <+: requests → ∀ page bytes,
      (Run.after ask s first).shows page = some bytes ↔
        (Run.after Engine.step e first).allocator.isLive page = true ∧
          ((Run.after Engine.step e first).pool.bytesOf page).toArray = bytes := by
    intro first part page bytes
    have closed := Engine.closed_after h spans fun listed => working (part.subset listed)
    apply (runs.after first).shows_eq_some_iff
    · exact Engine.sound_after h spans first
    · exact closed.trans opened
  have moment : ∀ page, e.allocator.isLive page = true → ∃ first, first <+: requests ∧
      (Run.after Engine.step e first).allocator.isLive page = true ∧
      w.shows page = some ((Run.after Engine.step e first).pool.bytesOf page).toArray := by
    intro page live
    obtain ⟨counted, first, part, known, was⟩ :=
      Engine.place_of_saved h spans opened saved working ending live
    have shows := found page
    rw [if_pos counted, was] at shows
    exact ⟨first, part, known, shows⟩
  constructor
  · intro page seen
    obtain ⟨bytes, seen⟩ := Option.isSome_iff_exists.mp seen
    obtain ⟨live, -⟩ := (shown [] List.nil_prefix page bytes).mp seen
    obtain ⟨first, part, known, shows⟩ := moment page live
    exact ⟨first, _, part, (shown first part page _).mpr ⟨known, rfl⟩, shows⟩
  · intro page bytes seen untouched
    obtain ⟨live, rfl⟩ := (shown [] List.nil_prefix page bytes).mp seen
    obtain ⟨first, ⟨rest, rfl⟩, known, shows⟩ := moment page live
    -- Up to the moment that is shown no request has given the page new bytes.
    have kept : ∀ earlier request later, first = earlier ++ request :: later →
        ¬ Renews page request ((Run.after Engine.step e earlier).step request).1 := by
      rintro earlier request later rfl
      rw [← ((runs.after earlier).ask_eq request).1]
      exact untouched earlier request (later ++ rest) (by simp)
    obtain ⟨-, bytes⟩ := Engine.bytesOf_after h spans kept known
    rw [shows, bytes]
    rfl

/-- Whatever is asked of an engine and however its use ends, another one can be opened on its file with
pages of the same length. After a close or a drop all pages are shown as they were last, and in any
case the pages survive that were live when a sync was answered. -/
theorem restart_survives {t : EngineSession} {requests : List StoreRequest} {o : Override}
    (backing : s.backing = .file) (small : s.config.pageSize < 0x100000000)
    (started : s.start = (.done (), t)) (working : .close ∉ requests)
    (same : (o.apply s.config).pageSize = s.config.pageSize)
    (valid : (o.apply s.config).validate = .ok ()) (ending : Ending) :
    ∃ w, (Run.after ask t requests).restart o ending = (.done (), w) ∧
      (ending ≠ .crash → ∀ page bytes, (Run.after ask t requests).shows page = some bytes →
        w.shows page = some bytes) ∧
      ∀ before later u, requests = before ++ .sync :: later →
        (Run.after ask t before).ask .sync = (.done .done, u) → Survives u later w := by
  obtain ⟨-, e, runs, opens⟩ := runs_of_start backing started
  have spans := Config.spans_of_pageSize small
  have sound := opens.sound small
  have closed := (Engine.closed_after sound spans working).trans opens.fresh.closed_eq
  have final := Engine.sound_after sound spans requests
  obtain ⟨w, restarted, found⟩ :=
    restart_shows (runs.after requests) final closed small same valid ending
  refine ⟨w, restarted, ?_, ?_⟩
  · intro orderly page bytes seen
    obtain ⟨live, rfl⟩ := ((runs.after requests).shows_eq_some_iff final closed).mp seen
    obtain ⟨counted, was⟩ := Engine.saved_left final closed orderly live
    rw [found, if_pos counted, was]
  · -- The run is cut at the sync. What follows it is a run of its own from an engine that is saved.
    rintro before later u rfl synced
    rw [Run.after_append] at found
    have earlier := Engine.sound_after sound spans before
    obtain ⟨alike, moment⟩ := (runs.after before).ask_eq .sync
    rw [synced] at alike moment
    obtain ⟨opened, saved⟩ := Engine.saved_of_synced earlier spans alike.symm
    have rest : .close ∉ later := fun listed => working (by simp [listed])
    exact survives_of_saved moment (Engine.sound_step earlier spans .sync) spans opened saved rest
      found

/-- A page is issued and synced, and then the engine crashes. -/
theorem restart_survives_bare :
    ∃ t u w, start ⟨.file, .bare (.hole 1280), ⟨"", 512, 1, 2048⟩, none⟩ = (.done (), t) ∧
      (Run.after ask t [.allocate]).ask .sync = (.done .done, u) ∧
      (Run.after ask t [.allocate, .sync]).restart ⟨none, some 3, some 1024⟩ .crash = (.done (), w) ∧
      Survives u [] w := by
  let s : EngineSession := ⟨.file, .bare (.hole 1280), ⟨"", 512, 1, 2048⟩, none⟩
  have houses : s.tree.Houses s.config (.hole 1280) := FileTree.bare_houses _ rfl
  have valid : s.config.validate = .ok () := Config.validate_eq_ok_iff.mpr (by decide)
  obtain ⟨t, e, started, runs, opens⟩ := start_of_houses rfl valid houses (by decide)
  have sound := opens.sound (by decide)
  have spans : s.config.Spans := Config.spans_of_pageSize (by decide)
  obtain ⟨u, synced⟩ := (runs.after [.allocate]).ask_sync (Engine.sound_after sound spans _)
    ((Engine.closed_after sound spans (by simp)).trans opens.fresh.closed_eq)
  have valid' : (Override.apply ⟨none, some 3, some 1024⟩ s.config).validate = .ok () :=
    Config.validate_eq_ok_iff.mpr (by decide)
  have working : StoreRequest.close ∉ [.allocate, .sync] := by simp
  obtain ⟨w, restarted, -, survives⟩ :=
    restart_survives rfl (by decide) started working rfl valid' .crash
  exact ⟨t, u, w, started, synced, restarted, survives [.allocate] [] u rfl synced⟩

end EngineSession

end PagedStorage
