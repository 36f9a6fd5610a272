import PagedStorage.Proofs.Opening
import PagedStorage.Proofs.Partition

/-!
# Limits to growth

Growth is limited twice: pages are issued up to a number of pages, and blocks are written up to a
number of bytes. The two limits are one. A page that is the next to be issued is refused exactly if its
block would be refused (`Allocator.refusals_agree`), and both refusals name the same end of the page.
They do not name the same limit: where the limit of the file is not a whole number of pages, who is
refused a page is told where the last of them ends.

The bytes in a refusal are computed on 64 bits, and the page that is refused ends behind the limit. So
the end may be too large for an offset even if the limit is one, and then there is no refusal but a
fault (`Allocator.refusal_faults_iff`).
-/

namespace PagedStorage

/-- What is answered when as many pages have been issued as fit the file: an error that names the end of
the page behind them, if that is an offset. -/
def Config.exhaustion (c : Config) : Failure :=
  if (c.pageLimit + 1) * c.pageSize < 0x10000000000000000 then
    .error (.allocationExhausted ((c.pageLimit + 1) * c.pageSize) (c.pageLimit * c.pageSize))
  else .fault .addOverflow

theorem Config.exhaustion_eq_fault_iff {c : Config} :
    (∃ why, c.exhaustion = .fault why) ↔ 0x10000000000000000 ≤ (c.pageLimit + 1) * c.pageSize := by
  unfold exhaustion
  split
  · next ends => simpa using ends
  · next beyond => simpa using beyond

namespace Disk

variable {pageSize : Nat} {d d' : Disk pageSize} {page : PageId} {bytes : Array UInt8}

theorem hasRoom_iff_of_behind (behind : d.blockCount ≤ page.index) :
    d.HasRoom page ↔ ¬ d.maxFileSize < (page.index + 1) * pageSize := by
  rw [HasRoom, Nat.not_lt]
  omega

/-- A block that would end behind the limit of the file is refused before anything is done. -/
theorem write_of_beyond (small : pageSize < 0x100000000) (behind : d.blockCount ≤ page.index)
    (whole : bytes.size = pageSize) (beyond : d.maxFileSize < (page.index + 1) * pageSize) :
    write page bytes d =
      .error (.error (.allocationExhausted ((page.index + 1) * pageSize) d.maxFileSize)) d := by
  have full : ¬ d.HasRoom page := fun room => (hasRoom_iff_of_behind behind).mp room beyond
  rw [d.write_eq page small whole]
  simp [Takes, refusal, spoiled, full]

/-- Only the limit is a reason to say that there is no room, whatever the operating system answers. -/
theorem write_eq_exhausted_iff {required limit : Nat} (small : pageSize < 0x100000000)
    (behind : d.blockCount ≤ page.index) (whole : bytes.size = pageSize) :
    write page bytes d = .error (.error (.allocationExhausted required limit)) d' ↔
      d.maxFileSize < (page.index + 1) * pageSize ∧
        required = (page.index + 1) * pageSize ∧ limit = d.maxFileSize ∧ d' = d := by
  by_cases beyond : d.maxFileSize < (page.index + 1) * pageSize
  · rw [write_of_beyond small behind whole beyond]
    simp [beyond, and_assoc, @eq_comm _ required, @eq_comm _ limit, @eq_comm _ d']
  · have room := (hasRoom_iff_of_behind behind).mpr beyond
    have other := refusal_ne_exhausted room required limit
    rw [d.write_eq page small whole]
    -- What is left to refuse the block is the operating system, and it gives another reason.
    split
    · split <;> simp [beyond]
    · simp [other, beyond]

/-- A block behind the end is refused if it ends behind the limit of the file, and then nothing has
changed. The operating system is not what refuses it. -/
theorem write_eq_error_iff (small : pageSize < 0x100000000)
    (next : page.index + 1 < 0x100000000) (opened : d.isOpen = true)
    (served : (d.device.writing page).isNone = true) (behind : d.blockCount ≤ page.index)
    (whole : bytes.size = pageSize) (why : Failure) :
    write page bytes d = .error why d' ↔
      d.maxFileSize < (page.index + 1) * pageSize ∧
        why = .error (.allocationExhausted ((page.index + 1) * pageSize) d.maxFileSize) ∧ d' = d := by
  by_cases beyond : d.maxFileSize < (page.index + 1) * pageSize
  · rw [write_of_beyond small behind whole beyond]
    simp [beyond, @eq_comm _ why, @eq_comm _ d']
  · have room := (hasRoom_iff_of_behind behind).mpr beyond
    rw [d.write_eq page small whole]
    simp [Takes, room, beyond, opened, served, next]

end Disk

namespace Allocator

variable {start a b : Allocator} {latest : Option Allocation} {extent pageSize maxFileSize : Nat}
  {numbered : extent < 0x100000000}

/-! ### Where no page is left -/

theorem exhausted_of_full {config : Config} (long : a.pageSize = config.pageSize)
    (limit : a.maxPages = config.pageLimit) (spans : config.Spans)
    (full : a.total = config.pageLimit) : a.exhausted = config.exhaustion := by
  have within : a.maxPages * a.pageSize < 0x10000000000000000 := by rwa [limit, long]
  rw [exhausted_eq_ite (by rwa [full, ← limit]) within, full, limit, long, Config.exhaustion]

/-- As many pages are issued as the limit allows. -/
theorem exists_runs_grown (none : start.free = ∅) (n : Nat)
    (within : start.total + n ≤ start.maxPages) :
    ∃ latest a, start.Runs latest a ∧ a.free = ∅ ∧ a.total = start.total + n := by
  -- As long as nothing is free, each page that is issued makes the extent longer by one.
  induction n with
  | zero => exact ⟨_, _, .started, none, rfl⟩
  | succ n ih =>
    obtain ⟨latest, a, runs, still, total⟩ := ih (by omega)
    have limit := (runs.tracks fun q free => by simp [none] at free).maxPages_eq
    have room : a.total < a.maxPages := by omega
    have issues := allocate_eq_ok_iff.mpr (.grown still room)
    exact ⟨_, a.grown room, runs.allocated issues, still, congrArg Nat.succ total⟩

/-- A fault ends a run exactly if it is what is answered when no page is left. -/
theorem Runs.allocate_eq_error_iff_of_made {config : Config} {why : Failure}
    (made : ofExtent 0 PageId.bound_pos config.pageSize config.maxFileSize = .ok start)
    (runs : start.Runs latest a) (spans : config.Spans) :
    allocate a = .error why b ↔
      a.free = ∅ ∧ a.total = config.pageLimit ∧ b = a ∧ why = config.exhaustion := by
  obtain ⟨-, long, limit, total_le⟩ := runs.tracks_of_made made
  rw [Nat.zero_max] at total_le
  -- The extent began at zero, so it ends at the limit at the latest.
  have full_iff : a.maxPages ≤ a.total ↔ a.total = config.pageLimit := by
    rw [limit]
    exact ⟨Nat.le_antisymm total_le, fun full => Nat.le_of_eq full.symm⟩
  rw [Allocator.allocate_eq_error_iff, full_iff]
  refine and_congr_right fun none => and_congr_right fun full => ?_
  rw [exhausted_of_full long limit spans full, and_comm]

/-- An allocator for an empty file ends with a fault in some run exactly if the page behind its limit
ends behind all offsets. Then it is the only fault, and it is met by whoever asks for a page when none is
left, as happens to every allocator that is asked often enough. -/
theorem refusal_faults_iff {config : Config} (valid : config.validate = .ok ())
    (limit_lt : config.maxFileSize < 0x10000000000000000) :
    ∃ start, ofExtent 0 PageId.bound_pos config.pageSize config.maxFileSize = .ok start ∧
      ((∃ latest a fault b, start.Runs latest a ∧ allocate a = .error (.fault fault) b) ↔
        0x10000000000000000 ≤ (config.pageLimit + 1) * config.pageSize) ∧
      (∃ latest a, start.Runs latest a ∧ a.free = ∅ ∧ a.total = config.pageLimit) ∧
      ∀ latest a, start.Runs latest a →
        (∀ why b, allocate a = .error why b ↔
          a.free = ∅ ∧ a.total = config.pageLimit ∧ b = a ∧ why = config.exhaustion) ∧
        ∀ page why b, deallocate page a = .error why b → why = .error (.invalidPageId page) := by
  obtain ⟨⟨long, -⟩, -, -⟩ := Config.validate_eq_ok_iff.mp valid
  have spans := Config.spans_of_maxFileSize limit_lt
  have numbered : config.pageLimit < 0x100000000 := Nat.lt_succ_of_le (Nat.min_le_right ..)
  let start : Allocator := ⟨config.pageSize, config.pageLimit, 0, ∅, numbered, PageId.bound_pos⟩
  have made : ofExtent 0 PageId.bound_pos config.pageSize config.maxFileSize = .ok start :=
    ofExtent_eq_ok_iff.mpr ⟨long, rfl, rfl, rfl, rfl⟩
  obtain ⟨last, full, runs, none, grown⟩ :=
    exists_runs_grown (show start.free = ∅ from rfl) config.pageLimit (Nat.zero_add _).le
  have total : full.total = config.pageLimit := grown.trans (Nat.zero_add _)
  refine ⟨start, made, ?faults, ⟨last, full, runs, none, total⟩, ?answers⟩
  case faults =>
    rw [← Config.exhaustion_eq_fault_iff]
    constructor
    · rintro ⟨latest, a, fault, b, runs, failed⟩
      obtain ⟨-, -, -, why⟩ := (runs.allocate_eq_error_iff_of_made made spans).mp failed
      exact ⟨fault, why.symm⟩
    · rintro ⟨fault, why⟩
      have failed := (runs.allocate_eq_error_iff_of_made made spans).mpr ⟨none, total, rfl, why.symm⟩
      exact ⟨last, full, fault, full, runs, failed⟩
  case answers =>
    intro latest a runs
    refine ⟨fun why b => runs.allocate_eq_error_iff_of_made made spans, fun page why b failed => ?_⟩
    rw [deallocate_eq] at failed
    split at failed
    · cases failed
    · cases failed
      rfl

/-- No page of the default configuration is as far behind. -/
theorem refusal_faults_iff_default :
    let config : Config := {}
    config.validate = .ok () ∧
      ∃ start, ofExtent 0 PageId.bound_pos config.pageSize config.maxFileSize = .ok start ∧
        ∀ latest a, start.Runs latest a → ∀ fault b, allocate a ≠ .error (.fault fault) b := by
  intro config
  have valid : config.validate = .ok () := by decide
  obtain ⟨start, made, faults_iff, -⟩ := refusal_faults_iff valid (by decide)
  refine ⟨valid, start, made, fun latest a runs fault b failed => ?_⟩
  have beyond := faults_iff.mp ⟨latest, a, fault, b, runs, failed⟩
  exact absurd beyond (by decide)

/-- A file that may hold one page of 2^63 bytes is accepted, and the second page is a fault. -/
theorem second_page_faults :
    let config : Config := { pageSize := 0x8000000000000000, maxFileSize := 0x8000000000000000 }
    config.validate = .ok () ∧
      ∃ start issued a,
        ofExtent 0 PageId.bound_pos config.pageSize config.maxFileSize = .ok start ∧
          allocate start = .ok issued a ∧ allocate a = .error (.fault .addOverflow) a := by
  intro config
  let start : Allocator := ⟨0x8000000000000000, 1, 0, ∅, by decide, by decide⟩
  have made : ofExtent 0 PageId.bound_pos config.pageSize config.maxFileSize = .ok start :=
    ofExtent_eq_ok_iff.mpr ⟨by decide, rfl, by decide, rfl, rfl⟩
  have room : start.total < start.maxPages := Nat.one_pos
  have beyond : (start.grown room).exhausted = config.exhaustion :=
    exhausted_of_full rfl (show 1 = config.pageLimit by decide)
      (Config.spans_of_maxFileSize (by decide)) (show 1 = config.pageLimit by decide)
  have fault : config.exhaustion = .fault .addOverflow := if_neg (by decide)
  have issued := allocate_eq_ok_iff.mpr (Issues.grown (a := start) rfl room)
  have failed := allocate_eq_error_iff.mpr ⟨rfl, Nat.le_refl 1, (beyond.trans fault).symm, rfl⟩
  exact ⟨by decide, start, _, start.grown room, made, issued, failed⟩

/-! ### One limit -/

/-- The page behind the extent is refused if its end is behind the limit of the file. The refusal names
the end of the last page that is not. -/
theorem Runs.allocate_eq_error_iff_of_numbered
    (made : ofExtent extent numbered pageSize maxFileSize = .ok start)
    (runs : start.Runs latest a) (long : 0 < pageSize) (small : pageSize < 0x100000000)
    (none : a.free = ∅) (next : a.total + 1 < 0x100000000) (why : Failure) (b : Allocator) :
    allocate a = .error why b ↔
      maxFileSize < (a.total + 1) * pageSize ∧
        why = .error (.allocationExhausted ((a.total + 1) * pageSize)
          (maxFileSize / pageSize * pageSize)) ∧ b = a := by
  obtain ⟨-, length, most, -⟩ := runs.tracks_of_made made
  -- The page has a number, so what is in its way is the limit of the file.
  have full_iff : a.maxPages ≤ a.total ↔ maxFileSize < (a.total + 1) * pageSize := by
    rw [← Nat.div_lt_iff_lt_mul long, most]
    omega
  rw [Allocator.allocate_eq_error_iff, full_iff, exhausted_eq length small]
  simp only [none, true_and]
  refine and_congr_right fun beyond => ?_
  have limit : a.maxPages = maxFileSize / pageSize := by
    rw [← full_iff] at beyond
    omega
  rw [limit]

/-- A page that is the next to be issued is refused exactly if its block would be refused for want of
room, and that is the only reason to refuse it if the operating system takes it. Both refusals name the
end of the page, and they name the same limit if the limit of the file is a whole number of pages. -/
theorem refusals_agree {d : Disk pageSize} {page : PageId} {bytes : Array UInt8}
    (long : 0 < pageSize) (small : pageSize < 0x100000000)
    (made : ofExtent extent numbered pageSize d.maxFileSize = .ok start)
    (runs : start.Runs latest a) (none : a.free = ∅) (edge : a.total = page.index)
    (next : page.index + 1 < 0x100000000) (opened : d.isOpen = true)
    (behind : d.blockCount ≤ page.index) (whole : bytes.size = pageSize) :
    ((∃ why b, allocate a = .error why b) ↔
        ∃ required limit d',
          Disk.write page bytes d = .error (.error (.allocationExhausted required limit)) d') ∧
      ((d.device.writing page).isNone = true →
        ((∃ why b, allocate a = .error why b) ↔
          ∃ why d', Disk.write page bytes d = .error why d')) ∧
      ∀ why b why' d', allocate a = .error why b → Disk.write page bytes d = .error why' d' →
        why = .error (.allocationExhausted ((page.index + 1) * pageSize)
          (d.maxFileSize / pageSize * pageSize)) ∧
        why' = .error (.allocationExhausted ((page.index + 1) * pageSize) d.maxFileSize) ∧
        (why = why' ↔ pageSize ∣ d.maxFileSize) := by
  have issuing := runs.allocate_eq_error_iff_of_numbered made long small none (edge ▸ next)
  rw [edge] at issuing
  have refused_iff : (∃ why b, allocate a = .error why b) ↔
      d.maxFileSize < (page.index + 1) * pageSize := by
    simp only [issuing, exists_and_left, exists_eq, and_true]
  refine ⟨?exhausted, ?served, ?alike⟩
  case exhausted =>
    simp only [refused_iff, Disk.write_eq_exhausted_iff small behind whole, exists_and_left,
      exists_eq, and_true]
  case served =>
    intro served
    simp only [refused_iff, Disk.write_eq_error_iff small next opened served behind whole,
      exists_and_left, exists_eq, and_true]
  case alike =>
    -- The end of the page is behind the limit, so the block is refused whatever the file would answer.
    intro why b why' d' refused declined
    obtain ⟨beyond, rfl, -⟩ := (issuing why b).mp refused
    rw [Disk.write_of_beyond small behind whole beyond] at declined
    cases declined
    refine ⟨rfl, rfl, ?_⟩
    rw [Nat.dvd_iff_div_mul_eq]
    simp

/-- A file may hold one page and most of another. The first page is issued, and both are asked for the
second. -/
theorem refusals_agree_odd :
    let d : Disk 512 := .ofNew 1000
    let page : PageId := ⟨1, by decide⟩
    let zeros : Array UInt8 := Array.replicate 512 0
    ∃ a, ofExtent 1 (by decide) 512 1000 = .ok a ∧
      ((∃ why b, allocate a = .error why b) ↔ ∃ why d', Disk.write page zeros d = .error why d') ∧
      ∀ why b why' d', allocate a = .error why b → Disk.write page zeros d = .error why' d' →
        why = .error (.allocationExhausted 1024 512) ∧
        why' = .error (.allocationExhausted 1024 1000) ∧ (why = why' ↔ 512 ∣ 1000) := by
  intro d page zeros
  have next : page.index + 1 < 0x100000000 := by decide
  have behind : d.blockCount ≤ page.index := Nat.zero_le 1
  have whole : zeros.size = 512 := Array.size_replicate
  have required : (page.index + 1) * 512 = 1024 := by decide
  obtain ⟨a, made⟩ : ∃ a, ofExtent 1 (by decide) 512 d.maxFileSize = .ok a := ⟨_, rfl⟩
  obtain ⟨-, -, -, total, none⟩ := ofExtent_eq_ok_iff.mp made
  have fitting : d.maxFileSize / 512 * 512 = 512 := by decide
  have agree := refusals_agree (by decide) (by decide) made .started none total next rfl behind whole
  rw [required, fitting] at agree
  exact ⟨a, made, agree.2.1 rfl, agree.2.2⟩

/-- Who is refused the second page is told a limit that nobody has set. -/
theorem refusals_differ :
    let d : Disk 512 := .ofNew 1000
    let page : PageId := ⟨1, by decide⟩
    let zeros : Array UInt8 := Array.replicate 512 0
    ∃ a, ofExtent 1 (by decide) 512 1000 = .ok a ∧
      allocate a = .error (.error (.allocationExhausted 1024 512)) a ∧
      Disk.write page zeros d = .error (.error (.allocationExhausted 1024 1000)) d := by
  intro d page zeros
  have next : page.index + 1 < 0x100000000 := by decide
  have behind : d.blockCount ≤ page.index := Nat.zero_le 1
  have whole : zeros.size = 512 := Array.size_replicate
  have required : (page.index + 1) * 512 = 1024 := by decide
  obtain ⟨a, made⟩ : ∃ a, ofExtent 1 (by decide) 512 1000 = .ok a := ⟨_, rfl⟩
  obtain ⟨-, -, -, total, none⟩ := ofExtent_eq_ok_iff.mp made
  have edge : a.total = page.index := total
  have refused := Runs.started.allocate_eq_error_iff_of_numbered made (by decide) (by decide) none
    (edge ▸ next)
  have declined := Disk.write_of_beyond (d := d) (by decide) behind whole (by decide)
  rw [edge] at refused
  rw [required] at refused declined
  exact ⟨a, made, (refused _ _).mpr ⟨by decide, rfl, rfl⟩, declined⟩

end Allocator

end PagedStorage
