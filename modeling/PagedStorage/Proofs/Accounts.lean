import PagedStorage.Proofs.Footprints

/-!
# What is counted

A pool counts as it goes: a miss before it looks for a frame, an eviction once the victim has left, a
read when the block has come, a write when the bytes are in the file. A request can fail between any
two of these. `Accounts` says what is added to the counts on the way from one state to another, apart
from the writes. Pages that come in are not counted by a pool, but they do not get lost either: each is
still resident, or it was evicted or dropped.
-/

namespace PagedStorage

/-- What is added to the counts of a pool. -/
structure Charge where
  hits : Nat := 0
  misses : Nat := 0
  reads : Nat := 0
  drops : Nat := 0
  /-- Pages that have come into a frame. -/
  entries : Nat := 0

instance : Add Charge :=
  ⟨fun c d => ⟨c.hits + d.hits, c.misses + d.misses, c.reads + d.reads, c.drops + d.drops,
    c.entries + d.entries⟩⟩

namespace Pool

variable {size pageSize misses n : Nat} {s t u : Pool size pageSize} {f : Fin size}
  {page : PageId} {c d : Charge} {fill : Fill pageSize}

/-! ### Accounts -/

structure Accounts (s t : Pool size pageSize) (c : Charge) : Prop where
  hits : t.counters.hits = s.counters.hits + c.hits
  misses : t.counters.misses = s.counters.misses + c.misses
  reads : t.counters.reads = s.counters.reads + c.reads
  drops : t.counters.invalidations = s.counters.invalidations + c.drops
  /-- Whatever has come in is still there, or it was evicted or dropped. -/
  entries : t.counters.evictions + t.counters.invalidations + t.residentCount =
    s.counters.evictions + s.counters.invalidations + s.residentCount + c.entries

namespace Accounts

theorem refl (s : Pool size pageSize) : s.Accounts s {} := ⟨rfl, rfl, rfl, rfl, rfl⟩

theorem trans (first : s.Accounts t c) (second : t.Accounts u d) : s.Accounts u (c + d) := by
  constructor
  case hits => rw [second.hits, first.hits, Nat.add_assoc]; rfl
  case misses => rw [second.misses, first.misses, Nat.add_assoc]; rfl
  case reads => rw [second.reads, first.reads, Nat.add_assoc]; rfl
  case drops => rw [second.drops, first.drops, Nat.add_assoc]; rfl
  case entries => rw [second.entries, first.entries, Nat.add_assoc]; rfl

/-- Where no page moves and nothing but writes is counted, the accounts are the same. -/
theorem still (table : t.table = s.table)
    (counters : ∃ writes, t.counters = { s.counters with writes }) : s.Accounts t {} := by
  obtain ⟨writes, counters⟩ := counters
  constructor
  case entries =>
    simp only [residentCount, table, counters]
    rfl
  all_goals
    rw [counters]
    rfl

theorem missed (s : Pool size pageSize) (misses : Nat) :
    s.Accounts (s.missed misses) { misses } := ⟨rfl, rfl, rfl, rfl, rfl⟩

theorem saved (s : Pool size pageSize) (f : Fin size) (page : PageId) :
    s.Accounts (s.saved f page) {} := by
  apply still (table_saved s f page)
  unfold Pool.saved
  split
  · exact ⟨_, rfl⟩
  · exact ⟨_, rfl⟩

theorem savedAll (order : List (PageId × Fin size)) (s : Pool size pageSize) :
    s.Accounts (Pool.savedAll order s).2 {} :=
  savedAll_keeps (R := fun s t => s.Accounts t {}) refl (fun _ _ _ => trans) saved
    (fun _ _ _ => still rfl ⟨_, rfl⟩) order s

/-- A page that leaves has its frame freed. -/
theorem residentCount_vacated (h : s.SoundAt n) (held : (s.frame f).page = some page)
    (unpinned : (s.frame f).pins = 0) :
    (s.vacated f page).residentCount + 1 = s.residentCount := by
  have before := h.freeCount_add_residentCount
  have after := (h.vacated held unpinned).freeCount_add_residentCount
  have freed : (s.vacated f page).freeCount = s.freeCount + 1 := rfl
  omega

theorem makesRoom (h : s.SoundAt n) (room : s.MakesRoom t f) : s.Accounts t {} := by
  cases room with
  | free => exact refl s
  | @evict _ victim full oldest held saves =>
    have next := (h.addressable f victim held).1
    have there : ((s.saved f victim).frame f).page = some victim := by rwa [page_saved]
    have loose : ((s.saved f victim).frame f).pins = 0 := by
      rw [(Spares.saved s f victim).pins]
      exact (h.page_of_standing oldest.standing).2
    have left := residentCount_vacated (h.saved held) there loose
    -- The page that is counted as evicted is the one that is not there any more.
    have evicted : (s.saved f victim).Accounts
        (((s.saved f victim).vacated f victim).tallied evictionCounted) {} := by
      have balance : ∀ a b m n : Nat, m + 1 = n → a + 1 + b + m = a + b + n := by omega
      exact ⟨rfl, rfl, rfl, rfl, balance _ _ _ _ left⟩
    exact (saved s f victim).trans evicted

theorem dropped (h : s.SoundAt n) (held : (s.frame f).page = some page)
    (unpinned : (s.frame f).pins = 0) :
    s.Accounts ((s.vacated f page).tallied dropCounted) { drops := 1 } := by
  have left := residentCount_vacated h held unpinned
  have balance : ∀ a b m n : Nat, m + 1 = n → a + (b + 1) + m = a + b + n := by omega
  exact ⟨rfl, rfl, rfl, rfl, balance _ _ _ _ left⟩

/-- A page that enters takes a frame, and its block is read if it does not bring its bytes. -/
theorem admitted (h : s.SoundAt n) (head : s.free = f :: s.free.tail) (absent : s.table[page]? = none)
    (addressable : page.Addressable n) (bytes : Block pageSize) (dirty : Bool) :
    s.Accounts ((s.admitted f page bytes dirty).tallied (readCounted dirty))
      { reads := if dirty then 0 else 1, entries := 1 } := by
  have before := h.freeCount_add_residentCount
  have after := (h.admitted head absent addressable bytes dirty).freeCount_add_residentCount
  have taken : s.freeCount = (s.admitted f page bytes dirty).freeCount + 1 := by
    rw [freeCount, head]
    rfl
  have entered : (s.admitted f page bytes dirty).residentCount = s.residentCount + 1 := by omega
  have balance : ∀ a m n : Nat, n = m + 1 → a + n = a + m + 1 := by omega
  cases dirty with
  | false => exact ⟨rfl, rfl, rfl, rfl, balance _ _ _ entered⟩
  | true => exact ⟨rfl, rfl, rfl, rfl, balance _ _ _ entered⟩

end Accounts

/-- How many blocks are read to bring a page in. -/
def Fill.reads : Fill pageSize → Nat
  | .load => 1
  | .put _ => 0

theorem Fill.reads_of_source {d : Disk pageSize} {bytes : Block pageSize} {dirty : Bool}
    (source : fill.source d page = .ok (bytes, dirty)) :
    fill.reads = if dirty then 0 else 1 := by
  cases fill with
  | put =>
    cases source
    rfl
  | load =>
    obtain ⟨-, rfl⟩ := source_load_eq_ok_iff.mp source
    rfl

/-- A miss is counted whatever comes of it, and all else only if the page comes in. -/
def Fill.charge (fill : Fill pageSize) (misses : Nat) : Except StoreError (Fin size) → Charge
  | .ok _ => { misses, reads := fill.reads, entries := 1 }
  | .error _ => { misses }

theorem Admits.accounts {r : Except StoreError (Fin size)} (h : s.SoundAt n)
    (absent : s.table[page]? = none) (addressable : page.Addressable n)
    (admits : (s.missed misses).Admits page fill r t) : s.Accounts t (fill.charge misses r) := by
  have counted : (s.missed misses).SoundAt n := h.tallied _
  have missed := Accounts.missed s misses
  cases admits with
  | full lacks =>
    cases lacks with
    | saturated => exact missed
    | @stuck f victim =>
      have touched : (s.missed misses).Accounts
          (((s.missed misses).spoiled f victim).touched f) {} := .still rfl ⟨_, rfl⟩
      exact missed.trans touched
  | unread room => exact missed.trans (.makesRoom counted room)
  | @enters f u bytes dirty room source =>
    have made := missed.trans (.makesRoom counted room)
    have entered := Accounts.admitted (room.sound counted) room.head
      (room.absent_of_absent absent) addressable bytes dirty
    rw [Fill.charge, Fill.reads_of_source source]
    cases dirty with
    | false => exact made.trans entered
    | true => exact made.trans entered

end Pool

end PagedStorage
