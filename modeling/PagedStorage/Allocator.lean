import Std.Data.ExtTreeSet
import PagedStorage.Action

/-!
# Which pages are live

Pages below the extent `total` have been issued. An issued page is live or free, never both, and the
lowest free page is issued again before the extent grows. Growth stops at the number of whole pages
that fit the file's limit, and in any case where page numbers end. The check that guards reading and
writing passes exactly the live pages (`checkLive_eq_ok_iff`).
-/

namespace PagedStorage

/-- A page that was just issued. -/
structure Allocation where
  page : PageId
  /-- The page came back from the free pages. -/
  recycled : Bool
deriving DecidableEq

structure Allocator where
  pageSize : Nat
  /-- Where the extent stops growing. -/
  maxPages : Nat
  /-- The extent: the number of pages that have been issued. -/
  total : Nat
  /-- The issued pages that were given back. -/
  free : Std.ExtTreeSet PageId
  maxPages_lt : maxPages < 0x100000000
  total_lt : total < 0x100000000

namespace Allocator

/-- Every page of a file that holds `total` pages starts live. -/
def ofExtent (total : Nat) (h : total < 0x100000000) (pageSize maxFileSize : Nat) :
    Except Fault Allocator := do
  let fitting ← Checked.div maxFileSize pageSize
  return ⟨pageSize, min fitting 0xffffffff, total, ∅, by omega, h⟩

/-- The page right behind the extent. -/
def frontier (a : Allocator) : PageId := ⟨a.total, a.total_lt⟩

def isLive (a : Allocator) (page : PageId) : Bool :=
  page.index < a.total && !a.free.contains page

/-- A page that may be read and written is live: it was issued and is not free. -/
def checkLive (a : Allocator) (page : PageId) : Except StoreError Unit :=
  if a.total ≤ page.index then .error (.invalidPageId page)
  else if a.free.contains page then .error (.pageNotFound page)
  else .ok ()

/-- Issues the lowest free page, or else the page behind the extent. The refusal names the bytes the
file would need and the bytes of all pages it may hold. -/
def allocate : Action Allocator Allocation := do
  let a ← get
  match a.free.atIdx? 0 with
  | some page =>
    set { a with free := a.free.erase page }
    return ⟨page, true⟩
  | none =>
    if h : a.total < a.maxPages then
      set { a with total := a.total + 1, total_lt := Nat.lt_of_le_of_lt h a.maxPages_lt }
      return ⟨a.frontier, false⟩
    else
      -- The two sizes are worked out only for the message, but on 64 bits like all others.
      let required ← Action.checked (a.frontier.endOffset a.pageSize)
      let limit ← Action.checked (Checked.mul a.maxPages a.pageSize)
      Action.reject (.allocationExhausted required limit)

/-- Gives a live page back. -/
def deallocate (page : PageId) : Action Allocator Unit := do
  let a ← get
  if a.isLive page then set { a with free := a.free.insert page }
  else Action.reject (.invalidPageId page)

/-- Takes an allocation back. The extent shrinks only if the page still ends it. -/
def rollback (allocation : Allocation) : Action Allocator Unit := do
  let a ← get
  let page := allocation.page
  -- A page that came from the free ones returns there, whatever was issued since.
  if allocation.recycled then set { a with free := a.free.insert page }
  else if page.index + 1 = 0x100000000 then throw (.fault .addOverflow)
  else if page.index + 1 = a.total then
    set { a with total := page.index, total_lt := page.index_lt }

/-- The number of live pages. -/
def liveCount (a : Allocator) : Except Fault Nat := Checked.sub a.total a.free.size

theorem isLive_iff {a : Allocator} {page : PageId} :
    a.isLive page = true ↔ page.index < a.total ∧ a.free.contains page = false := by
  rw [isLive, Bool.and_eq_true, Bool.not_eq_true', decide_eq_true_iff]

/-- The check passes exactly the live pages. -/
theorem checkLive_eq_ok_iff {a : Allocator} {page : PageId} :
    a.checkLive page = .ok () ↔ a.isLive page = true := by
  rw [isLive_iff, checkLive]
  split
  · next h => exact ⟨(nomatch ·), fun e => absurd e.1 (Nat.not_lt.mpr h)⟩
  · next h =>
    split
    · next hf => exact ⟨(nomatch ·), fun e => Bool.noConfusion (hf.symm.trans e.2)⟩
    · next hf => exact ⟨fun _ => ⟨Nat.lt_of_not_le h, Bool.eq_false_iff.mpr hf⟩, fun _ => rfl⟩

end Allocator

end PagedStorage
