import Std.Data.ExtTreeMap

/-!
# Recency

Who was used longest ago? Each key carries the time of its last use on a clock that moves with every
use, so no two keys share a time. The keys that may be evicted are indexed by that time, and the
victim is the first of the index. A key that may not be evicted keeps its time, and so finds its
place again when it becomes evictable.
-/

namespace PagedStorage

/-- What is known of one key. -/
structure Usage where
  lastUse : Nat
  evictable : Bool
deriving DecidableEq

structure Recency (α : Type) [Ord α] where
  clock : Nat
  usage : Std.ExtTreeMap α Usage
  /-- The evictable keys by the time of their last use. -/
  candidates : Std.ExtTreeMap Nat α

namespace Recency

variable {α : Type} [Ord α]

def empty : Recency α := ⟨0, ∅, ∅⟩

/-- The number of evictable keys. -/
def size (r : Recency α) : Nat := r.candidates.size

variable [Std.TransOrd α]

/-- Uses a key. A new key starts out not evictable. -/
def touch (r : Recency α) (key : α) : Recency α :=
  let now := r.clock + 1
  match r.usage[key]? with
  | none => { r with clock := now, usage := r.usage.insert key ⟨now, false⟩ }
  | some u =>
    { clock := now
      usage := r.usage.insert key { u with lastUse := now }
      candidates :=
        if u.evictable then (r.candidates.erase u.lastUse).insert now key else r.candidates }

/-- Says whether a key may be evicted. An unknown key is left unknown. -/
def setEvictable (r : Recency α) (key : α) (evictable : Bool) : Recency α :=
  match r.usage[key]? with
  | none => r
  | some u =>
    -- The time of the last use stays, and with it the place among the evictable keys.
    if u.evictable = evictable then r
    else
      { r with
        usage := r.usage.insert key { u with evictable }
        candidates :=
          if evictable then r.candidates.insert u.lastUse key else r.candidates.erase u.lastUse }

/-- Forgets the evictable key that was used longest ago and returns it. -/
def evict? (r : Recency α) : Option (α × Recency α) :=
  match r.candidates.entryAtIdx? 0 with
  | none => none
  | some (time, key) =>
    some (key, { r with usage := r.usage.erase key, candidates := r.candidates.erase time })

/-- Forgets a key. -/
def remove (r : Recency α) (key : α) : Recency α :=
  match r.usage[key]? with
  | none => r
  | some u =>
    { r with
      usage := r.usage.erase key
      candidates := if u.evictable then r.candidates.erase u.lastUse else r.candidates }

end Recency

end PagedStorage
