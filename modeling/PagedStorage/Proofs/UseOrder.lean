import PagedStorage.Proofs.Recency
import PagedStorage.Proofs.RequestRuns

/-!
# A list in the order of use

What a recency does for its callers, without times and without an index: the keys are in a list, the
one that was used longest ago first, and each is marked if it may be evicted (`UseOrder`). Whoever is
used goes to the end. The marks move nobody, and the victim is the first key with a mark.

Sorted by their times, the keys of a recency are such a list (`Recency.order`). No two keys share a
time, so there is one way to sort them, and a list is the right one if it is sorted and has every key as
it is known (`Recency.Sound.byTime_eq`). All requests are answered as by the list
(`Recency.follows_order`). The clock counts the uses, so all times fit 64 bits as long as there were
fewer than 2^64.
-/

namespace PagedStorage

open Std

/-! ### The list -/

/-- A key in its place. -/
structure UseOrder.Place (α : Type) where
  key : α
  evictable : Bool
deriving DecidableEq

/-- Keys in the order of their last use, the longest ago first. -/
abbrev UseOrder (α : Type) : Type := List (UseOrder.Place α)

/-- What can be asked of whoever keeps an order of use. -/
inductive UseRequest (α : Type) where
  | touch (key : α)
  | setEvictable (key : α) (evictable : Bool)
  | remove (key : α)
  | evict
  | size

inductive UseReply (α : Type) where
  | done
  /-- The key that was evicted, if there was one that may be. -/
  | victim (key : Option α)
  | size (n : Nat)
deriving DecidableEq

/-- The request moves the clock. -/
def UseRequest.isUse {α : Type} : UseRequest α → Bool
  | .touch _ => true
  | _ => false

namespace UseOrder

variable {α : Type} [DecidableEq α]

def remove (l : UseOrder α) (key : α) : UseOrder α := l.filter (·.key ≠ key)

/-- A key that is used goes to the end as it is. A new one may not be evicted. -/
def touch (l : UseOrder α) (key : α) : UseOrder α := l.remove key ++ [⟨key, decide (⟨key, true⟩ ∈ l)⟩]

/-- Marks a key where it stands. -/
def setEvictable (l : UseOrder α) (key : α) (evictable : Bool) : UseOrder α :=
  l.map fun place => if place.key = key then ⟨key, evictable⟩ else place

/-- The first key that may be evicted, and the list without it. -/
def evict? (l : UseOrder α) : Option (α × UseOrder α) :=
  (l.find? Place.evictable).map fun place => (place.key, l.remove place.key)

def size (l : UseOrder α) : Nat := l.countP Place.evictable

def step (l : UseOrder α) : UseRequest α → UseReply α × UseOrder α
  | .touch key => (.done, l.touch key)
  | .setEvictable key evictable => (.done, l.setEvictable key evictable)
  | .remove key => (.done, l.remove key)
  | .evict =>
    match l.evict? with
    | none => (.victim none, l)
    | some (key, rest) => (.victim (some key), rest)
  | .size => (.size l.size, l)

end UseOrder

namespace Recency

variable {α : Type} [Ord α] [TransOrd α] {r : Recency α}

def step (r : Recency α) : UseRequest α → UseReply α × Recency α
  | .touch key => (.done, r.touch key)
  | .setEvictable key evictable => (.done, r.setEvictable key evictable)
  | .remove key => (.done, r.remove key)
  | .evict =>
    match r.evict? with
    | none => (.victim none, r)
    | some (key, rest) => (.victim (some key), rest)
  | .size => (.size r.size, r)

/-! ### Sorting by time -/

/-- The keys and what is known of them, by the time of their last use. -/
def byTime (r : Recency α) : List (α × Usage) :=
  r.usage.toList.mergeSort fun e f => decide (e.2.lastUse ≤ f.2.lastUse)

/-- The keys of a recency in the order of their last use. -/
def order (r : Recency α) : UseOrder α := r.byTime.map fun e => ⟨e.1, e.2.evictable⟩

/-- Lists that are sorted by a time are equal if they have the same entries. -/
private theorem eq_of_sorted {β : Type} {time : β → Nat} {s t : List β}
    (first : s.Pairwise fun a b => time a < time b)
    (second : t.Pairwise fun a b => time a < time b) (same : ∀ b, b ∈ s ↔ b ∈ t) : s = t := by
  have nodup : ∀ {l : List β}, l.Pairwise (fun a b => time a < time b) → l.Nodup := by
    intro l sorted
    refine sorted.imp ?_
    rintro a _ earlier rfl
    exact Nat.lt_irrefl _ earlier
  apply List.Perm.eq_of_pairwise _ first second
  · exact (List.perm_ext_iff_of_nodup (nodup first) (nodup second)).mpr same
  · exact fun _ _ _ _ before after => absurd before (Nat.lt_asymm after)

variable [LawfulEqOrd α]

theorem mem_byTime {key : α} {u : Usage} : (key, u) ∈ r.byTime ↔ r.usage[key]? = some u := by
  rw [byTime, List.mem_mergeSort, ExtTreeMap.mem_toList_iff_getElem?_eq_some]

theorem mem_order {key : α} {evictable : Bool} :
    ⟨key, evictable⟩ ∈ r.order ↔ r.standing key = some evictable := by
  simp [order, standing, mem_byTime]

theorem Sound.byTime_sorted (h : r.Sound) :
    r.byTime.Pairwise fun e f => e.2.lastUse < f.2.lastUse := by
  have sorted : r.byTime.Pairwise fun e f => e.2.lastUse ≤ f.2.lastUse := by
    refine (List.pairwise_mergeSort ?_ ?_ _).imp of_decide_eq_true
    · intro a b c
      simpa only [decide_eq_true_eq] using Nat.le_trans
    · intro a b
      simpa only [Bool.or_eq_true, decide_eq_true_eq] using Nat.le_total _ _
  have apart : r.byTime.Pairwise fun e f => e.1 ≠ f.1 := by
    have distinct : r.usage.toList.Pairwise fun e f => e.1 ≠ f.1 :=
      r.usage.distinct_keys_toList.imp fun differ same => differ (compare_eq_iff_eq.mpr same)
    exact distinct.perm (List.mergeSort_perm ..).symm Ne.symm
  -- Two keys are at different times, so the order has no ties.
  refine (sorted.and apart).imp_of_mem ?_
  rintro ⟨key, u⟩ ⟨other, v⟩ first second ⟨le, differ⟩
  refine Nat.lt_of_le_of_ne le fun same => differ ?_
  exact h.lastUse_inj key other u v (mem_byTime.mp first) (mem_byTime.mp second) same

theorem Sound.byTime_eq (h : r.Sound) {s : List (α × Usage)}
    (sorted : s.Pairwise fun e f => e.2.lastUse < f.2.lastUse)
    (known : ∀ key u, (key, u) ∈ s ↔ r.usage[key]? = some u) : r.byTime = s :=
  eq_of_sorted h.byTime_sorted sorted fun e => mem_byTime.trans (known e.1 e.2).symm

theorem order_empty : (empty : Recency α).order = [] := by
  have none : (empty : Recency α).byTime = [] := Sound.empty.byTime_eq .nil (by simp [empty])
  rw [order, none, List.map_nil]

/-- The index lists the keys that may be evicted in their order. -/
theorem Sound.toList_candidates (h : r.Sound) :
    r.candidates.toList =
      (r.byTime.filter (·.2.evictable)).map fun e => (e.2.lastUse, e.1) := by
  have ordered : r.candidates.toList.Pairwise fun a b => a.1 < b.1 :=
    r.candidates.ordered_keys_toList.imp Nat.compare_eq_lt.mp
  apply eq_of_sorted ordered
  · exact List.pairwise_map.mpr (h.byTime_sorted.filter _)
  · rintro ⟨time, key⟩
    rw [ExtTreeMap.mem_toList_iff_getElem?_eq_some, h.candidate_iff, ← mem_byTime, List.mem_map]
    constructor
    · intro listed
      exact ⟨_, List.mem_filter.mpr ⟨listed, rfl⟩, rfl⟩
    · rintro ⟨⟨_, ⟨_, evictable⟩⟩, indexed, ⟨⟩⟩
      obtain ⟨listed, movable⟩ := List.mem_filter.mp indexed
      cases movable
      exact listed

/-- The first of the keys that may be evicted was used longest ago. -/
theorem Sound.isOldest_of_find? (h : r.Sound) {e : α × Usage}
    (first : r.byTime.find? (·.2.evictable) = some e) : r.IsOldest e.1 := by
  obtain ⟨key, ⟨time, evictable⟩⟩ := e
  obtain ⟨movable, before, after, parts, unmovable⟩ := List.find?_eq_some_iff_append.mp first
  have listed : (key, ⟨time, evictable⟩) ∈ r.byTime := List.mem_of_find?_eq_some first
  cases movable
  refine ⟨time, mem_byTime.mp listed, ?_⟩
  intro other u known marked
  -- Whoever stands before the first one may not be evicted, and all others were used later.
  have sorted := h.byTime_sorted
  have somewhere := mem_byTime.mpr known
  rw [parts] at sorted somewhere
  rcases List.mem_append.mp somewhere with early | late
  · simpa [marked] using unmovable _ early
  · rcases List.mem_cons.mp late with same | late
    · cases same
      exact Nat.le_refl _
    · have later := (List.pairwise_cons.mp (List.pairwise_append.mp sorted).2.1).1 _ late
      exact Nat.le_of_lt later

theorem Sound.size_order (h : r.Sound) : r.order.size = r.size := by
  calc r.order.size
      = (r.byTime.filter (·.2.evictable)).length := by
        rw [← List.countP_eq_length_filter, UseOrder.size, order, List.countP_map]
        rfl
    _ = r.candidates.toList.length := by rw [h.toList_candidates, List.length_map]
    _ = r.size := ExtTreeMap.length_toList

variable [DecidableEq α]

theorem Sound.byTime_remove (h : r.Sound) (key : α) :
    (r.remove key).byTime = r.byTime.filter fun e => e.1 ≠ key := by
  apply (h.remove key).byTime_eq (h.byTime_sorted.filter _)
  intro other u
  rw [List.mem_filter, mem_byTime, usage_remove]
  by_cases same : key = other
  · simp [same]
  · simp [same, Ne.symm same]

theorem Sound.byTime_touch (h : r.Sound) (key : α) :
    (r.touch key).byTime =
      (r.byTime.filter fun e => e.1 ≠ key) ++
        [(key, ⟨r.clock + 1, (r.standing key).getD false⟩)] := by
  apply (h.touch key).byTime_eq
  · refine List.pairwise_append.mpr ⟨h.byTime_sorted.filter _, List.pairwise_singleton .., ?_⟩
    -- The clock is past every time that is known.
    rintro ⟨other, u⟩ listed e last
    cases List.mem_singleton.mp last
    have known := mem_byTime.mp (List.mem_of_mem_filter listed)
    exact Nat.lt_succ_of_le (h.lastUse_le other u known)
  · intro other u
    rw [List.mem_append, List.mem_filter, List.mem_singleton, mem_byTime, usage_touch]
    by_cases same : key = other
    · subst same
      simp [eq_comm]
    · simp [same, Ne.symm same]

theorem Sound.byTime_setEvictable (h : r.Sound) (key : α) (evictable : Bool) :
    (r.setEvictable key evictable).byTime =
      r.byTime.map fun e => if e.1 = key then (key, { e.2 with evictable }) else e := by
  apply (h.setEvictable key evictable).byTime_eq
  · -- All times are as they were.
    refine List.pairwise_map.mpr (h.byTime_sorted.imp ?_)
    intro e f earlier
    split <;> split <;> exact earlier
  · intro other u
    rw [List.mem_map, usage_setEvictable]
    constructor
    · -- An entry of the new list comes from one of the old, which may be that of the key.
      rintro ⟨⟨this, v⟩, listed, marked⟩
      have known := mem_byTime.mp listed
      split at marked
      · next it =>
        subst it
        cases marked
        simp [known]
      · next it =>
        cases marked
        rw [if_neg (Ne.symm it), known]
    · intro known
      split at known
      · next same =>
        obtain ⟨v, found, rfl⟩ := Option.map_eq_some_iff.mp known
        exact ⟨(key, v), mem_byTime.mpr found, by simp [same]⟩
      · next apart => exact ⟨(other, u), mem_byTime.mpr known, if_neg (Ne.symm apart)⟩

/-! ### The list and the recency -/

theorem Sound.order_remove (h : r.Sound) (key : α) :
    (r.remove key).order = r.order.remove key := by
  rw [order, h.byTime_remove, UseOrder.remove, order, List.filter_map]
  rfl

theorem Sound.order_touch (h : r.Sound) (key : α) :
    (r.touch key).order = r.order.touch key := by
  -- A new key is nowhere in the list, so not with a mark either.
  have mark : (r.standing key).getD false = decide (⟨key, true⟩ ∈ r.order) := by
    rw [Bool.eq_iff_iff, decide_eq_true_iff, mem_order]
    cases r.standing key <;> simp
  calc (r.touch key).order
      = (r.remove key).order ++ [⟨key, (r.standing key).getD false⟩] := by
        rw [order, h.byTime_touch, List.map_append, order, h.byTime_remove]
        rfl
    _ = r.order.touch key := by rw [h.order_remove, mark]; rfl

theorem Sound.order_setEvictable (h : r.Sound) (key : α) (evictable : Bool) :
    (r.setEvictable key evictable).order = r.order.setEvictable key evictable := by
  rw [order, h.byTime_setEvictable, UseOrder.setEvictable, order, List.map_map, List.map_map]
  apply List.map_congr_left
  intro e listed
  simp only [Function.comp_apply]
  split <;> rfl

theorem Sound.order_evict? (h : r.Sound) :
    r.evict?.map (fun e => (e.1, e.2.order)) = r.order.evict? := by
  have found : r.order.find? UseOrder.Place.evictable =
      (r.byTime.find? (·.2.evictable)).map fun e => ⟨e.1, e.2.evictable⟩ := by
    rw [order, List.find?_map]
    rfl
  rw [UseOrder.evict?, found, Option.map_map]
  cases first : r.byTime.find? (·.2.evictable) with
  | none =>
    -- No key in the list may be evicted, so none is known that may.
    have none : r.evict? = none := by
      refine h.evict?_eq_none_iff.mpr fun key movable => ?_
      obtain ⟨u, known, marked⟩ := Option.map_eq_some_iff.mp movable
      exact List.find?_eq_none.mp first _ (mem_byTime.mpr known) marked
    rw [none]
    rfl
  | some e =>
    have evicted := h.evict?_eq_some_iff.mpr ⟨h.isOldest_of_find? first, rfl⟩
    rw [evicted]
    exact congrArg (fun rest => some (e.1, rest)) (h.order_remove e.1)

/-! ### Requests -/

theorem Sound.evict? (h : r.Sound) {key : α} {rest : Recency α}
    (evicted : r.evict? = some (key, rest)) : rest.Sound := by
  obtain ⟨-, rfl⟩ := h.evict?_eq_some_iff.mp evicted
  exact h.remove key

/-- A request is answered as by the list, and recency and list are left alike. -/
theorem Sound.step (h : r.Sound) (request : UseRequest α) :
    (r.step request).1 = (r.order.step request).1 ∧
      (r.step request).2.Sound ∧ (r.step request).2.order = (r.order.step request).2 := by
  cases request with
  | touch key => exact ⟨rfl, h.touch key, h.order_touch key⟩
  | setEvictable key evictable =>
    exact ⟨rfl, h.setEvictable key evictable, h.order_setEvictable key evictable⟩
  | remove key => exact ⟨rfl, h.remove key, h.order_remove key⟩
  | evict =>
    have same := h.order_evict?
    rw [Recency.step, UseOrder.step, ← same]
    cases evicted : r.evict? with
    | none => exact ⟨rfl, h, rfl⟩
    | some e => exact ⟨rfl, h.evict? evicted, rfl⟩
  | size => exact ⟨congrArg UseReply.size h.size_order.symm, h, rfl⟩

omit [LawfulEqOrd α] [DecidableEq α] in
/-- Only uses move the clock. -/
theorem clock_step (r : Recency α) (request : UseRequest α) :
    (r.step request).2.clock = r.clock + if request.isUse then 1 else 0 := by
  cases request with
  | touch key => exact clock_touch r key
  | setEvictable key evictable => exact clock_setEvictable r key evictable
  | remove key => exact clock_remove r key
  | evict =>
    rw [Recency.step, Recency.evict?]
    cases r.candidates.entryAtIdx? 0 <;> rfl
  | size => rfl

omit [LawfulEqOrd α] [DecidableEq α] in
theorem clock_after (r : Recency α) (requests : List (UseRequest α)) :
    (Run.after step r requests).clock = r.clock + requests.countP UseRequest.isUse := by
  induction requests generalizing r with
  | nil => rfl
  | cons request rest ih =>
    rw [Run.after, ih, clock_step, List.countP_cons]
    omega

/-- Whatever is asked, the answers are those of a list in the order of use, and the keys are left in the
order of the list. The index holds exactly the keys that may be evicted, under the times of their last
use; no two keys share a time, and no time is past the clock, which counts the uses. A key that may not be
evicted for a while finds its place again. -/
theorem follows_order (requests : List (UseRequest α)) :
    let r := Run.after step (empty : Recency α) requests
    Run.answers step (empty : Recency α) requests = Run.answers UseOrder.step [] requests ∧
      r.order = Run.after UseOrder.step [] requests ∧ r.Sound ∧
      r.clock = requests.countP UseRequest.isUse ∧
      ∀ key, r.standing key = some true → (r.setEvictable key false).setEvictable key true = r := by
  intro r
  let alike (r : Recency α) (l : UseOrder α) : Prop := r.Sound ∧ r.order = l
  have steps : ∀ (r : Recency α) l request, alike r l →
      (r.step request).1 = (UseOrder.step l request).1 ∧
        alike (r.step request).2 (UseOrder.step l request).2 := by
    rintro r _ request ⟨sound, rfl⟩
    exact sound.step request
  have start : alike empty [] := ⟨.empty, order_empty⟩
  obtain ⟨sound, ordered⟩ :=
    Run.related_after (fun r l request h => (steps r l request h).2) start requests
  refine ⟨Run.answers_eq_of_related steps start requests, ordered, sound, ?_, ?_⟩
  · rw [clock_after, empty, Nat.zero_add]
  · intro key movable
    rw [sound.setEvictable_setEvictable, setEvictable_of_standing movable]

/-- The first key is used again while it may not be evicted, so the second one is evicted. -/
theorem follows_order_pinned :
    let requests : List (UseRequest Nat) :=
      [.touch 0, .setEvictable 0 true, .touch 1, .setEvictable 1 true, .setEvictable 0 false,
        .touch 0, .setEvictable 0 true, .evict, .size]
    let r := Run.after step (empty : Recency Nat) requests
    Run.answers step empty requests =
        [.done, .done, .done, .done, .done, .done, .done, .victim (some 1), .size 1] ∧
      r.order = [⟨0, true⟩] ∧ r.Sound ∧ r.clock = 3 := by
  intro requests r
  obtain ⟨answered, ordered, sound, uses, -⟩ := follows_order requests
  exact ⟨answered.trans (by decide), ordered.trans (by decide), sound, uses⟩

end Recency

end PagedStorage
