import PagedStorage.Recency

/-!
# The order of use

A recency is sound when its index holds exactly the evictable keys under the times of their last
use, and no two keys share a time. Every operation keeps it sound, and then the index adds nothing
to what is known of the keys: two sound recencies with the same clock and the same keys are equal
(`Sound.eq_of_usage`). The victim of an eviction is the evictable key with the earliest last use
(`evict?_eq_some_iff`), and there is none only if no key may be evicted (`evict?_eq_none_iff`).
-/

namespace PagedStorage.Recency

open Std

/-! ### The first entry of an ordered map

The library tells of the first key of a map only. These lemmas carry what it tells over to the first
entry, through the tree that a map is made of.
-/

/-- The first entry of a tree is the one at its left end. -/
private theorem entryAtIdx?_zero_of_balanced {β : Type} {m : DTreeMap.Internal.Impl Nat fun _ => β}
    (balanced : m.Balanced) :
    DTreeMap.Internal.Impl.Const.entryAtIdx? m 0 = DTreeMap.Internal.Impl.Const.minEntry? m := by
  -- The first entry of a tree is the first of its left subtree, or its root if that is empty.
  induction balanced with
  | leaf => simp [DTreeMap.Internal.Impl.Const.entryAtIdx?, DTreeMap.Internal.Impl.Const.minEntry?]
  | @inner size key value l r left right _ _ first =>
    cases left with
    | leaf =>
      simp [DTreeMap.Internal.Impl.Const.entryAtIdx?, DTreeMap.Internal.Impl.Const.minEntry?,
        DTreeMap.Internal.Impl.size]
    | @inner more key value ll lr _ _ _ sized =>
      have further : compare 0 (DTreeMap.Internal.Impl.inner more key value ll lr).size = .lt := by
        rw [DTreeMap.Internal.Impl.size, Nat.compare_eq_lt]
        omega
      rw [DTreeMap.Internal.Impl.Const.minEntry?, ← first,
        DTreeMap.Internal.Impl.Const.entryAtIdx?, further]

private theorem entryAtIdx?_zero {β : Type} (m : ExtTreeMap Nat β) :
    m.entryAtIdx? 0 = m.minEntry? := by
  obtain ⟨m⟩ := m
  induction m using ExtDTreeMap.inductionOn with
  | mk m => exact entryAtIdx?_zero_of_balanced m.wf.balanced

private theorem minKey?_eq_map_first {β : Type} (m : ExtTreeMap Nat β) :
    m.minKey? = m.minEntry?.map Prod.fst := by
  obtain ⟨m⟩ := m
  induction m using ExtDTreeMap.inductionOn with
  | mk m =>
    show m.inner.minKey? = (DTreeMap.Internal.Impl.Const.minEntry? m.inner).map Prod.fst
    rw [DTreeMap.Internal.Impl.Const.minEntry?_eq_minEntry?,
      DTreeMap.Internal.Impl.minKey?_eq_minEntry?_map_fst]
    cases m.inner.minEntry? <;> rfl

private theorem getElem?_of_first {β : Type} {m : ExtTreeMap Nat β} {k : Nat} {v : β}
    (h : m.minEntry? = some (k, v)) : m[k]? = some v := by
  rw [← ExtTreeMap.mem_toList_iff_getElem?_eq_some]
  obtain ⟨m⟩ := m
  induction m using ExtDTreeMap.inductionOn with
  | mk m =>
    have first : DTreeMap.Internal.Impl.Const.minEntry? m.inner = some (k, v) := h
    rw [DTreeMap.Internal.Impl.Const.minEntry?_eq_minEntry?,
      DTreeMap.Internal.Impl.minEntry?_eq_minEntry? m.wf.ordered] at first
    obtain ⟨entry, found, named⟩ := Option.map_eq_some_iff.mp first
    cases named
    show _ ∈ DTreeMap.Internal.Impl.Const.toList m.inner
    rw [DTreeMap.Internal.Impl.Const.toList_eq_toListModel_map]
    -- The first entry is one of those that are listed, and these are the entries that are held.
    have listed := (Std.Internal.List.minEntry?_eq_some_iff _ m.wf.ordered.distinctKeys).mp found
    exact List.mem_map_of_mem (f := fun e : (_ : Nat) × β => (e.1, e.2)) listed.1

private theorem minEntry?_eq_none_iff {β : Type} {m : ExtTreeMap Nat β} :
    m.minEntry? = none ↔ ∀ k : Nat, m[k]? = none := by
  rw [← Option.map_eq_none_iff (f := Prod.fst), ← minKey?_eq_map_first,
    ExtTreeMap.minKey?_eq_none_iff]
  constructor
  · rintro rfl k
    exact ExtTreeMap.getElem?_empty
  · intro h
    exact ExtTreeMap.ext_getElem? fun k => by simp [h]

private theorem minKey?_le {β : Type} {m : ExtTreeMap Nat β} {k j : Nat} {w : β}
    (first : m.minKey? = some k) (held : m[j]? = some w) : k ≤ j := by
  have kept : j ∈ m := by simp [ExtTreeMap.mem_iff_isSome_getElem?, held]
  exact Nat.isLE_compare.mp ((ExtTreeMap.minKey?_eq_some_iff_mem_and_forall.mp first).2 j kept)

private theorem minEntry?_eq_some_iff {β : Type} {m : ExtTreeMap Nat β} {k : Nat} {v : β} :
    m.minEntry? = some (k, v) ↔ m[k]? = some v ∧ ∀ (j : Nat) (w : β), m[j]? = some w → k ≤ j := by
  constructor
  · intro h
    have least : m.minKey? = some k := by rw [minKey?_eq_map_first, h]; rfl
    exact ⟨getElem?_of_first h, fun j w held => minKey?_le least held⟩
  · -- Something is held, so there is a first entry, and two least keys are the same.
    rintro ⟨held, least⟩
    cases first : m.minEntry? with
    | none => simp [minEntry?_eq_none_iff.mp first] at held
    | some entry =>
      obtain ⟨j, w⟩ := entry
      have found := getElem?_of_first first
      have key : m.minKey? = some j := by rw [minKey?_eq_map_first, first]; rfl
      obtain rfl : j = k := Nat.le_antisymm (minKey?_le key held) (least j w found)
      rw [held] at found
      cases found
      rfl

/-! ### What is known of the keys -/

variable {α : Type} [Ord α] [TransOrd α] {r : Recency α}

/-- Whether a key is known, and then whether it may be evicted. -/
def standing (r : Recency α) (key : α) : Option Bool := r.usage[key]?.map Usage.evictable

structure Sound (r : Recency α) : Prop where
  candidate_iff : ∀ (time : Nat) (key : α),
    r.candidates[time]? = some key ↔ r.usage[key]? = some ⟨time, true⟩
  lastUse_le : ∀ (key : α) (u : Usage), r.usage[key]? = some u → u.lastUse ≤ r.clock
  lastUse_inj : ∀ (key other : α) (u v : Usage), r.usage[key]? = some u →
    r.usage[other]? = some v → u.lastUse = v.lastUse → key = other

theorem Sound.empty : (empty : Recency α).Sound := by
  constructor <;> simp [Recency.empty]

/-- Saying what is so changes nothing. -/
theorem setEvictable_of_standing {key : α} {a : Bool} (known : r.standing key = some a) :
    r.setEvictable key a = r := by
  obtain ⟨u, found, rfl⟩ := Option.map_eq_some_iff.mp known
  simp [Recency.setEvictable, found]

/-! ### The victim -/

/-- The key may be evicted, and no such key was used longer ago. -/
def IsOldest (r : Recency α) (key : α) : Prop :=
  ∃ time, r.usage[key]? = some ⟨time, true⟩ ∧
    ∀ (other : α) (u : Usage), r.usage[other]? = some u → u.evictable = true → time ≤ u.lastUse

theorem IsOldest.standing {key : α} (h : r.IsOldest key) : r.standing key = some true := by
  obtain ⟨time, known, -⟩ := h
  rw [Recency.standing, known]
  rfl

theorem Sound.evict?_eq_none_iff (h : r.Sound) :
    r.evict? = none ↔ ∀ key, r.standing key ≠ some true := by
  rw [evict?, entryAtIdx?_zero]
  cases first : r.candidates.minEntry? with
  | none =>
    have none_indexed := minEntry?_eq_none_iff.mp first
    simp only [true_iff]
    intro key known
    -- An evictable key is indexed, and the index is empty.
    obtain ⟨⟨time, evictable⟩, found, rfl⟩ := Option.map_eq_some_iff.mp known
    simpa [none_indexed] using (h.candidate_iff time key).mpr found
  | some entry =>
    -- The first of the index is a key that may be evicted.
    obtain ⟨time, key⟩ := entry
    have found := (h.candidate_iff time key).mp (minEntry?_eq_some_iff.mp first).1
    simp only [reduceCtorEq, false_iff]
    intro unmovable
    exact unmovable key (by rw [standing, found]; rfl)

theorem Sound.evict?_eq_some_iff (h : r.Sound) {key : α} {rest : Recency α} :
    r.evict? = some (key, rest) ↔ r.IsOldest key ∧ rest = r.remove key := by
  -- An indexed key is evictable, so to remove it is to take it out of both maps.
  have forgotten : ∀ (time : Nat) (key : α), r.usage[key]? = some ⟨time, true⟩ →
      { r with usage := r.usage.erase key, candidates := r.candidates.erase time } =
        r.remove key := by
    intro time key known
    simp [Recency.remove, known]
  rw [evict?, entryAtIdx?_zero]
  constructor
  · intro evicted
    cases first : r.candidates.minEntry? with
    | none => simp [first] at evicted
    | some entry =>
      obtain ⟨time, victim⟩ := entry
      obtain ⟨indexed, least⟩ := minEntry?_eq_some_iff.mp first
      have known := (h.candidate_iff time victim).mp indexed
      simp only [first, Option.some.injEq, Prod.mk.injEq] at evicted
      obtain ⟨rfl, rfl⟩ := evicted
      have oldest : ∀ (other : α) (u : Usage), r.usage[other]? = some u → u.evictable = true →
          time ≤ u.lastUse := by
        rintro other ⟨t, e⟩ found ⟨⟩
        exact least t other ((h.candidate_iff t other).mpr found)
      exact ⟨⟨time, known, oldest⟩, forgotten time victim known⟩
  · rintro ⟨⟨time, known, oldest⟩, rfl⟩
    have first : r.candidates.minEntry? = some (time, key) := by
      refine minEntry?_eq_some_iff.mpr ⟨(h.candidate_iff time key).mpr known, ?_⟩
      intro t other indexed
      exact oldest other ⟨t, true⟩ ((h.candidate_iff t other).mp indexed) rfl
    simp only [first, forgotten time key known]

/-! ### What the operations do -/

theorem clock_touch (r : Recency α) (key : α) : (r.touch key).clock = r.clock + 1 := by
  unfold touch
  cases r.usage[key]? <;> rfl

theorem clock_setEvictable (r : Recency α) (key : α) (evictable : Bool) :
    (r.setEvictable key evictable).clock = r.clock := by
  unfold setEvictable
  cases r.usage[key]? with
  | none => rfl
  | some u => simp only; split <;> rfl

theorem clock_remove (r : Recency α) (key : α) : (r.remove key).clock = r.clock := by
  unfold remove
  cases r.usage[key]? <;> rfl

theorem candidates_touch (r : Recency α) (key : α) (time : Nat) :
    (r.touch key).candidates[time]? =
      if r.standing key = some true ∧ time = r.clock + 1 then some key
      else if r.usage[key]? = some ⟨time, true⟩ then none
      else r.candidates[time]? := by
  unfold Recency.touch standing
  cases r.usage[key]? with
  | none => simp
  | some u =>
    obtain ⟨last, movable⟩ := u
    cases movable with
    | false => simp
    | true => simp [ExtTreeMap.getElem?_insert, ExtTreeMap.getElem?_erase, @eq_comm Nat time]

theorem candidates_setEvictable (r : Recency α) (key : α) (evictable : Bool) (time : Nat) :
    (r.setEvictable key evictable).candidates[time]? =
      if r.usage[key]? = some ⟨time, !evictable⟩ then if evictable then some key else none
      else r.candidates[time]? := by
  unfold Recency.setEvictable
  cases r.usage[key]? with
  | none => simp
  | some u =>
    obtain ⟨last, movable⟩ := u
    by_cases settled : movable = evictable
    · subst settled
      simp
    · cases evictable <;> simp_all [ExtTreeMap.getElem?_insert, ExtTreeMap.getElem?_erase]

theorem candidates_remove (r : Recency α) (key : α) (time : Nat) :
    (r.remove key).candidates[time]? =
      if r.usage[key]? = some ⟨time, true⟩ then none else r.candidates[time]? := by
  unfold Recency.remove
  cases r.usage[key]? with
  | none => simp
  | some u =>
    obtain ⟨last, movable⟩ := u
    cases movable <;> simp [ExtTreeMap.getElem?_erase]

variable [LawfulEqOrd α]

theorem Sound.eq_of_usage {r' : Recency α} (h : r.Sound) (h' : r'.Sound)
    (clock : r.clock = r'.clock) (usage : ∀ key : α, r.usage[key]? = r'.usage[key]?) :
    r = r' := by
  have same : r.usage = r'.usage := ExtTreeMap.ext_getElem? fun {key} => usage key
  have index : r.candidates = r'.candidates := by
    -- The index is determined by what is known of the keys.
    apply ExtTreeMap.ext_getElem?
    intro time
    apply Option.ext
    intro key
    rw [h.candidate_iff, h'.candidate_iff, same]
  cases r
  cases r'
  cases clock
  cases same
  cases index
  rfl

variable [DecidableEq α]

theorem usage_touch (r : Recency α) (key other : α) :
    (r.touch key).usage[other]? =
      if key = other then some ⟨r.clock + 1, (r.standing key).getD false⟩
      else r.usage[other]? := by
  unfold touch standing
  cases r.usage[key]? <;> simp [ExtTreeMap.getElem?_insert]

theorem usage_setEvictable (r : Recency α) (key other : α) (evictable : Bool) :
    (r.setEvictable key evictable).usage[other]? =
      if key = other then r.usage[key]?.map fun u => { u with evictable } else r.usage[other]? := by
  unfold setEvictable
  cases known : r.usage[key]? with
  | none => by_cases same : key = other <;> simp_all
  | some u =>
    by_cases settled : u.evictable = evictable
    · subst settled
      by_cases same : key = other <;> simp_all
    · simp [settled, ExtTreeMap.getElem?_insert]

theorem usage_remove (r : Recency α) (key other : α) :
    (r.remove key).usage[other]? = if key = other then none else r.usage[other]? := by
  unfold remove
  cases known : r.usage[key]? with
  | none => by_cases same : key = other <;> simp_all
  | some u => simp [ExtTreeMap.getElem?_erase]

theorem standing_touch (r : Recency α) (key other : α) :
    (r.touch key).standing other =
      if key = other then some ((r.standing key).getD false) else r.standing other := by
  rw [standing, usage_touch]
  split <;> rfl

theorem standing_setEvictable (r : Recency α) (key other : α) (evictable : Bool) :
    (r.setEvictable key evictable).standing other =
      if key = other then (r.standing key).map fun _ => evictable else r.standing other := by
  rw [standing, usage_setEvictable]
  split
  · rw [standing, Option.map_map, Option.map_map]
    rfl
  · rfl

theorem standing_remove (r : Recency α) (key other : α) :
    (r.remove key).standing other = if key = other then none else r.standing other := by
  rw [standing, usage_remove]
  split <;> rfl

/-! ### Times of use -/

/-- When a key was used last, if it is known. -/
def lastUse? (r : Recency α) (key : α) : Option Nat := r.usage[key]?.map Usage.lastUse

theorem lastUse?_touch (r : Recency α) (key other : α) :
    (r.touch key).lastUse? other = if key = other then some (r.clock + 1) else r.lastUse? other := by
  rw [lastUse?, usage_touch]
  split <;> rfl

/-- A key that may not be evicted for a while keeps its time. -/
theorem lastUse?_setEvictable (r : Recency α) (key other : α) (evictable : Bool) :
    (r.setEvictable key evictable).lastUse? other = r.lastUse? other := by
  rw [lastUse?, usage_setEvictable]
  split
  · next same =>
    rw [← same, lastUse?, Option.map_map]
    rfl
  · rfl

theorem lastUse?_remove (r : Recency α) (key other : α) :
    (r.remove key).lastUse? other = if key = other then none else r.lastUse? other := by
  rw [lastUse?, usage_remove]
  split <;> rfl

omit [LawfulEqOrd α] [DecidableEq α] in
/-- Every other key that may be evicted was used after the one that is evicted first. -/
theorem Sound.lastUse?_lt (h : r.Sound) {key other : α} (oldest : r.IsOldest key)
    (movable : r.standing other = some true) (apart : other ≠ key) :
    ∃ earlier later, r.lastUse? key = some earlier ∧ r.lastUse? other = some later ∧
      earlier < later := by
  obtain ⟨time, known, least⟩ := oldest
  obtain ⟨u, found, evictable⟩ := Option.map_eq_some_iff.mp movable
  refine ⟨time, u.lastUse, by simp [lastUse?, known], by simp [lastUse?, found], ?_⟩
  -- No two keys share a time, so the least time is less than the others.
  have distinct : time ≠ u.lastUse := fun same =>
    apart (h.lastUse_inj other key u ⟨time, true⟩ found known same.symm)
  have := least other u found evictable
  omega

/-! ### Every operation keeps a recency sound -/

theorem Sound.touch (h : r.Sound) (key : α) : (r.touch key).Sound := by
  -- The time of this use is past every time that is known.
  have early : ∀ (k : α) (u : Usage), r.usage[k]? = some u → u.lastUse ≠ r.clock + 1 := by
    intro k u known
    have := h.lastUse_le k u known
    omega
  constructor
  · intro time other
    rw [candidates_touch, usage_touch]
    by_cases same : key = other
    · subst same
      cases known : r.usage[key]? with
      | none => simp [h.candidate_iff, standing, known]
      | some u =>
        obtain ⟨last, movable⟩ := u
        cases movable with
        | false => simp [h.candidate_iff, standing, known]
        | true =>
          by_cases now : time = r.clock + 1
          · simp [standing, known, now]
          · simp [h.candidate_iff, standing, known, now, Ne.symm now]
    · rw [if_neg same]
      split
      · next now =>
        have fresh : r.usage[other]? ≠ some ⟨time, true⟩ := fun found => early other _ found now.2
        simp [fresh, same]
      · split
        · next known =>
          -- The entry that goes was that of `key`, for no two keys share a time.
          have apart : r.usage[other]? ≠ some ⟨time, true⟩ :=
            fun found => same (h.lastUse_inj key other _ _ known found rfl)
          simp [apart]
        · exact h.candidate_iff time other
  · intro other u
    rw [usage_touch, clock_touch]
    split
    · rintro ⟨⟩
      exact Nat.le_refl _
    · intro known
      exact Nat.le_succ_of_le (h.lastUse_le other u known)
  · intro k other u v
    rw [usage_touch, usage_touch]
    grind [h.lastUse_inj k other u v]

theorem Sound.setEvictable (h : r.Sound) (key : α) (evictable : Bool) :
    (r.setEvictable key evictable).Sound := by
  constructor
  · intro time other
    rw [candidates_setEvictable, usage_setEvictable]
    by_cases same : key = other
    · subst same
      rw [if_pos rfl]
      cases known : r.usage[key]? with
      | none => simp [h.candidate_iff, known]
      | some u =>
        obtain ⟨last, movable⟩ := u
        cases evictable <;> cases movable <;> simp [h.candidate_iff, known]
    · -- The index changes at the time of `key` only, which `other` does not share.
      have apart : r.usage[key]? = some ⟨time, !evictable⟩ →
          r.usage[other]? ≠ some ⟨time, true⟩ :=
        fun known found => same (h.lastUse_inj key other _ _ known found rfl)
      rw [if_neg same]
      split
      · next known => cases evictable <;> simp [apart known, same]
      · exact h.candidate_iff time other
  · intro other u
    rw [usage_setEvictable, clock_setEvictable]
    split
    · rw [Option.map_eq_some_iff]
      rintro ⟨w, known, rfl⟩
      exact h.lastUse_le key w known
    · exact h.lastUse_le other u
  · -- Saying whether a key may be evicted leaves its time as it is.
    intro k other u v
    rw [usage_setEvictable, usage_setEvictable]
    grind [h.lastUse_inj]

theorem Sound.remove (h : r.Sound) (key : α) : (r.remove key).Sound := by
  constructor
  · intro time other
    rw [candidates_remove, usage_remove]
    by_cases same : key = other
    · subst same
      simp [h.candidate_iff]
    · have apart : r.usage[key]? = some ⟨time, true⟩ → r.usage[other]? ≠ some ⟨time, true⟩ :=
        fun known found => same (h.lastUse_inj key other _ _ known found rfl)
      rw [if_neg same]
      split
      · next known => simp [apart known]
      · exact h.candidate_iff time other
  · intro other u
    rw [usage_remove, clock_remove]
    split
    · simp
    · exact h.lastUse_le other u
  · intro k other u v
    rw [usage_remove, usage_remove]
    grind [h.lastUse_inj k other u v]

/-! ### Operations in a row -/

/-- The last word on a key counts. -/
theorem Sound.setEvictable_setEvictable (h : r.Sound) (key : α) (a b : Bool) :
    (r.setEvictable key a).setEvictable key b = r.setEvictable key b := by
  apply ((h.setEvictable key a).setEvictable key b).eq_of_usage (h.setEvictable key b)
  · simp only [clock_setEvictable]
  · intro other
    simp only [usage_setEvictable]
    cases r.usage[key]? <;> by_cases same : key = other <;> simp [same]

theorem Sound.setEvictable_comm (h : r.Sound) (key other : α) (a : Bool) :
    (r.setEvictable key a).setEvictable other a = (r.setEvictable other a).setEvictable key a := by
  apply ((h.setEvictable key a).setEvictable other a).eq_of_usage
    ((h.setEvictable other a).setEvictable key a)
  · simp only [clock_setEvictable]
  · intro k
    simp only [usage_setEvictable]
    by_cases first : key = k <;> by_cases second : other = k <;> simp [first, second]

/-- An evictable key that is forgotten and at once used again has only been used. -/
theorem Sound.touch_remove (h : r.Sound) {key : α} (known : r.standing key = some true) :
    ((r.remove key).touch key).setEvictable key true = r.touch key := by
  apply (((h.remove key).touch key).setEvictable key true).eq_of_usage (h.touch key)
  · simp only [clock_setEvictable, clock_touch, clock_remove]
  · intro other
    -- Once forgotten the key is new, and a new key has to be made evictable.
    have gone : (r.remove key).standing key = none := by simp [standing, usage_remove]
    simp only [usage_setEvictable, usage_touch, usage_remove, clock_remove, gone, known]
    by_cases same : key = other <;> simp [same]

end PagedStorage.Recency
