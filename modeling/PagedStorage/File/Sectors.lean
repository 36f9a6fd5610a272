import Std.Data.ExtTreeMap
import PagedStorage.Block

/-!
# Sectors

Almost all of a large file may be a hole, which reads back as zeros. So bytes are kept by sector,
and a sector that was never written is not kept at all.

`byteAt` is the view. Replacing a range changes the bytes of the range and no others
(`byteAt_replace`), and truncating clears what it cuts off (`byteAt_truncate`).
-/

namespace PagedStorage

/-- Bytes at all positions. A sector that is not kept holds zeros. -/
abbrev Sectors : Type := Std.ExtTreeMap Nat (Block sectorSize)

namespace Sectors

/-- The byte at a position. -/
def byteAt (s : Sectors) (i : Nat) : UInt8 :=
  match s[i / sectorSize]? with
  | some sector => sector.get ⟨i % sectorSize, Nat.mod_lt i sectorSize_pos⟩
  | none => 0

/-- A sector cut out of bytes that are given by position. -/
def cut (byte : Nat → UInt8) (k : Nat) : Block sectorSize :=
  Vector.ofFn fun j => byte (k * sectorSize + j.val)

/-- Makes `n` sectors anew, from sector `first` on. -/
def renew (s : Sectors) (byte : Nat → UInt8) (first n : Nat) : Sectors :=
  (List.range' first n).foldl (fun s k => s.insert k (cut byte k)) s

/-- The bytes once those of a range have been replaced. -/
def edited (s : Sectors) (start length : Nat) (byte : Nat → UInt8) (i : Nat) : UInt8 :=
  if start ≤ i ∧ i < start + length then byte i else s.byteAt i

/-- Replaces each byte of a range. Only the sectors that the range touches are made anew. -/
def replace (s : Sectors) (start length : Nat) (byte : Nat → UInt8) : Sectors :=
  let first := start / sectorSize
  let last := (start + length - 1) / sectorSize
  s.renew (s.edited start length byte) first (last + 1 - first)

/-- Clears the bytes from position `n` on. The sector that `n` falls into is cleared in part. -/
def truncate (s : Sectors) (n : Nat) : Sectors :=
  let kept : Sectors := s.filter fun k _ => decide (k * sectorSize < n)
  kept.replace n (sectorSize - n % sectorSize) fun _ => 0

theorem byteAt_empty (i : Nat) : (∅ : Sectors).byteAt i = 0 := by
  rw [byteAt, Std.ExtTreeMap.getElem?_empty]

theorem byteAt_of_sector {s : Sectors} {byte : Nat → UInt8} {i : Nat}
    (h : s[i / sectorSize]? = some (cut byte (i / sectorSize))) : s.byteAt i = byte i := by
  rw [byteAt, h]
  show (cut byte (i / sectorSize)).get _ = byte i
  exact (Vector.getElem_ofFn (Nat.mod_lt i sectorSize_pos)).trans
    (congrArg byte (Nat.div_add_mod' i sectorSize))

/-- The sectors made anew are cut out of the given bytes, all others are as they were. -/
theorem getElem?_renew (s : Sectors) (byte : Nat → UInt8) (first n k : Nat) :
    (s.renew byte first n)[k]? =
      if first ≤ k ∧ k < first + n then some (cut byte k) else s[k]? := by
  induction n generalizing s first with
  | zero => rw [if_neg (by omega)]; rfl
  | succ n ih =>
    have step : s.renew byte first (n + 1) =
        renew (s.insert first (cut byte first)) byte (first + 1) n := rfl
    rw [step, ih, Std.ExtTreeMap.getElem?_insert]
    by_cases hk : first = k
    · subst hk
      rw [if_neg (by omega), if_pos (Nat.compare_eq_eq.mpr rfl), if_pos (by omega)]
    · rw [if_neg (fun h : compare first k = .eq => hk (Nat.compare_eq_eq.mp h))]
      by_cases hr : first ≤ k ∧ k < first + (n + 1)
      · rw [if_pos (by omega), if_pos hr]
      · rw [if_neg (by omega), if_neg hr]

/-- Replacing a range changes the bytes of the range and no others. -/
theorem byteAt_replace (s : Sectors) (start length : Nat) (byte : Nat → UInt8) (i : Nat) :
    (s.replace start length byte).byteAt i =
      if start ≤ i ∧ i < start + length then byte i else s.byteAt i := by
  show (s.replace start length byte).byteAt i = s.edited start length byte i
  by_cases hi : start / sectorSize ≤ i / sectorSize ∧
      i / sectorSize ≤ (start + length - 1) / sectorSize
  · apply byteAt_of_sector
    rw [replace, getElem?_renew, if_pos (by omega)]
  · have out : ¬ (start ≤ i ∧ i < start + length) := fun h =>
      hi ⟨Nat.div_le_div_right h.1, Nat.div_le_div_right (by omega)⟩
    rw [edited, if_neg out, byteAt, replace, getElem?_renew, if_neg (by omega), byteAt]

/-- Truncation clears what it cuts off and nothing else. -/
theorem byteAt_truncate (s : Sectors) (n i : Nat) :
    (s.truncate n).byteAt i = if i < n then s.byteAt i else 0 := by
  have hd : i / sectorSize * sectorSize + i % sectorSize = i := Nat.div_add_mod' i sectorSize
  have hm : i % sectorSize < sectorSize := Nat.mod_lt i sectorSize_pos
  rw [truncate, byteAt_replace]
  by_cases hi : i < n
  · rw [if_pos hi, if_neg (by omega), byteAt, byteAt, Std.ExtTreeMap.getElem?_filter']
    have hk : decide (i / sectorSize * sectorSize < n) = true := decide_eq_true (by omega)
    cases s[i / sectorSize]? with
    | none => rfl
    | some sector => rw [Option.filter_some, if_pos hk]
  · rw [if_neg hi]
    by_cases hn : i < n + (sectorSize - n % sectorSize)
    · rw [if_pos (by omega)]
    · have hn' : n / sectorSize * sectorSize + n % sectorSize = n := Nat.div_add_mod' n sectorSize
      have hlt : n % sectorSize < sectorSize := Nat.mod_lt n sectorSize_pos
      have hs : (n / sectorSize + 1) * sectorSize = n / sectorSize * sectorSize + sectorSize :=
        Nat.succ_mul _ _
      have hle : n / sectorSize + 1 ≤ i / sectorSize :=
        (Nat.le_div_iff_mul_le sectorSize_pos).mpr (by omega)
      have hk : ¬ i / sectorSize * sectorSize < n := by
        have := Nat.mul_le_mul_right sectorSize hle
        omega
      rw [if_neg (by omega), byteAt, Std.ExtTreeMap.getElem?_filter']
      cases s[i / sectorSize]? with
      | none => rfl
      | some sector =>
        rw [Option.filter_some, if_neg (fun h => hk (of_decide_eq_true h))]

end Sectors

end PagedStorage
