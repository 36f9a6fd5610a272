import PagedStorage.Proofs.BlockStore

/-!
# Gaps

A block that is written behind the end of the file leaves a gap before it, and the gap reads back as
zeros where the file had no bytes. A file that does not end with a whole block has some bytes behind
the last one, and these are where the first block of the gap begins. They show when it is counted:
the gap is all zeros exactly if these bytes are (`HandleSession.gap_shows_tail`). After a gap was left
there are no such bytes any more.
-/

namespace PagedStorage

namespace Disk

variable {pageSize : Nat} {d : Disk pageSize} {page : PageId}

/-- No bytes other than zeros are behind the last whole block. -/
def CleanTail (d : Disk pageSize) : Prop := ∀ i, d.blockCount * pageSize ≤ i → d.file.byteAt i = 0

theorem blockAt_eq_zero_iff :
    d.blockAt page = .zero ↔
      ∀ j, j < pageSize → d.file.byteAt (page.index * pageSize + j) = 0 := by
  constructor
  · intro zero j inside
    have byte := congrArg (fun block : Block pageSize => block[j]) zero
    simpa [blockAt, Block.getElem_zero] using byte
  · intro zeros
    apply Vector.ext
    intro j inside
    simp [blockAt, zeros j inside, Block.getElem_zero]

/-- Only the first of the blocks that are not counted can be one that the file reaches into. -/
theorem Counted.blockAt_eq_zero (counted : d.Counted) (long : 0 < pageSize)
    (behind : d.blockCount < page.index) : d.blockAt page = .zero := by
  rw [blockAt_eq_zero_iff]
  intro j _
  apply File.byteAt_eq_zero
  have past : (d.blockCount + 1) * pageSize ≤ page.index * pageSize :=
    Nat.mul_le_mul_right pageSize behind
  have := counted.size_lt long
  omega

theorem Counted.cleanTail_iff (counted : d.Counted) (long : 0 < pageSize)
    (first : page.index = d.blockCount) : d.CleanTail ↔ d.blockAt page = .zero := by
  rw [blockAt_eq_zero_iff, first]
  constructor
  · intro clean j _
    exact clean _ (Nat.le_add_right ..)
  · intro zeros i behind
    -- The byte is one of the block, or the file does not reach that far.
    by_cases inside : i < (d.blockCount + 1) * pageSize
    · have place : d.blockCount * pageSize + (i - d.blockCount * pageSize) = i := by omega
      rw [← place]
      apply zeros
      rw [Nat.succ_mul] at inside
      omega
    · apply File.byteAt_eq_zero
      have := counted.size_lt long
      omega

end Disk

/-- A write that succeeds has put a block in its place. -/
theorem BlockStore.put_of_done {pageSize : Nat} {s : BlockStore pageSize} {page : PageId}
    {bytes : Array UInt8} (done : (s.step (.write page bytes)).1 = .done .done) :
    ∃ block, (s.step (.write page bytes)).2 = s.put page block := by
  cases size : (Block.ofArray? bytes : Option (Block pageSize)) with
  | none => simp [step, size] at done
  | some block =>
    by_cases accepts : s.Accepts page
    · exact ⟨block, by simp [step, size, accepts]⟩
    · simp [step, size, accepts] at done

namespace HandleSession

variable {s t : HandleSession} {name : String} {path : Path} {pageSize maxFileSize : Nat}
  {d : Disk pageSize} {store : BlockStore pageSize} {page : PageId} {bytes : Array UInt8}

/-- What a handle is after a block was written. -/
theorem Has.put (has : s.Has name path d) (refines : d.Refines store) (long : 0 < pageSize)
    (small : pageSize < 0x100000000) (next : page.index + 1 < 0x100000000)
    (done : (s.ask name path pageSize (.write page bytes)).1 = .done .done) :
    ∃ (d' : Disk pageSize) (block : Block pageSize),
      (s.ask name path pageSize (.write page bytes)).2.Has name path d' ∧
        d'.Refines (store.put page block) := by
  obtain ⟨same, d', still, refined, -⟩ :=
    has.asked refines long small (show (BlockRequest.write page bytes).Numbered from next)
  obtain ⟨block, written⟩ := BlockStore.put_of_done (same.symm.trans done)
  rw [written] at refined
  exact ⟨d', block, still, refined⟩

/-- A block of the gap reads as the bytes that were at its place before. -/
theorem Has.gap_read (has : s.Has name path d) (refines : d.Refines store) (long : 0 < pageSize)
    (small : pageSize < 0x100000000) (next : page.index + 1 < 0x100000000)
    (done : (s.ask name path pageSize (.write page bytes)).1 = .done .done) {q : PageId}
    (before : q.index < page.index) :
    ((s.ask name path pageSize (.write page bytes)).2.ask name path pageSize (.read q pageSize)).1 =
      .done (.bytes (d.blockAt q).toArray) := by
  obtain ⟨d', block, still, refined⟩ := has.put refines long small next done
  have number : q.index + 1 < 0x100000000 := by omega
  obtain ⟨answered, -⟩ :=
    still.asked refined long small (show (BlockRequest.read q pageSize).Numbered from number)
  have apart : q ≠ page := by
    rintro rfl
    omega
  have counted : q.index < max store.count (page.index + 1) := by omega
  rw [answered]
  simp [BlockStore.step, BlockStore.put, counted, Function.update_of_ne apart, refines.block_eq]

/-- A write behind the end leaves a file that ends with a whole block. -/
theorem Has.cleanTail_put (has : s.Has name path d) (refines : d.Refines store) (long : 0 < pageSize)
    (small : pageSize < 0x100000000) (next : page.index + 1 < 0x100000000)
    (done : (s.ask name path pageSize (.write page bytes)).1 = .done .done)
    (behind : d.blockCount ≤ page.index) :
    ∃ d' : Disk pageSize, (s.ask name path pageSize (.write page bytes)).2.Has name path d' ∧
      d'.CleanTail := by
  obtain ⟨d', block, still, refined⟩ := has.put refines long small next done
  refine ⟨d', still, ?_⟩
  -- The block behind the one that was written is where nothing was before.
  let following : PageId := ⟨page.index + 1, next⟩
  have first : following.index = d'.blockCount := by
    rw [← refined.count_eq, BlockStore.put, refines.count_eq]
    exact (Nat.max_eq_right (Nat.le_succ_of_le behind)).symm
  have apart : following ≠ page := fun same => Nat.succ_ne_self _ (congrArg PageId.index same)
  have empty : d.blockAt following = .zero :=
    refines.counted.blockAt_eq_zero long (Nat.lt_succ_of_le behind)
  rw [refined.counted.cleanTail_iff long first, ← refined.block_eq, ← empty, ← refines.block_eq]
  exact Function.update_of_ne apart ..

/-- Whatever was done with a handle, a block that is written behind the end leaves a gap whose blocks
read as the bytes that were at their places. They are zeros, but for the first one if the file had
other bytes behind its last whole block, and then the gap was the last one to show such bytes. -/
theorem gap_shows_tail {how : Opening} (long : 0 < pageSize) (small : pageSize < 0x100000000)
    (started : s.start name how path pageSize maxFileSize = (.done .done, t))
    {requests : List BlockRequest} (numbered : ∀ request ∈ requests, request.Numbered)
    (next : page.index + 1 < 0x100000000) :
    let u := Run.after (ask name path pageSize) t requests
    let v := (u.ask name path pageSize (.write page bytes)).2
    ∃ d : Disk pageSize, u.Has name path d ∧
      ((u.ask name path pageSize (.write page bytes)).1 = .done .done →
        d.blockCount ≤ page.index →
        (∀ q : PageId, d.blockCount ≤ q.index → q.index < page.index →
          (v.ask name path pageSize (.read q pageSize)).1 = .done (.bytes (d.blockAt q).toArray) ∧
            (d.blockAt q = .zero ↔ (q.index = d.blockCount → d.CleanTail))) ∧
        ∃ d' : Disk pageSize, v.Has name path d' ∧ d'.CleanTail) := by
  intro u v
  obtain ⟨d₀, has₀, refines₀⟩ := has_of_start started
  obtain ⟨-, d, has, refines⟩ := has₀.after refines₀ long small numbered
  refine ⟨d, has, fun done behind => ⟨?_, has.cleanTail_put refines long small next done behind⟩⟩
  intro q after before
  refine ⟨has.gap_read refines long small next done before, ?_⟩
  rcases Nat.eq_or_lt_of_le after with first | later
  · simp [refines.counted.cleanTail_iff long first.symm, first]
  · simp [refines.counted.blockAt_eq_zero long later, Nat.ne_of_gt later]

/-- The handle of a name is one only. -/
theorem Has.unique (has : s.Has name path d) {d' : Disk pageSize} (also : s.Has name path d') :
    d' = d := by
  have same := also.handle.symm.trans has.handle
  cases same
  rfl

/-- A file of one block and one byte more, in a tree where there is nothing else. -/
def tornFile : HandleSession := ⟨⟨[(["f"], .file ((File.hole 512).write 512 #[7]))]⟩, []⟩

private theorem tornFile_written :
    let path : Path := ⟨[.into "f"], false, none⟩
    let t := (tornFile.start "d" .openFile path 512 4096).2
    tornFile.start "d" .openFile path 512 4096 = (.done .done, t) ∧
      (t.ask "d" path 512 (.write ⟨2, by decide⟩ (Array.replicate 512 0))).1 = .done .done ∧
      ∃ d : Disk 512, t.Has "d" path d ∧
        d.Refines (.ofFile 4096 ((File.hole 512).write 512 #[7])) ∧ d.blockCount = 1 := by
  intro path t
  have started : tornFile.start "d" .openFile path 512 4096 = (.done .done, t) := rfl
  have found : tornFile.tree.contents path = (File.hole 512).write 512 #[7] := rfl
  obtain ⟨d, has, refines⟩ := has_of_start started
  rw [found] at refines
  refine ⟨started, ?_, d, has, refines, refines.count_eq.symm⟩
  let third : PageId := ⟨2, by decide⟩
  have next : third.index + 1 < 0x100000000 := by decide
  obtain ⟨same, -⟩ := has.asked refines (by decide) (by decide)
    (show (BlockRequest.write third (Array.replicate 512 0)).Numbered from next)
  have block : Block.ofArray? (Array.replicate 512 0) = some (.zero : Block 512) :=
    Block.ofArray?_eq_some_iff.mpr rfl
  have accepts : (BlockStore.ofFile 4096 ((File.hole 512).write 512 #[7]) :
      BlockStore 512).Accepts third := .inr (show (2 + 1) * 512 ≤ 4096 by decide)
  rw [same]
  simp [BlockStore.step, block, accepts]

/-- In a file of one block and one byte more, the third block is written and the second left out. -/
theorem gap_shows_tail_torn :
    let path : Path := ⟨[.into "f"], false, none⟩
    let u := (tornFile.start "d" .openFile path 512 4096).2
    let written := u.ask "d" path 512 (.write ⟨2, by decide⟩ (Array.replicate 512 0))
    written.1 = .done .done ∧
      ∃ d : Disk 512, u.Has "d" path d ∧
        (∀ q : PageId, d.blockCount ≤ q.index → q.index < 2 →
          (written.2.ask "d" path 512 (.read q 512)).1 = .done (.bytes (d.blockAt q).toArray) ∧
            (d.blockAt q = .zero ↔ (q.index = d.blockCount → d.CleanTail))) ∧
        ∃ d' : Disk 512, written.2.Has "d" path d' ∧ d'.CleanTail := by
  intro path u written
  obtain ⟨started, done, d, has, refines, count⟩ := tornFile_written
  have none : ∀ request ∈ ([] : List BlockRequest), request.Numbered := nofun
  obtain ⟨d', also, shows⟩ := gap_shows_tail (by decide) (by decide) started none
    (show (⟨2, by decide⟩ : PageId).index + 1 < 0x100000000 by decide)
  obtain rfl := has.unique also
  have behind : d'.blockCount ≤ 2 := by omega
  exact ⟨done, d', also, shows done behind⟩

/-- The one block that was left out begins with the byte that was behind the last whole block. -/
theorem gap_keeps_tail :
    let path : Path := ⟨[.into "f"], false, none⟩
    let t := (tornFile.start "d" .openFile path 512 4096).2
    let written := t.ask "d" path 512 (.write ⟨2, by decide⟩ (Array.replicate 512 0))
    (tornFile.start "d" .openFile path 512 4096).1 = .done .done ∧
      (∃ d : Disk 512, t.Has "d" path d ∧ d.blockCount = 1) ∧ written.1 = .done .done ∧
      ∃ bytes : Array UInt8,
        (written.2.ask "d" path 512 (.read ⟨1, by decide⟩ 512)).1 = .done (.bytes bytes) ∧
          bytes ≠ Array.replicate 512 0 := by
  intro path t written
  obtain ⟨started, done, d, has, refines, count⟩ := tornFile_written
  have shown := has.gap_read refines (by decide) (by decide) (by decide) done
    (show (⟨1, by decide⟩ : PageId).index < 2 by decide)
  refine ⟨congrArg Prod.fst started, ⟨d, has, count⟩, done, _, shown, ?_⟩
  intro zeros
  have byte := congrArg (fun bytes : Array UInt8 => bytes[0]?) zeros
  rw [← refines.block_eq] at byte
  simp [BlockStore.ofFile, File.byteAt_write] at byte

end HandleSession

end PagedStorage
