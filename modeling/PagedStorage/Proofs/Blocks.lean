import PagedStorage.Disk
import PagedStorage.Proofs.Runs

/-!
# The blocks of a file

`blockAt` is the view of a file as a row of blocks. Writing the block of a page changes the block of
that page and of no other (`blockAt_written`), and the number of blocks is at all times the number
of whole pages in the file (`Counted`), so a block that is counted can be read.

Writing and reading are told in full for the pages whose end is still an offset (`Addressable`): a
block is refused because it would grow the file past its limit, because the handle is closed, or not
at all. A block that is counted is missing only from a file that was cut off behind the handle's back
(`Reaches`). To write any other page is a fault (`writeBlock_faults`).
-/

namespace PagedStorage

/-- The page has a successor, and its end fits 64 bits. -/
def PageId.Addressable (pageSize : Nat) (page : PageId) : Prop :=
  page.index + 1 < 0x100000000 ∧ (page.index + 1) * pageSize < 0x10000000000000000

theorem PageId.endOffset_eq_error {pageSize : Nat} {page : PageId}
    (beyond : ¬ (page.index + 1) * pageSize < 0x10000000000000000) :
    ∃ why, page.endOffset pageSize = .error why := by
  by_cases begins : page.index * pageSize < 0x10000000000000000
  · exact ⟨.addOverflow, (endOffset_eq begins).trans (if_neg beyond)⟩
  · have stops : page.offset pageSize = .error .mulOverflow := if_neg begins
    exact ⟨.mulOverflow, by simp only [endOffset, stops, bind, Except.bind]⟩

namespace PageId.Addressable

variable {pageSize : Nat} {page : PageId}

/-- Pages of less than 4 GiB end before the offsets do. -/
theorem of_small (next : page.index + 1 < 0x100000000) (small : pageSize < 0x100000000) :
    page.Addressable pageSize :=
  ⟨next, page.end_lt_of_small small⟩

/-- A page that is addressable in small pages only has its end behind the last offset. -/
theorem lt_of_not {n : Nat} (h : page.Addressable n) (beyond : ¬ page.Addressable pageSize) :
    n < pageSize := by
  apply Nat.lt_of_not_le
  intro smaller
  have ends := Nat.mul_le_mul_left (page.index + 1) smaller
  exact beyond ⟨h.1, Nat.lt_of_le_of_lt ends h.2⟩

theorem end_of_not {n : Nat} (h : page.Addressable n) (beyond : ¬ page.Addressable pageSize) :
    ¬ (page.index + 1) * pageSize < 0x10000000000000000 := fun ends => beyond ⟨h.1, ends⟩

end PageId.Addressable

namespace Disk

variable {pageSize : Nat}

/-- The bytes at the place of a page, whether the file reaches that far or not. -/
def blockAt (d : Disk pageSize) (page : PageId) : Block pageSize :=
  Vector.ofFn fun j => d.file.byteAt (page.index * pageSize + j.val)

/-- The whole pages of the file are counted. -/
def Counted (d : Disk pageSize) : Prop := 0 < pageSize → d.blockCount = d.file.size / pageSize

/-- The file may grow to hold the page, or holds it already. -/
def HasRoom (d : Disk pageSize) (page : PageId) : Prop :=
  page.index < d.blockCount ∨ (page.index + 1) * pageSize ≤ d.maxFileSize

instance (d : Disk pageSize) (page : PageId) : Decidable (d.HasRoom page) :=
  inferInstanceAs (Decidable (_ ∨ _))

/-- The bytes of the page are all in the file. -/
def Reaches (d : Disk pageSize) (page : PageId) : Prop :=
  pageSize = 0 ∨ page.index * pageSize + pageSize ≤ d.file.size

instance (d : Disk pageSize) (page : PageId) : Decidable (d.Reaches page) :=
  inferInstanceAs (Decidable (_ ∨ _))

/-- The handle after the block of a page was written. -/
def written (d : Disk pageSize) (page : PageId) (block : Block pageSize)
    (h : page.index + 1 < 0x100000000) : Disk pageSize :=
  let d' := d.wrote (page.index * pageSize) block
  if d.blockCount ≤ page.index then d'.counting (page.index + 1) h else d'

/-- No call that the handle makes to the operating system fails. -/
def Reliable (d : Disk pageSize) : Prop := d.device = .reliable

/-- A write of the block of the page goes through. -/
def Takes (d : Disk pageSize) (page : PageId) : Prop :=
  d.HasRoom page ∧ d.isOpen = true ∧ (d.device.writing page).isNone = true

instance (d : Disk pageSize) (page : PageId) : Decidable (d.Takes page) :=
  inferInstanceAs (Decidable (_ ∧ _))

/-- What a write that does not succeed answers. -/
def refusal (d : Disk pageSize) (page : PageId) : StoreError :=
  if d.HasRoom page then
    match d.isOpen, d.device.writing page with
    | true, some trouble => .device trouble.cause
    | _, _ => .closed
  else .allocationExhausted ((page.index + 1) * pageSize) d.maxFileSize

theorem refusal_ne_exhausted {d : Disk pageSize} {page : PageId} (room : d.HasRoom page)
    (required limit : Nat) : d.refusal page ≠ .allocationExhausted required limit := by
  rw [refusal, if_pos room]
  split <;> simp

/-- The handle after a write that does not succeed. If the operating system gave it up midway, the first
bytes of the block are in the file. -/
def spoiled (d : Disk pageSize) (page : PageId) (block : Block pageSize) : Disk pageSize :=
  if d.HasRoom page ∧ d.isOpen then
    match d.device.writing page with
    | some trouble => d.wroteFirst (page.index * pageSize) block trouble.moved
    | none => d
  else d

/-- The last page of all has no successor to count up to, and that is found when its bytes are in the
file. -/
theorem writeBlock_eq_of_end_lt (d : Disk pageSize) {page : PageId}
    (ends : (page.index + 1) * pageSize < 0x10000000000000000) (block : Block pageSize) :
    writeBlock page block d =
      if d.Takes page then
        if h : page.index + 1 < 0x100000000 then .ok () (d.written page block h)
        else .error (.fault .addOverflow) (d.wrote (page.index * pageSize) block)
      else .error (.error (d.refusal page)) (d.spoiled page block) := by
  have offset := PageId.offset_eq_ok (PageId.begin_lt_of_end_lt ends)
  have endOffset := PageId.endOffset_eq_ok ends
  -- The checks in their order: the limit first, then whether the handle is open. The operating system
  -- is asked last.
  by_cases room : d.HasRoom page
  · have granted : ¬ (d.blockCount ≤ page.index ∧ d.maxFileSize < (page.index + 1) * pageSize) := by
      unfold HasRoom at room
      omega
    by_cases opened : d.isOpen
    · cases answer : d.device.writing page with
      | some trouble =>
        simp [writeBlock, endOffset, offset, ensureOpen, granted, Takes, room, opened, answer, refusal,
          spoiled]
      | none =>
        -- A block behind the end is counted from now on.
        by_cases behind : d.blockCount ≤ page.index
        · have fits := Nat.not_lt.mp fun beyond => granted ⟨behind, beyond⟩
          by_cases next : page.index + 1 < 0x100000000 <;>
            simp [writeBlock, endOffset, offset, ensureOpen, Takes, room, opened, answer, behind,
              written, next, Nat.not_lt.mpr fits]
        · have next : page.index + 1 < 0x100000000 := by
            have := d.blockCount_lt
            omega
          simp [writeBlock, endOffset, offset, ensureOpen, Takes, room, opened, answer, behind, written,
            next]
    · simp [writeBlock, endOffset, offset, ensureOpen, Takes, room, granted, opened, refusal, spoiled]
  · have full : d.blockCount ≤ page.index ∧ d.maxFileSize < (page.index + 1) * pageSize := by
      unfold HasRoom at room
      omega
    simp [writeBlock, endOffset, Takes, room, full, refusal, spoiled]

/-- The end is found not to be an offset before anything is written. -/
theorem writeBlock_faults (d : Disk pageSize) {page : PageId}
    (beyond : ¬ (page.index + 1) * pageSize < 0x10000000000000000) (block : Block pageSize) :
    (writeBlock page block).Faults d := by
  obtain ⟨why, stops⟩ := PageId.endOffset_eq_error beyond
  exact ⟨why, d, by simp [writeBlock, stops]⟩

theorem writeBlock_eq (d : Disk pageSize) {page : PageId} (h : page.Addressable pageSize)
    (block : Block pageSize) :
    writeBlock page block d =
      if d.Takes page then .ok () (d.written page block h.1)
      else .error (.error (d.refusal page)) (d.spoiled page block) := by
  rw [d.writeBlock_eq_of_end_lt h.2, dif_pos h.1]

/-- A write of bytes that are one page. -/
theorem write_eq (d : Disk pageSize) (page : PageId) {bytes : Array UInt8}
    (small : pageSize < 0x100000000) (whole : bytes.size = pageSize) :
    write page bytes d =
      if d.Takes page then
        if h : page.index + 1 < 0x100000000 then .ok () (d.written page ⟨bytes, whole⟩ h)
        else .error (.fault .addOverflow) (d.wrote (page.index * pageSize) ⟨bytes, whole⟩)
      else .error (.error (d.refusal page)) (d.spoiled page ⟨bytes, whole⟩) := by
  have filled : Block.ofArray? bytes = some (⟨bytes, whole⟩ : Block pageSize) :=
    Block.ofArray?_eq_some_iff.mpr rfl
  simp only [write, filled, d.writeBlock_eq_of_end_lt (page.end_lt_of_small small)]

/-- The file ends before the block behind the last whole one does. -/
theorem Counted.size_lt {d : Disk pageSize} (counted : d.Counted) (long : 0 < pageSize) :
    d.file.size < (d.blockCount + 1) * pageSize := by
  rw [counted long]
  exact (Nat.div_lt_iff_lt_mul long).mp (Nat.lt_succ_self _)

/-- A block that is counted lies inside the file. -/
theorem Counted.reaches {d : Disk pageSize} (counted : d.Counted) {page : PageId}
    (h : page.index < d.blockCount) : d.Reaches page := by
  rcases Nat.eq_zero_or_pos pageSize with none | some
  · exact .inl none
  · right
    calc page.index * pageSize + pageSize = (page.index + 1) * pageSize := (Nat.succ_mul ..).symm
      _ ≤ d.blockCount * pageSize := Nat.mul_le_mul_right pageSize h
      _ = d.file.size / pageSize * pageSize := by rw [counted some]
      _ ≤ d.file.size := Nat.div_mul_le_self ..

theorem read?_eq (d : Disk pageSize) (page : PageId) :
    d.file.read? (page.index * pageSize) pageSize =
      if d.Reaches page then some (d.blockAt page) else none := by
  split
  · next reaches => exact File.read?_eq_some_iff.mpr ⟨reaches, rfl⟩
  · next short =>
    apply Option.eq_none_iff_forall_ne_some.mpr
    intro block read
    exact short (File.read?_eq_some_iff.mp read).1

/-- The block of a page, or why it cannot be read. -/
def block? (d : Disk pageSize) (page : PageId) : Except StoreError (Block pageSize) :=
  if d.blockCount ≤ page.index then .error (.device (.beyondEnd page d.blockCount))
  else if d.isOpen then
    match d.device.reading page with
    | some trouble => .error (.device trouble.cause)
    | none => if d.Reaches page then .ok (d.blockAt page) else .error (.device .shortRead)
  else .error .closed

theorem block?_eq_ok_iff {d : Disk pageSize} {page : PageId} {block : Block pageSize} :
    d.block? page = .ok block ↔
      page.index < d.blockCount ∧ d.isOpen = true ∧ (d.device.reading page).isNone = true ∧
        d.Reaches page ∧ block = d.blockAt page := by
  unfold block?
  by_cases behind : d.blockCount ≤ page.index
  · simp [behind, Nat.not_lt.mpr behind]
  · by_cases opened : d.isOpen
    · cases answer : d.device.reading page <;>
        by_cases reaches : d.Reaches page <;>
          simp [behind, Nat.not_le.mp behind, opened, reaches, eq_comm]
    · simp [behind, opened]

/-- A read changes nothing but the buffer, and leaves something of a block in it even if it fails. -/
theorem readInto_eq_of_begin_lt (d : Disk pageSize) {page : PageId}
    (begins : page.index * pageSize < 0x10000000000000000) (buffer : Block pageSize) :
    ∃ rest, readInto page (d, buffer) =
      match d.block? page with
      | .ok block => .ok () (d, block)
      | .error e => .error (.error e) (d, rest) := by
  have offset := PageId.offset_eq_ok begins
  by_cases behind : d.blockCount ≤ page.index
  · exact ⟨buffer, by simp [readInto, block?, behind]⟩
  · by_cases opened : d.isOpen
    · cases answer : d.device.reading page with
      | some trouble =>
        refine ⟨d.arrived (page.index * pageSize) trouble.moved buffer, ?_⟩
        simp [readInto, block?, behind, offset, opened, answer]
      | none =>
        by_cases reaches : d.Reaches page
        · exact ⟨buffer, by simp [readInto, block?, behind, offset, opened, answer, read?_eq, reaches]⟩
        · refine ⟨d.arrived (page.index * pageSize) (d.file.size - page.index * pageSize) buffer, ?_⟩
          simp [readInto, block?, behind, offset, opened, answer, read?_eq, reaches]
    · exact ⟨buffer, by simp [readInto, block?, behind, offset, opened]⟩

theorem readBlock_eq_of_begin_lt (d : Disk pageSize) {page : PageId}
    (begins : page.index * pageSize < 0x10000000000000000) :
    readBlock page d =
      match d.block? page with
      | .ok block => .ok block d
      | .error e => .error (.error e) d := by
  obtain ⟨rest, reading⟩ := d.readInto_eq_of_begin_lt begins .zero
  rw [readBlock, reading]
  cases d.block? page <;> rfl

theorem readBlock_eq (d : Disk pageSize) {page : PageId} (h : page.Addressable pageSize) :
    readBlock page d =
      match d.block? page with
      | .ok block => .ok block d
      | .error e => .error (.error e) d :=
  d.readBlock_eq_of_begin_lt (PageId.begin_lt_of_end_lt h.2)

/-- A block that is counted is looked for at its offset. -/
theorem readInto_faults (d : Disk pageSize) {page : PageId} (counted : page.index < d.blockCount)
    (beyond : ¬ page.index * pageSize < 0x10000000000000000) (buffer : Block pageSize) :
    (readInto page).Faults (d, buffer) := by
  have stops : page.offset pageSize = .error .mulOverflow := if_neg beyond
  exact ⟨.mulOverflow, (d, buffer), by simp [readInto, Nat.not_le.mpr counted, stops]⟩

/-- The places of two pages do not overlap: the one ends before the other begins. -/
theorem outside_of_ne {page other : PageId} {j : Nat} (apart : other ≠ page) (inside : j < pageSize) :
    other.index * pageSize + j < page.index * pageSize ∨
      page.index * pageSize + pageSize ≤ other.index * pageSize + j := by
  rcases Nat.lt_or_gt_of_ne (mt PageId.ext_index apart) with before | behind
  · left
    calc other.index * pageSize + j < (other.index + 1) * pageSize := by
          rw [Nat.succ_mul]
          omega
      _ ≤ page.index * pageSize := Nat.mul_le_mul_right pageSize before
  · right
    calc page.index * pageSize + pageSize = (page.index + 1) * pageSize := (Nat.succ_mul ..).symm
      _ ≤ other.index * pageSize := Nat.mul_le_mul_right pageSize behind
      _ ≤ other.index * pageSize + j := Nat.le_add_right ..

/-! ### Calls that fail, and calls that do not -/

section Reliable

variable {d : Disk pageSize} {page : PageId} (reliable : d.Reliable)

include reliable in
theorem writing_of_reliable (page : PageId) : d.device.writing page = none :=
  congrFun (congrArg Device.writing reliable) page

include reliable in
theorem reading_of_reliable (page : PageId) : d.device.reading page = none :=
  congrFun (congrArg Device.reading reliable) page

include reliable in
theorem takes_iff_of_reliable : d.Takes page ↔ d.HasRoom page ∧ d.isOpen = true := by
  simp [Takes, writing_of_reliable reliable page]

include reliable in
theorem refusal_of_reliable :
    d.refusal page =
      if d.HasRoom page then .closed
      else .allocationExhausted ((page.index + 1) * pageSize) d.maxFileSize := by
  rw [refusal, writing_of_reliable reliable page]
  cases d.isOpen <;> rfl

include reliable in
theorem spoiled_of_reliable (block : Block pageSize) : d.spoiled page block = d := by
  rw [spoiled, writing_of_reliable reliable page, ite_self]

include reliable in
theorem unmoved_of_reliable : ∀ trouble ∈ d.device.writing page, trouble.moved = 0 := by
  simp [writing_of_reliable reliable page]

include reliable in
theorem block?_of_reliable :
    d.block? page =
      if d.blockCount ≤ page.index then .error (.device (.beyondEnd page d.blockCount))
      else if d.isOpen then
        if d.Reaches page then .ok (d.blockAt page) else .error (.device .shortRead)
      else .error .closed := by
  rw [block?, reading_of_reliable reliable page]

end Reliable

section Spoiled

variable (d : Disk pageSize) (page : PageId) (block : Block pageSize)

/-- A write that fails changes the file at most. -/
theorem spoiled_eq : ∃ file, d.spoiled page block = { d with file } := by
  unfold spoiled
  split
  · split
    · exact ⟨_, rfl⟩
    · exact ⟨d.file, rfl⟩
  · exact ⟨d.file, rfl⟩

@[simp] theorem isOpen_spoiled : (d.spoiled page block).isOpen = d.isOpen := by
  obtain ⟨file, spoiled⟩ := d.spoiled_eq page block
  rw [spoiled]

@[simp] theorem blockCount_spoiled : (d.spoiled page block).blockCount = d.blockCount := by
  obtain ⟨file, spoiled⟩ := d.spoiled_eq page block
  rw [spoiled]

@[simp] theorem maxFileSize_spoiled : (d.spoiled page block).maxFileSize = d.maxFileSize := by
  obtain ⟨file, spoiled⟩ := d.spoiled_eq page block
  rw [spoiled]

@[simp] theorem device_spoiled : (d.spoiled page block).device = d.device := by
  obtain ⟨file, spoiled⟩ := d.spoiled_eq page block
  rw [spoiled]

theorem size_le_spoiled : d.file.size ≤ (d.spoiled page block).file.size := by
  unfold spoiled
  split
  · split
    · exact File.size_le_write ..
    · exact Nat.le_refl _
  · exact Nat.le_refl _

/-- A write that fails is in nobody's way. -/
theorem takes_spoiled_iff {other : PageId} : (d.spoiled page block).Takes other ↔ d.Takes other := by
  simp [Takes, HasRoom]

/-- Bytes outside the place of the page are as they were. -/
theorem byteAt_spoiled {i : Nat}
    (outside : i < page.index * pageSize ∨ page.index * pageSize + pageSize ≤ i) :
    (d.spoiled page block).file.byteAt i = d.file.byteAt i := by
  unfold spoiled
  split
  · split
    · next trouble answer =>
      have short : (block.toArray.take trouble.moved).size ≤ pageSize := by
        rw [Array.take_eq_extract, Array.size_extract, Vector.size_toArray, Nat.sub_zero]
        exact Nat.min_le_right ..
      rw [wroteFirst, File.byteAt_write, if_neg (by omega)]
    · rfl
  · rfl

/-- The blocks of other pages are as they were. -/
theorem blockAt_spoiled {other : PageId} (apart : other ≠ page) :
    (d.spoiled page block).blockAt other = d.blockAt other := by
  apply Vector.ext
  intro j hj
  have outside := outside_of_ne apart hj
  simp only [blockAt, Vector.getElem_ofFn, d.byteAt_spoiled page block outside]

/-- A write that has moved no bytes by the time it fails leaves the file as it was. -/
theorem spoiled_of_unmoved (unmoved : ∀ trouble ∈ d.device.writing page, trouble.moved = 0) :
    d.spoiled page block = d := by
  unfold spoiled
  split
  · split
    · next trouble answer =>
      simp [wroteFirst, unmoved trouble answer, File.write]
    · rfl
  · rfl

end Spoiled

/-! ### What a written block changes -/

section Written

variable (d : Disk pageSize) (page : PageId) (block : Block pageSize)
  (h : page.index + 1 < 0x100000000)

@[simp] theorem isOpen_written : (d.written page block h).isOpen = d.isOpen := by
  unfold written
  split <;> rfl

@[simp] theorem device_written : (d.written page block h).device = d.device := by
  unfold written
  split <;> rfl

@[simp] theorem maxFileSize_written : (d.written page block h).maxFileSize = d.maxFileSize := by
  unfold written
  split <;> rfl

theorem file_written :
    (d.written page block h).file = d.file.write (page.index * pageSize) block.toArray := by
  unfold written
  split <;> rfl

/-- The file is long enough for the page afterwards. -/
theorem size_wrote :
    (d.wrote (page.index * pageSize) block).file.size =
      max d.file.size ((page.index + 1) * pageSize) := by
  rw [wrote]
  rcases Nat.eq_zero_or_pos pageSize with rfl | some
  · -- Writing nothing does not even reach the offset.
    rw [File.write, if_pos (by simp), Nat.mul_zero, Nat.max_zero]
  · have filled : block.toArray.size ≠ 0 := by
      rw [Vector.size_toArray]
      omega
    rw [File.size_write _ _ filled, Vector.size_toArray, Nat.succ_mul]

theorem size_written :
    (d.written page block h).file.size = max d.file.size ((page.index + 1) * pageSize) := by
  rw [file_written]
  exact d.size_wrote page block

theorem blockCount_written :
    (d.written page block h).blockCount = max d.blockCount (page.index + 1) := by
  unfold written
  split
  · next behind => exact (Nat.max_eq_right (Nat.le_succ_of_le behind)).symm
  · next held => exact (Nat.max_eq_left (Nat.not_le.mp held)).symm

theorem blockAt_written (other : PageId) :
    (d.written page block h).blockAt other = if other = page then block else d.blockAt other := by
  apply Vector.ext
  intro j hj
  -- A byte of `other` was written exactly if `other` is the page.
  have same_iff : page.index * pageSize ≤ other.index * pageSize + j ∧
      other.index * pageSize + j < page.index * pageSize + pageSize ↔ other = page := by
    constructor
    · rintro ⟨from_start, before_end⟩
      apply Decidable.byContradiction
      intro apart
      rcases outside_of_ne apart hj with before | behind <;> omega
    · rintro rfl
      omega
  simp only [blockAt, file_written, Vector.getElem_ofFn, File.byteAt_write, Vector.size_toArray,
    same_iff]
  split
  · next same =>
    subst same
    simp [Array.getD, hj]
  · -- The other bytes read as before, also where the file did not reach yet.
    simp only [Vector.getElem_ofFn]

/-- What was written can be read. -/
theorem read?_written :
    (d.written page block h).file.read? (page.index * pageSize) pageSize = some block := by
  have reaches : (d.written page block h).Reaches page := by
    right
    rw [size_written, ← Nat.succ_mul]
    exact Nat.le_max_right ..
  rw [read?_eq, if_pos reaches, blockAt_written, if_pos rfl]

theorem Counted.written {d : Disk pageSize} (counted : d.Counted) :
    (d.written page block h).Counted := by
  intro some
  rw [blockCount_written, size_written, counted some]
  -- Either the file was long enough, or it now ends where the block of the page ends.
  rcases Nat.le_total ((page.index + 1) * pageSize) d.file.size with inside | past
  · rw [Nat.max_eq_left inside, Nat.max_eq_left ((Nat.le_div_iff_mul_le some).mpr inside)]
  · rw [Nat.max_eq_right past, Nat.mul_div_cancel _ some, Nat.max_eq_right]
    exact Nat.div_le_of_le_mul (by rwa [Nat.mul_comm])

/-- What could be written before a write can be written after it. -/
theorem HasRoom.written {d : Disk pageSize} {other : PageId} (room : d.HasRoom other) :
    (d.written page block h).HasRoom other := by
  unfold HasRoom at *
  rw [blockCount_written, maxFileSize_written]
  omega

/-- Writing a page that there is room for makes no room that was not there: what it counts anew
lies below its own end. -/
theorem HasRoom.written_iff {d : Disk pageSize} {other : PageId} (room : d.HasRoom page) :
    (d.written page block h).HasRoom other ↔ d.HasRoom other := by
  refine ⟨fun after => ?_, HasRoom.written page block h⟩
  unfold HasRoom at after room ⊢
  rw [blockCount_written, maxFileSize_written] at after
  by_cases below : other.index < page.index + 1
  · have shorter : (other.index + 1) * pageSize ≤ (page.index + 1) * pageSize :=
      Nat.mul_le_mul_right pageSize below
    omega
  · omega

end Written

/-! ### Handles that were just opened -/

theorem reliable_ofNew (maxFileSize : Nat) : (ofNew maxFileSize : Disk pageSize).Reliable := rfl

theorem counted_ofNew (maxFileSize : Nat) : (ofNew maxFileSize : Disk pageSize).Counted := by
  intro _
  show 0 = 0 / pageSize
  rw [Nat.zero_div]

/-- A file can be opened exactly if its pages have a length and each of them has a number. -/
theorem ofFile_eq_ok_iff {maxFileSize : Nat} {file : File} {d : Disk pageSize} :
    ofFile maxFileSize file = .ok d ↔
      0 < pageSize ∧ file.size / pageSize = d.blockCount ∧ d.maxFileSize = maxFileSize ∧
        d.isOpen = true ∧ d.Reliable ∧ d.file = file := by
  rw [ofFile, Checked.div]
  by_cases none : pageSize = 0
  · simp [none]
  · have some := Nat.pos_of_ne_zero none
    simp only [none, if_false, some, true_and]
    constructor
    · intro opened
      -- Opening asks only whether the pages can be counted.
      split at opened
      · cases opened
        exact ⟨rfl, rfl, rfl, rfl, rfl⟩
      · cases opened
    · rintro ⟨blocks, rfl, opened, reliable, rfl⟩
      have named : d.file.size / pageSize < 0x100000000 := blocks ▸ d.blockCount_lt
      rw [dif_pos named]
      cases d
      simp_all [Reliable]

theorem counted_of_ofFile {maxFileSize : Nat} {file : File} {d : Disk pageSize}
    (opened : ofFile maxFileSize file = .ok d) : d.Counted := by
  intro _
  obtain ⟨-, blocks, -, -, -, rfl⟩ := ofFile_eq_ok_iff.mp opened
  exact blocks.symm

theorem reliable_of_ofFile {maxFileSize : Nat} {file : File} {d : Disk pageSize}
    (opened : ofFile maxFileSize file = .ok d) : d.Reliable :=
  (ofFile_eq_ok_iff.mp opened).2.2.2.2.1

end Disk

end PagedStorage
