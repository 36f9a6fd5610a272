import PagedStorage.Proofs.Guards

/-!
# Clean frames

A frame that is not marked as newer than the file, and that nobody is writing, holds exactly what
the file holds (`Reached.clean_eq_block`). So a page may make room unsaved if its frame is clean: the
file is left as it is, and no page reads differently afterwards.
-/

namespace PagedStorage

namespace Pool

variable {size pageSize : Nat} {s t : Pool size pageSize} {f : Fin size} {page : PageId}
  {written : PageId → Prop}

/-- The frame that is evicted is the one whose page was used longest ago. -/
theorem evict_chooses (h : s.Sound) (evicted : evict s = .ok f t) :
    s.recency.IsOldest f ∧ ∃ page, (s.frame f).page = some page := by
  cases chosen : s.recency.evict? with
  | none => simp [evict, chosen] at evicted
  | some entry =>
    obtain ⟨g, recency⟩ := entry
    obtain ⟨oldest, rfl⟩ := h.recency.evict?_eq_some_iff.mp chosen
    obtain ⟨⟨victim, held⟩, -⟩ := h.page_of_standing oldest.standing
    rw [(evict_eq h oldest held).sure] at evicted
    split at evicted <;> cases evicted
    exact ⟨oldest, victim, held⟩

/-- Every page is seen as before when a clean frame has let go of its page. -/
theorem Proper.view_vacated (h : s.Proper written) (held : (s.frame f).page = some page)
    (unpinned : (s.frame f).pins = 0) (clean : (s.frame f).dirty = false) (q : PageId) :
    (s.vacated f page).view q = s.view q := by
  have leads := h.leads_vacated held unpinned clean
  cases seen : s.view q with
  | some block => exact leads.turns.keeps.seen q block id seen
  | none =>
    -- The file is the same, so nothing has come to be seen in it.
    rw [view_eq_none_iff] at seen ⊢
    intro holds
    apply seen
    rw [Holds, table_vacated] at holds
    split at holds
    · exact .inr (holds.resolve_left (by simp))
    · exact holds

theorem Proper.evict_clean (h : s.Proper written) (evicted : evict s = .ok f t)
    (clean : (s.frame f).dirty = false) : t.disk = s.disk ∧ ∀ q, t.view q = s.view q := by
  obtain ⟨oldest, page, held⟩ := evict_chooses h.sound evicted
  have unpinned := (h.sound.page_of_standing oldest.standing).2
  have unsaved : s.saved f page = s := by rw [saved, dif_neg (by simp [clean])]
  rw [(evict_eq h.sound oldest held).sure, if_pos (.inl clean), unsaved] at evicted
  cases evicted
  exact ⟨rfl, h.view_vacated held unpinned clean⟩

end Pool

namespace GuardedPool

variable {size pageSize : Nat} {s : GuardedPool size pageSize}

/-- After every run, a clean frame whose page nobody is writing has the bytes that the file has for
the page, and so an eviction that saves nothing loses nothing. -/
theorem Reached.clean_eq_block (small : pageSize < 0x100000000) (reached : Reached s) :
    (∀ (page : PageId) (f : Fin size), s.pool.table[page]? = some f →
      (s.pool.frame f).dirty = false → s.isWritten page = false →
        page.index < s.pool.disk.blockCount ∧
          s.pool.disk.file.read? (page.index * pageSize) pageSize = some (s.pool.frame f).bytes) ∧
      ∀ f t, Pool.evict s.pool = .ok f t → (s.pool.frame f).dirty = false →
        t.disk = s.pool.disk ∧ ∀ q, t.view q = s.pool.view q := by
  have proper := (reached.sound small).proper
  refine ⟨?_, fun f t evicted clean => proper.evict_clean evicted clean⟩
  intro page f resident clean unwritten
  have held := (proper.sound.table_iff page f).mp resident
  obtain ⟨counted, same⟩ := proper.coherent f page held clean (by simp [unwritten])
  refine ⟨counted, ?_⟩
  rw [Disk.read?_eq, if_pos (proper.counted.reaches counted), same]

/-- A page is written and flushed. -/
theorem clean_eq_block_flushed :
    let page : PageId := ⟨1, by decide⟩
    let s := ((oneFrame.step (.write page #[7, 9])).2.step (.flush page)).2
    s.pool.table[page]? = some 0 ∧ (s.pool.frame 0).dirty = false ∧ s.isWritten page = false ∧
      page.index < s.pool.disk.blockCount ∧
      s.pool.disk.file.read? (page.index * 2) 2 = some (s.pool.frame 0).bytes ∧
      ∀ f t, Pool.evict s.pool = .ok f t → (s.pool.frame f).dirty = false →
        t.disk = s.pool.disk ∧ ∀ q, t.view q = s.pool.view q := by
  intro page s
  have next : page.index + 1 < 0x100000000 := by decide
  have writes : oneFrame.Steps (.write page #[7, 9]) (.done .done)
      (oneFrame.step (.write page #[7, 9])).2 := .made _
  have flushes : Steps (oneFrame.step (.write page #[7, 9])).2 (.flush page)
      (.done (.flag true)) s := .made _
  have start : Reached oneFrame := .created (show Pool.ofDisk (Disk.ofNew 8) = .ok _ from rfl)
  have written : Reached (oneFrame.step (.write page #[7, 9])).2 :=
    .step start (show (PoolRequest.write page _).Numbered from next) writes nofun
  have flushed : Reached s :=
    .step written (show (PoolRequest.flush page).Numbered from next) flushes nofun
  have resident : s.pool.table[page]? = some 0 := rfl
  have clean : (s.pool.frame 0).dirty = false := rfl
  obtain ⟨same, evicts⟩ := flushed.clean_eq_block (by decide)
  obtain ⟨counted, block⟩ := same page 0 resident clean rfl
  exact ⟨resident, clean, rfl, counted, block, evicts⟩

end GuardedPool

end PagedStorage
