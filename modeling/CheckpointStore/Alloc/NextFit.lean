import CheckpointStore.Alloc.Allocator

/-!
# CheckpointStore.Alloc.NextFit — which block `allocateBlock` hands out

The search of `allocateBlock` probes `usedChunkInfo_` in one order, from the cursor to the end
and then from 0 (`probeRank`), for at most `ALLOCATE_BLOCK_SEARCH_LIMIT + 2` probes, and leaves
the cursor one past where it stopped.  Under `Inv` this makes `allocateBlock` a next-fit
allocator with a bounded probe:

* `allocateBlock_reuse`: a block handed out from inside the bitmap is the search's, and the
  cursor moves one past the search's last position.
* `allocateBlock_next_fit`: that block is the free bit first in the probe order, the cursor
  ends just past it, and a free bit among the first `ALLOCATE_BLOCK_SEARCH_LIMIT + 1` positions
  of the order is always reused: `allocateBlock` appends only when they are all marked.
* `allocateBlock_valid`: only an appended block has its valid bit cleared; a reused block keeps
  the valid bit it had.
-/

namespace CheckpointStore

namespace CheckpointFile

variable {limit : Nat} {cf cf' : CheckpointFile}

/-- A block reused from inside the bitmap is the search's, and the cursor moves past it. -/
theorem allocateBlock_reuse {p : Nat} (ha : allocateBlock limit cf = .ok (p, cf'))
    (hp : p < cf.usedChunkInfo_.length) :
    0 < cf.freeUseBitNum_ ∧
      (freeBlockSearch limit cf.usedChunkInfo_ cf.freeBlockSearchCursor_).allocatePos = some p ∧
      cf'.freeBlockSearchCursor_ =
        if (freeBlockSearch limit cf.usedChunkInfo_ cf.freeBlockSearchCursor_).pos + 1 ≥
          cf.usedChunkInfo_.length then 0
        else (freeBlockSearch limit cf.usedChunkInfo_ cf.freeBlockSearchCursor_).pos + 1 := by
  obtain ⟨hc, hs⟩ := allocateBlock_ok_iff.mp ha
  obtain ⟨free, rfl⟩ := setUsedBlockInfo_ok hs
  have hsnd := searchStep_snd limit cf
  show _ ∧ _ ∧ (chooseBlock limit cf).2.freeBlockSearchCursor_ = _
  unfold chooseBlock at hc ⊢
  rcases hst : searchStep limit cf with ⟨_ | q, cf₁⟩ <;> rw [hst] at hc hsnd <;>
    dsimp only at hc hsnd ⊢
  · -- nothing found: `append` hands out the length
    rw [hsnd] at hc
    simp only [appendBlock, BitArray.append_eq_set] at hc
    omega
  · subst hc
    rcases Nat.eq_zero_or_pos cf.freeUseBitNum_ with h0 | hpos
    · rw [searchStep_of_zero h0] at hst; cases hst
    · rw [searchStep_of_pos hpos] at hst
      obtain ⟨h1, rfl⟩ := Prod.mk.inj hst
      exact ⟨hpos, h1, rfl⟩

/-- **`allocateBlock` is next-fit.**  Under `Inv`, a block it hands out from inside the bitmap
is the free bit first in the probe order from the cursor, and the cursor moves one past it
(to 0 at the end); and whenever a free bit lies among the first
`ALLOCATE_BLOCK_SEARCH_LIMIT + 1` positions of that order, `allocateBlock` reuses a free bit
rather than appending. -/
theorem allocateBlock_next_fit (h : Inv cf) :
    (∀ p cf', cf.allocateBlock limit = .ok (p, cf') → p < cf.usedChunkInfo_.length →
      cf.usedChunkInfo_.get p = false ∧
      (∀ q < cf.usedChunkInfo_.length, cf.usedChunkInfo_.get q = false →
        probeRank cf.usedChunkInfo_.length cf.freeBlockSearchCursor_ p ≤
          probeRank cf.usedChunkInfo_.length cf.freeBlockSearchCursor_ q) ∧
      cf'.freeBlockSearchCursor_ = (p + 1) % cf.usedChunkInfo_.length) ∧
    (∀ q < cf.usedChunkInfo_.length, cf.usedChunkInfo_.get q = false →
      probeRank cf.usedChunkInfo_.length cf.freeBlockSearchCursor_ q ≤ limit →
      ∃ p cf', cf.allocateBlock limit = .ok (p, cf') ∧ p < cf.usedChunkInfo_.length) := by
  refine ⟨fun p cf' ha hp => ?_, fun q hq hqf hr => ?_⟩
  · -- the block handed out is the search's first free bit
    obtain ⟨-, hfound, hcur⟩ := allocateBlock_reuse ha hp
    obtain ⟨hpf, hpos, hfirst⟩ := freeBlockSearch_first hfound
    refine ⟨hpf, hfirst, ?_⟩
    rw [hcur, hpos]
    split_ifs with hge
    · rw [show p + 1 = cf.usedChunkInfo_.length by omega, Nat.mod_self]
    · rw [Nat.mod_eq_of_lt (by omega)]
  · -- a free bit within the probe bound is found, then marked
    obtain ⟨p, hp⟩ := freeBlockSearch_finds hq hqf hr
    have hpos : cf.freeUseBitNum_ > 0 := h.free_eq ▸ BitArray.countFalse_pos hq hqf
    have hstep : (searchStep limit cf).1 = some p := by
      rw [searchStep_of_pos hpos]
      exact hp
    obtain ⟨hpL, -⟩ := searchStep_found h.free_eq hstep
    have hi : Inv (searchStep limit cf).2 := by
      rw [searchStep_snd]
      exact ⟨h.free_eq, h.length_eq⟩
    obtain ⟨cf', hs, -⟩ := hi.setUsedBlockInfo true (by rw [searchStep_snd]; exact hpL)
    exact ⟨p, cf', allocateBlock_ok_iff.mpr ⟨by rw [chooseBlock_of_found hstep], by
      rw [chooseBlock_of_found hstep]; exact hs⟩, hpL⟩

theorem allocateBlock_next_fit_from_cursor :
    ∃ cf : CheckpointFile, cf.usedChunkInfo_ = ⟨[true, false, false]⟩ ∧
      cf.freeBlockSearchCursor_ = 2 ∧ Inv cf ∧
      ∃ cf', cf.allocateBlock 1024 = .ok (2, cf') ∧ cf'.freeBlockSearchCursor_ = 0 := by
  have hinv : Inv { init ⟨12, "", 0, 0, 0, [], by decide⟩ with
      usedChunkInfo_ := ⟨[true, false, false]⟩, validChunkInfo_ := ⟨[false, false, false]⟩
      freeUseBitNum_ := 2, freeBlockSearchCursor_ := 2 } := ⟨rfl, rfl⟩
  obtain ⟨hfirst, hfind⟩ := @allocateBlock_next_fit 1024 _ hinv
  obtain ⟨p, cf', ha, hp⟩ := hfind 2 (by decide) rfl (by decide)
  obtain ⟨-, hrank, hcur⟩ := hfirst p cf' ha hp
  have key : ∀ p < 3, probeRank 3 2 p ≤ probeRank 3 2 2 → p = 2 := by decide
  obtain rfl := key p hp (hrank 2 (by decide) rfl)
  exact ⟨_, rfl, rfl, hinv, cf', ha, hcur⟩

/-- **A reused block keeps its valid bit.**  Under `Inv`, `allocateBlock` changes the valid
bitmap only when it appends, clearing the new block's bit; a block it reuses from inside the
bitmap keeps the valid bit it had.  `freeBlock` and `setUsedBlockInfo` never touch it. -/
theorem allocateBlock_valid (h : Inv cf) :
    (∀ p cf', cf.allocateBlock limit = .ok (p, cf') →
      cf'.validChunkInfo_ = if p < cf.usedChunkInfo_.length then cf.validChunkInfo_
        else cf.validChunkInfo_.set p false) ∧
    (∀ b cf', cf.freeBlock b = .ok cf' → cf'.validChunkInfo_ = cf.validChunkInfo_) ∧
    ∀ b flag cf', cf.setUsedBlockInfo b flag = .ok cf' →
      cf'.validChunkInfo_ = cf.validChunkInfo_ := by
  have hset : ∀ {c c' : CheckpointFile} {b : Nat} {flag : Bool},
      c.setUsedBlockInfo b flag = .ok c' → c'.validChunkInfo_ = c.validChunkInfo_ := fun hs => by
    obtain ⟨free, rfl⟩ := setUsedBlockInfo_ok hs
    rfl
  refine ⟨fun p cf' ha => ?_, fun b cf' hf => ?_, fun b flag cf' hs => hset hs⟩
  · obtain ⟨hc, hs⟩ := allocateBlock_ok_iff.mp ha
    rcases hcb : chooseBlock limit cf with ⟨q, cf₁⟩
    rw [hcb] at hc hs
    obtain rfl : q = p := hc
    rw [hset hs]
    obtain ⟨cursor, ⟨hp, -, rfl⟩ | ⟨hp, rfl⟩⟩ := chooseBlock_cases h.free_eq hcb
    · rw [if_pos hp]
    · rw [if_neg (by omega), hp]
  · unfold freeBlock at hf
    rcases ite_eq_iff.1 hf with ⟨-, hf⟩ | ⟨-, hf⟩
    · cases hf
    · rcases ite_eq_iff.1 hf with ⟨-, hf⟩ | ⟨-, hf⟩
      · cases hf
      · exact hset hf

theorem allocateBlock_valid_reuse :
    ∃ cf : CheckpointFile, Inv cf ∧ cf.validChunkInfo_ = ⟨[true, true]⟩ ∧
      ∃ cf', cf.allocateBlock 1024 = .ok (1, cf') ∧ cf'.validChunkInfo_ = ⟨[true, true]⟩ := by
  have hinv : Inv { init ⟨12, "", 0, 0, 0, [], by decide⟩ with
      usedChunkInfo_ := ⟨[true, false]⟩, validChunkInfo_ := ⟨[true, true]⟩
      freeUseBitNum_ := 1 } := ⟨rfl, rfl⟩
  obtain ⟨hv, -, -⟩ := @allocateBlock_valid 1024 _ hinv
  obtain ⟨cf', ha⟩ : ∃ cf', allocateBlock 1024 { init ⟨12, "", 0, 0, 0, [], by decide⟩ with
      usedChunkInfo_ := ⟨[true, false]⟩, validChunkInfo_ := ⟨[true, true]⟩
      freeUseBitNum_ := 1 } = .ok (1, cf') := ⟨_, by rfl⟩
  exact ⟨_, hinv, rfl, cf', ha, hv 1 cf' ha⟩

end CheckpointFile

end CheckpointStore
