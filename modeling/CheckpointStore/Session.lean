import CheckpointStore.Alloc.Refinement
import CheckpointStore.Frame

/-!
# CheckpointStore.Session — what one object leaves on disk for the next

The store's bytes live in its files, and `open` only attaches handles and creates missing files
empty, so what an object wrote outlives it: a new object with the same settings, opened on the
disk the old one left, sees the same bytes and reads back every block it counts.  `truncate`
instead leaves every file empty, and the next object finds the store empty.

* `reopen_keeps_content`: an object opened (returned or thrown) on the disk a store left, with
  the store's settings, sees every byte of it; when `open` returns, `readBlock(buffer, 1, b)` of
  a block up to the count it makes returns the old store's bytes when the block lies within its
  file, and the read fault when it does not.
* `truncate_empties`: `truncate()` returns exactly when `open` named every split slot and its
  file can be had; then every slot has a read-write, locked handle over an empty file,
  `blockNum_` and `getFileSize()` are 0 and every byte reads 0, and an object opened afterwards
  on that disk counts no block and reports the store empty.
* `open_disk_spec`: `open` changes the disk only by creating the missing files of the split
  slots empty, and only when `createMode` is set and `checkOnly` is not.
* `reopen_counts_marked_free`: a second `open` of one object counts the blocks still marked as
  free, so the allocator's invariant fails and such a block can no longer be freed.
-/

namespace CheckpointStore

namespace Store

/-- **Durability across objects.**  A new object with a store's settings, opened with any flags
on the disk the store left, returned or thrown, keeps the settings and sees every byte of the
store.  When `open` returns and blocks are shorter than `2 ^ 32` bytes, `readBlock(buffer, 1, b)`
of a block `b ≤ blockNum_` below `2 ^ 63` bytes returns the old store's bytes of block `b` when
the block lies within its file, and otherwise fails with the read fault, leaving the object. -/
theorem reopen_keeps_content {s t : Store} {checkOnly createMode : Bool}
    (h : after (Store.open ⟨.init s.cfg, s.fs⟩ checkOnly createMode) = some t) :
    t.cfg = s.cfg ∧ t.content = s.content ∧
      ∀ e, Store.open ⟨.init s.cfg, s.fs⟩ checkOnly createMode = .ok e t →
        s.cfg.BLOCK_EXP_SIZE_ < 32 → ∀ b : UInt64, b.toNat ≤ t.cf.blockNum_ →
          b.toNat * s.cfg.BLOCK_SIZE_ < 2 ^ 63 →
          (s.Stored b.toNat → ∃ t', t.readBlock 1 b = .ok (1, (List.range s.cfg.BLOCK_SIZE_).map
            fun j => s.content (b.toNat * s.cfg.BLOCK_SIZE_ + j)) t') ∧
          (¬s.Stored b.toNat → t.readBlock 1 b = .error readFault t) := by
  have hf := frame_open (s := ⟨.init s.cfg, s.fs⟩) checkOnly createMode
  have hg := grows_open (s := ⟨.init s.cfg, s.fs⟩) checkOnly createMode
  rw [resultStore_of_after h] at hf hg
  have hcfg : t.cfg = s.cfg := hf.cfg
  have hfile : ∀ i, t.file i = s.file i := file_of_grows hcfg hg
  have hcont : t.content = s.content := content_congr hcfg hfile
  refine ⟨hcfg, hcont, fun e ho hE b hb hlt => ?_⟩
  -- the slot of block `b` has the handle `open` attached, not closed
  have hn := s.cfg.calcFileNth_lt (b.toNat * s.cfg.BLOCK_SIZE_)
  obtain ⟨-, -, -, -, hall⟩ := open_ok ho
  have hst : t.Stored b.toNat ↔ s.Stored b.toNat := by unfold Stored; rw [hcfg, hfile]
  rw [readBlock_one_of_handle (by rwa [hcfg]) hb (by rwa [hcfg])
    (by rw [hcfg]; exact (hall _ hn).2.2.1) rfl, hcfg, hcont]
  exact ⟨fun hs => ⟨_, if_pos (hst.mpr hs)⟩, fun hs => if_neg (mt hst.mp hs)⟩

theorem reopen_keeps_content_split :
    ∃ e s₀ s t, Store.open ⟨.init ⟨12, "", 0, 2, 1, ["d"], by decide⟩,
        ⟨fun _ => .directory, fun _ => none⟩⟩ false true = .ok e s₀ ∧
      runCalls 0 [.writeBlock [1] 1 1] s₀ = some s ∧
      after (Store.open ⟨.init s.cfg, s.fs⟩ false false) = some t ∧
      t.cfg = s.cfg ∧ t.content = s.content ∧
      ∀ e, Store.open ⟨.init s.cfg, s.fs⟩ false false = .ok e t →
        s.cfg.BLOCK_EXP_SIZE_ < 32 → ∀ b : UInt64, b.toNat ≤ t.cf.blockNum_ →
          b.toNat * s.cfg.BLOCK_SIZE_ < 2 ^ 63 →
          (s.Stored b.toNat → ∃ t', t.readBlock 1 b = .ok (1, (List.range s.cfg.BLOCK_SIZE_).map
            fun j => s.content (b.toNat * s.cfg.BLOCK_SIZE_ + j)) t') ∧
          (¬s.Stored b.toNat → t.readBlock 1 b = .error readFault t) :=
  ⟨_, _, _, _, rfl, rfl, rfl, reopen_keeps_content rfl⟩

/-- **`truncate` empties the store, also for the next object.**  `truncate()` returns exactly
when every split slot is named (`open` reached it) and its file is on disk or can be created.
Then every split slot has a read-write, locked handle over an empty file on disk, `blockNum_` and
`getFileSize()` are 0, and every byte of the store reads 0; a new object with the same settings
opened on that disk, with any flags, counts no block and reports the store empty. -/
theorem truncate_empties {s : Store} :
    ((∃ s', s.truncate = .ok () s') ↔ ∀ i < s.cfg.splitCount_,
      s.cf.fileNameList_ i = some (s.cfg.fileName i) ∧ s.canCreate i (s.cfg.fileName i)) ∧
    ∀ s', s.truncate = .ok () s' →
      (∀ i < s.cfg.splitCount_, s'.cf.fileList_ i = some .readWrite ∧
        s'.fs.files (s.cfg.fileName i) = some .empty) ∧
      s'.cf.blockNum_ = 0 ∧ s'.getFileSize = .ok 0 ∧ (∀ o, s'.content o = 0) ∧
      ∀ checkOnly createMode e t, Store.open ⟨.init s.cfg, s'.fs⟩ checkOnly createMode = .ok e t →
        e = true ∧ t.cf.blockNum_ = 0 := by
  refine ⟨truncate_ok_iff, fun s' h => ?_⟩
  obtain ⟨hcfg, -, hl, hb, -, -, -, -, -, hf⟩ := truncate_eq_ok h
  have hfiles : ∀ i < s.cfg.splitCount_, s'.fs.files (s.cfg.fileName i) = some .empty :=
    fun i hi => by rw [hf, if_pos ⟨i, hi, rfl⟩]
  have hfile : ∀ i < s.cfg.splitCount_, (s'.fs.files (s.cfg.fileName i)).getD .empty = .empty :=
    fun i hi => by rw [hfiles i hi]; rfl
  have hBS := s.cfg.BLOCK_SIZE_pos
  refine ⟨fun i hi => ⟨by rw [hl, if_pos hi], hfiles i hi⟩, hb, ?_, fun o => ?_,
    fun _ _ e t ho => ?_⟩
  · -- every handle is open and every file empty
    have hopen : ∀ i < s'.cfg.splitCount_, ∀ hd, s'.cf.fileList_ i = some hd → hd.isClosed = false :=
      fun i hi hd hh => by rw [hl, if_pos (hcfg ▸ hi)] at hh; cases hh; rfl
    rw [getFileSize_eq hopen]
    refine congrArg Except.ok (List.sum_eq_zero fun x hx => ?_)
    obtain ⟨i, hi, rfl⟩ := List.mem_map.mp hx
    rw [file, hcfg, hfile i (hcfg ▸ List.mem_range.mp hi)]
    split <;> rfl
  · rw [content, file, hcfg, hfile _ (s.cfg.calcFileNth_lt o)]
    rfl
  · -- the next object counts `ceil(0 / BLOCK_SIZE) = 0` blocks per slot
    obtain ⟨hb', he, -⟩ := open_ok ho
    have h0 : t.cf.blockNum_ = 0 := by
      rw [hb']
      refine List.sum_eq_zero fun x hx => ?_
      obtain ⟨i, hi, rfl⟩ := List.mem_map.mp hx
      rw [show Store.file ⟨.init s.cfg, s'.fs⟩ i = .empty from hfile i (List.mem_range.mp hi)]
      exact Nat.div_eq_of_lt (show 0 + s.cfg.BLOCK_SIZE_ - 1 < s.cfg.BLOCK_SIZE_ by omega)
    exact ⟨by rw [he, h0]; rfl, h0⟩

/-- **What `open` does to the disk.**  Unless `createMode` is set and `checkOnly` is not,
`open(checkOnly, createMode)`, returned or thrown, leaves the disk as it was.  An `open` that
returns keeps every file there was, and creates the missing files of the split slots empty. -/
theorem open_disk_spec {s : Store} {checkOnly createMode : Bool} :
    ((checkOnly = true ∨ createMode = false) →
      (resultStore (s.open checkOnly createMode)).fs = s.fs) ∧
    ∀ e s', s.open checkOnly createMode = .ok e s' → ∀ n, s'.fs.files n =
      if (∃ i < s.cfg.splitCount_, s.cfg.fileName i = n) ∧ (s.fs.files n).isNone then some .empty
      else s.fs.files n := by
  refine ⟨fun h => ?_, fun e s' ho n => ?_⟩
  · have hl := openLoop_fs h (List.range s.cfg.splitCount_) 0 s
    unfold Store.open
    split <;> rename_i heq <;> rw [heq] at hl <;> exact hl
  · obtain ⟨-, -, -, hg, hall⟩ := open_ok ho
    have hf := frame_open (s := s) checkOnly createMode
    rw [ho] at hf
    split_ifs with hn
    · -- a missing file of a slot: `open` created it, and only empty
      obtain ⟨⟨i, hi, rfl⟩, hnone⟩ := hn
      rcases hg.files (s.cfg.fileName i) with h | ⟨-, h⟩
      · have hsome := (hall i hi).2.2.2
        rw [h, Option.isNone_iff_eq_none.mp hnone] at hsome
        cases hsome
      · exact h
    · by_cases hslot : ∃ i < s.cfg.splitCount_, s.cfg.fileName i = n
      · exact hg.eq_of_isSome (by simpa [hslot, Option.isSome_iff_ne_none] using hn)
      · exact hf.other n fun i hi h => hslot ⟨i, hi, h⟩

/-- **A second `open` counts marked blocks free.**  `open` keeps the bits `usedChunkInfo_`
already holds, but for bit `blockNum_ + 1`, and sets `freeUseBitNum_` to its length.  On an
object with a marked block, one allocated before a `close()` say, the count then exceeds the
free bits, the allocator's invariant fails, and `freeBlock` of the marked block stops at
`setUsedBlockInfo`'s `assert(freeUseBitNum_ <= usedChunkInfo_.length())`. -/
theorem reopen_counts_marked_free {s s' : Store} {checkOnly createMode e : Bool}
    (h : s.open checkOnly createMode = .ok e s') :
    s'.cf.freeUseBitNum_ = s'.cf.usedChunkInfo_.length ∧
    (∀ b, b ≠ s'.cf.blockNum_ + 1 → s'.cf.usedChunkInfo_.get b = s.cf.usedChunkInfo_.get b) ∧
    ∀ b, s'.cf.usedChunkInfo_.get b = true → ¬s'.cf.Inv ∧
      s'.cf.freeBlock b = .error (.assertion "freeUseBitNum_ <= usedChunkInfo_.length()") := by
  obtain ⟨hused, -, hfree, -⟩ := open_ok_used h
  refine ⟨hfree, fun b hb => by rw [hused, BitArray.get_set, if_neg hb], fun b hb => ?_⟩
  have hlt := CheckpointFile.lt_length_of_get hb
  -- freeing a marked bit adds one false bit, and the bits never outnumber the array
  have hc := BitArray.countFalse_set_of_lt false hlt
  have hle := BitArray.countFalse_le_length (s'.cf.usedChunkInfo_.set b false)
  rw [hb] at hc
  rw [BitArray.length_set, Nat.max_eq_left hlt] at hle
  simp only [Bool.not_true, Bool.not_false, Bool.toNat_false, Bool.toNat_true] at hc
  refine ⟨fun hi => by have := hi.free_eq; omega, ?_⟩
  rw [CheckpointFile.freeBlock, if_neg (by omega), if_neg (by simp [hb]),
    CheckpointFile.setUsedBlockInfo]
  simp [hb, hfree, Nat.max_eq_left hlt]

theorem reopen_counts_marked_free_after_close :
    ∃ e₀ s₀ s₁ e s', Store.open ⟨.init ⟨12, "", 0, 0, 1, [], by decide⟩,
        ⟨fun _ => .directory, fun _ => none⟩⟩ false true = .ok e₀ s₀ ∧
      runCalls 1024 [.allocateBlock, .close] s₀ = some s₁ ∧
      s₁.open false false = .ok e s' ∧ s'.cf.usedChunkInfo_.get 0 = true ∧
      s'.cf.freeUseBitNum_ = s'.cf.usedChunkInfo_.length ∧
      (∀ b, b ≠ s'.cf.blockNum_ + 1 → s'.cf.usedChunkInfo_.get b = s₁.cf.usedChunkInfo_.get b) ∧
      ∀ b, s'.cf.usedChunkInfo_.get b = true → ¬s'.cf.Inv ∧
        s'.cf.freeBlock b = .error (.assertion "freeUseBitNum_ <= usedChunkInfo_.length()") :=
  ⟨_, _, _, _, _, rfl, rfl, rfl, rfl, @reopen_counts_marked_free _ _ false false _ rfl⟩

end Store

end CheckpointStore
