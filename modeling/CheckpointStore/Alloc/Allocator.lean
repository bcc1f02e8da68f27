import CheckpointStore.State
import CheckpointStore.Alloc.Search

/-!
# CheckpointStore.Alloc.Allocator — the bitmap members of `CheckpointFile`

`allocateBlock`, `freeBlock`, `setUsedBlockInfo`, `getUsedBlockInfo`,
`initializeUsedBlockInfo` and their `valid` counterparts, each with its `assert`s.
`allocateBlock` is cut at its closing `setUsedBlockInfo(allocatePos, true)`: `chooseBlock`
is the part before it (search, cursor update, append).

* `Inv`: `freeUseBitNum_` counts the false bits of `usedChunkInfo_`, and the two bitmaps have
  one length.
* `setUsedBlockInfo_of_lt`: inside the array, with the count right, `setUsedBlockInfo`
  passes its asserts and leaves the count right; `setUsedBlockInfo_past_end`: past the end it
  never does, the zero-filled gap going uncounted.
* `allocateBlock_eq`: under `Inv`, `allocateBlock` reuses a false bit of the array or appends.
* `freeBlock_no_double_free`: `freeBlock` returns only for a marked block and, under `Inv`,
  frees every marked one.
-/

namespace CheckpointStore
namespace CheckpointFile

/-- `assert(cond)`, with the asserted expression as written. -/
def assert (cond : Bool) (expr : String) : Except Fault Unit :=
  if cond then .ok () else .error (.assertion expr)

/-- `setUsedBlockInfo(blockNo, flag)`: only a flip of the bit moves `freeUseBitNum_`. -/
def setUsedBlockInfo (blockNo : Nat) (flag : Bool) (cf : CheckpointFile) :
    Except Fault CheckpointFile :=
  let oldFlag := cf.usedChunkInfo_.get blockNo
  let used := cf.usedChunkInfo_.set blockNo flag
  if flag && oldFlag != flag && cf.freeUseBitNum_ = 0 then .error (.assertion "freeUseBitNum_ != 0")
  else
    let free :=
      if flag && oldFlag != flag then cf.freeUseBitNum_ - 1
      else if !flag && oldFlag != flag then cf.freeUseBitNum_ + 1
      else cf.freeUseBitNum_
    if free ≤ used.length then .ok { cf with usedChunkInfo_ := used, freeUseBitNum_ := free }
    else .error (.assertion "freeUseBitNum_ <= usedChunkInfo_.length()")

/-- `getUsedBlockInfo(blockNo)`. -/
def getUsedBlockInfo (blockNo : Nat) (cf : CheckpointFile) : Except Fault Bool :=
  if cf.usedChunkInfo_.length ≥ blockNo then .ok (cf.usedChunkInfo_.get blockNo)
  else .error (.assertion "usedChunkInfo_.length() >= blockNo")

/-- `freeBlock(blockNo)`. -/
def freeBlock (blockNo : Nat) (cf : CheckpointFile) : Except Fault CheckpointFile :=
  if cf.usedChunkInfo_.length < blockNo then
    .error (.assertion "usedChunkInfo_.length() >= (blockNo)")
  else if !cf.usedChunkInfo_.get blockNo then .error (.assertion "usedChunkInfo_.get(blockNo)")
  else cf.setUsedBlockInfo blockNo false

/-- `initializeUsedBlockInfo()`: `blockNum_` false bits, all free; its `assert` then holds. -/
def initializeUsedBlockInfo (cf : CheckpointFile) : CheckpointFile :=
  { cf with
    usedChunkInfo_ := (fun b : BitArray => (b.append false).2)^[cf.blockNum_]
      ((cf.usedChunkInfo_.clear).reserve cf.blockNum_)
    freeUseBitNum_ := cf.blockNum_ }

/-- `setValidBlockInfo(blockNo, flag)`. -/
def setValidBlockInfo (blockNo : Nat) (flag : Bool) (cf : CheckpointFile) : CheckpointFile :=
  { cf with validChunkInfo_ := cf.validChunkInfo_.set blockNo flag }

/-- `getValidBlockInfo(blockNo)`. -/
def getValidBlockInfo (blockNo : Nat) (cf : CheckpointFile) : Bool :=
  cf.validChunkInfo_.get blockNo

/-- `initializeValidBlockInfo()`: `blockNum_` false bits. -/
def initializeValidBlockInfo (cf : CheckpointFile) : CheckpointFile :=
  { cf with
    validChunkInfo_ := (fun b : BitArray => (b.append false).2)^[cf.blockNum_]
      ((cf.validChunkInfo_.clear).reserve cf.blockNum_) }

section Allocate

variable (limit : Nat)

/-- The search loops of `allocateBlock`, run only when `freeUseBitNum_ > 0`. -/
def search (cf : CheckpointFile) : Option Search :=
  if cf.freeUseBitNum_ > 0 then
    some (freeBlockSearch limit cf.usedChunkInfo_ cf.freeBlockSearchCursor_)
  else none

/-- `allocatePos` after the search (`none` for `-1`), and the cursor moved one past the search's
last `pos`, wrapped to 0. -/
def searchStep (cf : CheckpointFile) : Option Nat × CheckpointFile :=
  match search limit cf with
  | some r => (r.allocatePos, { cf with freeBlockSearchCursor_ :=
      if r.pos + 1 ≥ cf.usedChunkInfo_.length then 0 else r.pos + 1 })
  | none => (none, cf)

/-- The `allocatePos == -1` branch: append a `true` bit, set the new block's valid bit `false`. -/
def appendBlock (cf : CheckpointFile) : Nat × CheckpointFile :=
  let a := cf.usedChunkInfo_.append true
  (a.1, { cf with usedChunkInfo_ := a.2, validChunkInfo_ := cf.validChunkInfo_.set a.1 false })

/-- `allocateBlock` before its closing `setUsedBlockInfo(allocatePos, true)`. -/
def chooseBlock (cf : CheckpointFile) : Nat × CheckpointFile :=
  match searchStep limit cf with
  | (some p, cf') => (p, cf')
  | (none, cf') => appendBlock cf'

/-- `allocateBlock()`: the block handed out, and the object after. -/
def allocateBlock (cf : CheckpointFile) : Except Fault (Nat × CheckpointFile) :=
  let c := chooseBlock limit cf
  (c.2.setUsedBlockInfo c.1 true).map fun cf' => (c.1, cf')

end Allocate

/-- The representation invariant of the allocator. -/
structure Inv (cf : CheckpointFile) : Prop where
  free_eq : cf.freeUseBitNum_ = cf.usedChunkInfo_.countFalse
  length_eq : cf.usedChunkInfo_.length = cf.validChunkInfo_.length

variable {limit : Nat} {cf : CheckpointFile}

/-! ### `setUsedBlockInfo` -/

theorem setUsedBlockInfo_of_lt {blockNo : Nat} (flag : Bool)
    (hfree : cf.freeUseBitNum_ = cf.usedChunkInfo_.countFalse) (hb : blockNo < cf.usedChunkInfo_.length) :
    cf.setUsedBlockInfo blockNo flag = .ok { cf with
      usedChunkInfo_ := cf.usedChunkInfo_.set blockNo flag
      freeUseBitNum_ := (cf.usedChunkInfo_.set blockNo flag).countFalse } := by
  have hc := BitArray.countFalse_set_of_lt flag hb
  have hle := (cf.usedChunkInfo_.set blockNo flag).countFalse_le_length
  generalize hg : cf.usedChunkInfo_.get blockNo = g at hc
  obtain ⟨hnz, hnew⟩ : ¬(flag && g != flag && decide (cf.freeUseBitNum_ = 0)) = true ∧
      (if (flag && g != flag) = true then cf.freeUseBitNum_ - 1
        else if (!flag && g != flag) = true then cf.freeUseBitNum_ + 1
        else cf.freeUseBitNum_) = (cf.usedChunkInfo_.set blockNo flag).countFalse := by
    cases g <;> cases flag <;> refine ⟨?_, ?_⟩ <;>
      simp only [Bool.not_false, Bool.not_true, Bool.toNat_true, Bool.toNat_false, add_zero,
        bne_self_eq_false, Bool.bne_true, Bool.bne_false, Bool.and_self, Bool.and_true,
        Bool.and_false, Bool.true_and, Bool.false_and, Bool.false_eq_true, not_false_eq_true,
        decide_eq_true_eq, ↓reduceIte] at hc ⊢ <;> omega
  unfold setUsedBlockInfo
  dsimp only
  rw [hg, if_neg hnz, hnew, if_pos hle]

/-- **Past the end the count drifts.**  When `setUsedBlockInfo` grows the array, the bit it reads
past the end is `false`, so the count moves as for a free bit turned over, and the zero-filled
gap is never counted: whenever the call returns, `freeUseBitNum_` falls short of the false bits
by the gap plus one.  Only marking a bit with no free bit counted stops at the first `assert`. -/
theorem setUsedBlockInfo_past_end {blockNo : Nat} (flag : Bool) (h : Inv cf)
    (hb : cf.usedChunkInfo_.length ≤ blockNo) :
    (flag = true ∧ cf.freeUseBitNum_ = 0 ∧
      cf.setUsedBlockInfo blockNo flag = .error (.assertion "freeUseBitNum_ != 0")) ∨
    ∃ cf', cf.setUsedBlockInfo blockNo flag = .ok cf' ∧
      cf'.freeUseBitNum_ + (blockNo - cf.usedChunkInfo_.length) + 1 =
        cf'.usedChunkInfo_.countFalse := by
  have hc := BitArray.countFalse_set_of_le flag hb
  have hle : cf.freeUseBitNum_ ≤ (cf.usedChunkInfo_.set blockNo flag).length := by
    rw [h.free_eq, BitArray.length_set]
    exact le_max_of_le_left cf.usedChunkInfo_.countFalse_le_length
  rw [← h.free_eq] at hc
  have hg := BitArray.get_of_length_le hb
  cases flag with
  | false =>
    refine .inr ⟨{ cf with usedChunkInfo_ := cf.usedChunkInfo_.set blockNo false }, ?_, ?_⟩
    · simp only [setUsedBlockInfo, hg, bne_self_eq_false, Bool.and_false, Bool.false_and,
        Bool.false_eq_true, ↓reduceIte]
      exact if_pos hle
    · simp only [hc, Bool.not_false, Bool.toNat_true]
  | true =>
    by_cases h0 : cf.freeUseBitNum_ = 0
    · exact .inl ⟨rfl, h0, by simp only [setUsedBlockInfo, hg, h0]; rfl⟩
    · refine .inr ⟨{ cf with
          usedChunkInfo_ := cf.usedChunkInfo_.set blockNo true
          freeUseBitNum_ := cf.freeUseBitNum_ - 1 }, ?_, ?_⟩
      · simp only [setUsedBlockInfo, hg, h0, Bool.bne_true, Bool.not_false, Bool.and_self,
          decide_False, Bool.and_false, Bool.false_eq_true, ↓reduceIte]
        exact if_pos (by omega)
      · simp only [hc, Bool.not_true, Bool.toNat_false]
        omega

theorem setUsedBlockInfo_past_end_after_open :
    ∃ cf : CheckpointFile, cf.usedChunkInfo_ = ⟨[false, false]⟩ ∧ cf.freeUseBitNum_ = 2 ∧ Inv cf ∧
      ∃ cf', cf.setUsedBlockInfo 5 false = .ok cf' ∧
        cf'.freeUseBitNum_ + 4 = cf'.usedChunkInfo_.countFalse :=
  have hinv : Inv { init ⟨12, "", 0, 0, 0, [], by decide⟩ with
      usedChunkInfo_ := ⟨[false, false]⟩, validChunkInfo_ := ⟨[false, false]⟩
      freeUseBitNum_ := 2 } := ⟨rfl, rfl⟩
  ⟨_, rfl, rfl, hinv, (setUsedBlockInfo_past_end false hinv (by decide)).resolve_left
    fun h => Bool.false_ne_true h.1⟩

/-- A returning `setUsedBlockInfo` sets the bit and a new count, and changes nothing else. -/
theorem setUsedBlockInfo_ok {b : Nat} {flag : Bool} {cf' : CheckpointFile}
    (h : cf.setUsedBlockInfo b flag = .ok cf') :
    ∃ free, cf' = { cf with
      usedChunkInfo_ := cf.usedChunkInfo_.set b flag
      freeUseBitNum_ := free } := by
  unfold setUsedBlockInfo at h
  rcases ite_eq_iff.1 h with ⟨-, h⟩ | ⟨-, h⟩
  · cases h
  · rcases ite_eq_iff.1 h with ⟨-, h⟩ | ⟨-, h⟩ <;> cases h
    exact ⟨_, rfl⟩

/-! ### `allocateBlock` -/

theorem searchStep_snd (limit : Nat) (cf : CheckpointFile) : (searchStep limit cf).2 =
    { cf with freeBlockSearchCursor_ := (searchStep limit cf).2.freeBlockSearchCursor_ } := by
  unfold searchStep; split <;> rfl

theorem searchStep_of_pos (h : cf.freeUseBitNum_ > 0) : searchStep limit cf =
    ((freeBlockSearch limit cf.usedChunkInfo_ cf.freeBlockSearchCursor_).allocatePos,
      { cf with freeBlockSearchCursor_ :=
        if (freeBlockSearch limit cf.usedChunkInfo_ cf.freeBlockSearchCursor_).pos + 1 ≥
          cf.usedChunkInfo_.length then 0
        else (freeBlockSearch limit cf.usedChunkInfo_ cf.freeBlockSearchCursor_).pos + 1 }) := by
  rw [searchStep, search, if_pos h]

theorem searchStep_of_zero (h : cf.freeUseBitNum_ = 0) : searchStep limit cf = (none, cf) := by
  rw [searchStep, search, if_neg (by omega)]

theorem searchStep_found {p : Nat} (hfree : cf.freeUseBitNum_ = cf.usedChunkInfo_.countFalse)
    (h : (searchStep limit cf).1 = some p) :
    p < cf.usedChunkInfo_.length ∧ cf.usedChunkInfo_.get p = false := by
  rcases Nat.eq_zero_or_pos cf.freeUseBitNum_ with h0 | hpos
  · rw [searchStep_of_zero h0] at h; cases h
  · rw [searchStep_of_pos hpos] at h
    obtain ⟨f, hf, hff⟩ := BitArray.exists_get_false (hfree ▸ hpos)
    exact freeBlockSearch_found hf hff h

/-- Before its closing `setUsedBlockInfo`, `allocateBlock` reuses a false bit or appends one. -/
theorem chooseBlock_cases {p : Nat} {cf' : CheckpointFile}
    (hfree : cf.freeUseBitNum_ = cf.usedChunkInfo_.countFalse) (h : chooseBlock limit cf = (p, cf')) :
    ∃ cursor,
      (p < cf.usedChunkInfo_.length ∧ cf.usedChunkInfo_.get p = false ∧
        cf' = { cf with freeBlockSearchCursor_ := cursor }) ∨
      (p = cf.usedChunkInfo_.length ∧ cf' = { cf with
        usedChunkInfo_ := cf.usedChunkInfo_.set cf.usedChunkInfo_.length true
        validChunkInfo_ := cf.validChunkInfo_.set cf.usedChunkInfo_.length false
        freeBlockSearchCursor_ := cursor }) := by
  have hs := searchStep_snd limit cf
  unfold chooseBlock at h
  rcases hst : searchStep limit cf with ⟨_ | q, cf₁⟩ <;> rw [hst] at hs h <;> simp only at hs h
  · refine ⟨cf₁.freeBlockSearchCursor_, .inr ?_⟩
    rw [hs] at h
    simp only [appendBlock, BitArray.append_eq_set, Prod.mk.injEq] at h
    obtain ⟨rfl, rfl⟩ := h
    exact ⟨rfl, rfl⟩
  · obtain ⟨rfl, rfl⟩ := Prod.mk.inj h
    obtain ⟨hq, hg⟩ := searchStep_found hfree (congrArg Prod.fst hst)
    exact ⟨_, .inl ⟨hq, hg, hs⟩⟩

theorem allocateBlock_ok_iff {p : Nat} {cf' : CheckpointFile} :
    allocateBlock limit cf = .ok (p, cf') ↔
      (chooseBlock limit cf).1 = p ∧ (chooseBlock limit cf).2.setUsedBlockInfo p true = .ok cf' := by
  unfold allocateBlock
  rcases chooseBlock limit cf with ⟨q, cf₁⟩
  dsimp only
  constructor
  · intro h
    cases hs : cf₁.setUsedBlockInfo q true with
    | error e => rw [hs] at h; cases h
    | ok cf₂ => rw [hs] at h; cases h; exact ⟨rfl, hs⟩
  · rintro ⟨rfl, hs⟩
    rw [hs]; rfl

/-- Under `Inv`, `allocateBlock` marks a false bit or appends a marked one, and recounts. -/
theorem allocateBlock_eq (h : Inv cf) : ∃ p cursor,
    ((p < cf.usedChunkInfo_.length ∧ cf.usedChunkInfo_.get p = false) ∨
      p = cf.usedChunkInfo_.length) ∧
    allocateBlock limit cf = .ok (p, { cf with
      usedChunkInfo_ := cf.usedChunkInfo_.set p true
      validChunkInfo_ := if p < cf.usedChunkInfo_.length then cf.validChunkInfo_
        else cf.validChunkInfo_.set p false
      freeUseBitNum_ := (cf.usedChunkInfo_.set p true).countFalse
      freeBlockSearchCursor_ := cursor }) := by
  rcases hch : chooseBlock limit cf with ⟨p, cf₁⟩
  obtain ⟨cursor, ⟨hp, hg, rfl⟩ | ⟨rfl, rfl⟩⟩ := chooseBlock_cases h.free_eq hch
  · refine ⟨p, cursor, .inl ⟨hp, hg⟩, ?_⟩
    simp only [allocateBlock, hch]
    rw [@setUsedBlockInfo_of_lt { cf with freeBlockSearchCursor_ := cursor } _ _ h.free_eq hp]
    simp [hp, Except.map]
  · refine ⟨_, cursor, .inr rfl, ?_⟩
    simp only [allocateBlock, hch]
    have hf : (cf.usedChunkInfo_.set cf.usedChunkInfo_.length true).countFalse =
        cf.freeUseBitNum_ := by
      rw [BitArray.countFalse_set_of_le _ le_rfl, h.free_eq]; simp
    have hlt : cf.usedChunkInfo_.length <
        (cf.usedChunkInfo_.set cf.usedChunkInfo_.length true).length := by
      rw [BitArray.length_set]; omega
    have hset : (cf.usedChunkInfo_.set cf.usedChunkInfo_.length true).set
        cf.usedChunkInfo_.length true = cf.usedChunkInfo_.set cf.usedChunkInfo_.length true :=
      BitArray.set_of_get_eq hlt (by rw [BitArray.get_set, if_pos rfl])
    rw [@setUsedBlockInfo_of_lt { cf with
      usedChunkInfo_ := cf.usedChunkInfo_.set cf.usedChunkInfo_.length true
      validChunkInfo_ := cf.validChunkInfo_.set cf.usedChunkInfo_.length false
      freeBlockSearchCursor_ := cursor } _ _ hf.symm hlt, hset]
    simp [hf, Except.map]

/-- With no free bit counted, `allocateBlock` appends, whatever the bitmap holds. -/
theorem allocateBlock_of_free_zero (h : cf.freeUseBitNum_ = 0) :
    ∃ cf', allocateBlock limit cf = .ok (cf.usedChunkInfo_.length, cf') := by
  have hc : chooseBlock limit cf = appendBlock cf := by
    simp only [chooseBlock, searchStep_of_zero h]
  have hg : (cf.usedChunkInfo_.set cf.usedChunkInfo_.length true).get cf.usedChunkInfo_.length :=
    by simp
  simp only [allocateBlock, hc, appendBlock, BitArray.append_eq_set, setUsedBlockInfo, hg, h,
    bne_self_eq_false, Bool.and_false, Bool.false_eq_true, ↓reduceIte, zero_le, Except.map]
  exact ⟨_, rfl⟩

/-! ### What the allocator's members keep -/

/-- What the allocator's members keep: the settings, names, handles and `blockNum_`. -/
structure AllocFrame (cf cf' : CheckpointFile) : Prop where
  cfg : cf'.cfg = cf.cfg
  fileNameList_ : cf'.fileNameList_ = cf.fileNameList_
  fileList_ : cf'.fileList_ = cf.fileList_
  blockNum_ : cf'.blockNum_ = cf.blockNum_

theorem AllocFrame.trans {cf₁ cf₂ cf₃ : CheckpointFile} (h₁ : AllocFrame cf₁ cf₂)
    (h₂ : AllocFrame cf₂ cf₃) : AllocFrame cf₁ cf₃ :=
  ⟨h₂.cfg.trans h₁.cfg, h₂.fileNameList_.trans h₁.fileNameList_, h₂.fileList_.trans h₁.fileList_,
    h₂.blockNum_.trans h₁.blockNum_⟩

theorem allocFrame_setUsedBlockInfo {b : Nat} {flag : Bool} {cf' : CheckpointFile}
    (h : cf.setUsedBlockInfo b flag = .ok cf') : AllocFrame cf cf' := by
  unfold setUsedBlockInfo at h
  rcases ite_eq_iff.1 h with ⟨-, h⟩ | ⟨-, h⟩
  · cases h
  · rcases ite_eq_iff.1 h with ⟨-, h⟩ | ⟨-, h⟩ <;> cases h
    exact ⟨rfl, rfl, rfl, rfl⟩

theorem allocFrame_chooseBlock (limit : Nat) (cf : CheckpointFile) :
    AllocFrame cf (chooseBlock limit cf).2 := by
  have hs := searchStep_snd limit cf
  unfold chooseBlock
  rcases hst : searchStep limit cf with ⟨_ | q, cf₁⟩ <;> rw [hst] at hs <;> dsimp only at hs ⊢ <;>
    rw [hs] <;> exact ⟨rfl, rfl, rfl, rfl⟩

theorem allocFrame_allocateBlock {p : Nat} {cf' : CheckpointFile}
    (h : allocateBlock limit cf = .ok (p, cf')) : AllocFrame cf cf' := by
  unfold allocateBlock at h
  cases hset : (chooseBlock limit cf).2.setUsedBlockInfo (chooseBlock limit cf).1 true with
  | error => simp [hset, Except.map] at h
  | ok cf₂ =>
    simp only [hset, Except.map, Except.ok.injEq, Prod.mk.injEq] at h
    obtain ⟨-, rfl⟩ := h
    exact (allocFrame_chooseBlock limit cf).trans (allocFrame_setUsedBlockInfo hset)

theorem allocFrame_freeBlock {b : Nat} {cf' : CheckpointFile} (h : cf.freeBlock b = .ok cf') :
    AllocFrame cf cf' := by
  unfold freeBlock at h
  split_ifs at h
  exact allocFrame_setUsedBlockInfo h

/-! ### The invariant is kept -/

theorem Inv.allocateBlock {p : Nat} {cf' : CheckpointFile} (h : Inv cf)
    (ha : allocateBlock limit cf = .ok (p, cf')) : Inv cf' := by
  obtain ⟨p', cursor, hp, he⟩ := @allocateBlock_eq limit cf h
  rw [ha, Except.ok.injEq, Prod.mk.injEq] at he
  obtain ⟨rfl, rfl⟩ := he
  refine ⟨rfl, ?_⟩
  have := h.length_eq
  dsimp only
  rcases hp with ⟨hp, -⟩ | rfl
  · rw [if_pos hp, BitArray.length_set]; omega
  · rw [if_neg (lt_irrefl _), BitArray.length_set, BitArray.length_set]; omega

/-- `freeBlock` of a marked bit clears it and recounts. -/
theorem freeBlock_eq {b : Nat} (h : Inv cf) (hb : cf.usedChunkInfo_.get b = true) :
    cf.freeBlock b = .ok { cf with
      usedChunkInfo_ := cf.usedChunkInfo_.set b false
      freeUseBitNum_ := (cf.usedChunkInfo_.set b false).countFalse } := by
  have hlt : b < cf.usedChunkInfo_.length := by
    by_contra hge
    rw [BitArray.get_of_length_le (Nat.le_of_not_lt hge)] at hb
    cases hb
  unfold freeBlock
  rw [if_neg (by omega), if_neg (by simp [hb]), setUsedBlockInfo_of_lt _ h.free_eq hlt]

theorem Inv.freeBlock {b : Nat} (h : Inv cf) (hb : cf.usedChunkInfo_.get b = true) :
    ∃ cf', cf.freeBlock b = .ok cf' ∧ Inv cf' := by
  have hlt : b < cf.usedChunkInfo_.length := by
    by_contra hge
    rw [BitArray.get_of_length_le (Nat.le_of_not_lt hge)] at hb
    cases hb
  refine ⟨_, freeBlock_eq h hb, rfl, ?_⟩
  show (cf.usedChunkInfo_.set b false).length = cf.validChunkInfo_.length
  rw [BitArray.length_set, ← h.length_eq]
  omega

/-- **No double free.**  `freeBlock(b)` returns only for a block marked used: on a free block,
or one past the bitmap, it stops at one of its `assert`s.  Under the invariant it frees every
marked block: the bit is cleared, one more block is counted free, and the invariant holds. -/
theorem freeBlock_no_double_free {b : Nat} :
    ((∃ cf', cf.freeBlock b = .ok cf') → cf.usedChunkInfo_.get b = true) ∧
    (cf.usedChunkInfo_.get b = false → ∃ expr, cf.freeBlock b = .error (.assertion expr)) ∧
    (Inv cf → cf.usedChunkInfo_.get b = true → ∃ cf', cf.freeBlock b = .ok cf' ∧ Inv cf' ∧
      cf'.usedChunkInfo_.get b = false ∧ cf'.freeUseBitNum_ = cf.freeUseBitNum_ + 1) := by
  refine ⟨fun ⟨cf', h⟩ => ?_, fun hb => ?_, fun h hb => ?_⟩
  · unfold freeBlock at h
    rcases ite_eq_iff.1 h with ⟨-, h⟩ | ⟨-, h⟩
    · cases h
    · rcases ite_eq_iff.1 h with ⟨-, h⟩ | ⟨h2, -⟩
      · cases h
      · simpa using h2
  · unfold freeBlock
    rw [hb, Bool.not_false, if_pos rfl]
    split <;> exact ⟨_, rfl⟩
  · obtain ⟨cf', hf, hi⟩ := h.freeBlock hb
    have hlt : b < cf.usedChunkInfo_.length := by
      by_contra hge
      rw [BitArray.get_of_length_le (Nat.le_of_not_lt hge)] at hb
      cases hb
    have hc := BitArray.countFalse_set_of_lt false hlt
    rw [hb] at hc
    rw [freeBlock_eq h hb] at hf
    cases hf
    refine ⟨_, freeBlock_eq h hb, hi, by simp, ?_⟩
    simp only [Bool.not_true, Bool.not_false, Bool.toNat_false, Bool.toNat_true, add_zero] at hc
    rw [h.free_eq]
    exact hc

theorem Inv.setUsedBlockInfo {b : Nat} (flag : Bool) (h : Inv cf) (hb : b < cf.usedChunkInfo_.length) :
    ∃ cf', cf.setUsedBlockInfo b flag = .ok cf' ∧ Inv cf' := by
  refine ⟨_, setUsedBlockInfo_of_lt flag h.free_eq hb, rfl, ?_⟩
  show (cf.usedChunkInfo_.set b flag).length = cf.validChunkInfo_.length
  rw [BitArray.length_set, ← h.length_eq]
  omega

theorem Inv.setValidBlockInfo {b : Nat} (flag : Bool) (h : Inv cf) (hb : b < cf.usedChunkInfo_.length) :
    Inv (cf.setValidBlockInfo b flag) := by
  refine ⟨h.free_eq, ?_⟩
  show cf.usedChunkInfo_.length = (cf.validChunkInfo_.set b flag).length
  rw [BitArray.length_set, ← h.length_eq]
  omega

/-- `initializeUsedBlockInfo` then `initializeValidBlockInfo` restore the invariant. -/
theorem inv_initializeBlockInfo (cf : CheckpointFile) :
    Inv cf.initializeUsedBlockInfo.initializeValidBlockInfo := by
  constructor <;> simp [initializeValidBlockInfo, initializeUsedBlockInfo,
    BitArray.appendFalse_iterate, -Function.iterate_succ]

/-! ### What the search reads, and how far it looks -/

/-- Under `Inv` the search of `allocateBlock` reads inside the array, wherever the cursor is. -/
theorem search_reads_lt {r : Search} {q : Nat} (h : Inv cf) (hr : search limit cf = some r)
    (hq : q ∈ r.reads) : q < cf.usedChunkInfo_.length := by
  unfold search at hr
  split at hr
  · cases hr
    obtain ⟨f, hf, hff⟩ := BitArray.exists_get_false (h.free_eq ▸ ‹cf.freeUseBitNum_ > 0›)
    exact freeBlockSearch_reads hf hff hq
  · cases hr

theorem chooseBlock_of_found {p : Nat} (h : (searchStep limit cf).1 = some p) :
    chooseBlock limit cf = (p, (searchStep limit cf).2) := by
  unfold chooseBlock
  rcases hs : searchStep limit cf with ⟨_ | q, cf'⟩ <;> rw [hs] at h <;> simp_all

/-- `limit` marked bits then a free one, searched from 0: the free bit, at probe `limit + 1`,
is still found. -/
theorem allocateBlock_reaches_past_limit (limit : Nat)
    (hused : cf.usedChunkInfo_ = ⟨List.replicate limit true ++ [false]⟩)
    (hcur : cf.freeBlockSearchCursor_ = 0) (hfree : cf.freeUseBitNum_ = 1) :
    (allocateBlock limit cf).map Prod.fst = .ok limit := by
  have hget : ∀ i, cf.usedChunkInfo_.get i = decide (i < limit) := by
    intro i
    rw [hused]
    simp only [BitArray.get, List.getD_eq_getElem?_getD, List.getElem?_append]
    rcases Nat.lt_trichotomy i limit with hi | rfl | hi
    · simp [hi]
    · simp
    · simp [show ¬i < limit by omega,
        List.getElem?_eq_none (show [false].length ≤ i - limit by simp; omega)]
  have hlen : cf.usedChunkInfo_.length = limit + 1 := by simp [hused]
  have hcount : cf.freeUseBitNum_ = cf.usedChunkInfo_.countFalse := by
    simp [hfree, hused, BitArray.countFalse, List.count_replicate]
  obtain ⟨hfound, -⟩ := @searchLoop_first_free cf.usedChunkInfo_ limit
    (cf.usedChunkInfo_.length - 0) 0 0 limit (by omega)
    (fun i hi => by simp [hget, hi]) (by simp [hget]) (by omega)
  simp only [Nat.sub_zero, Nat.zero_add] at hfound
  have hstep : (searchStep limit cf).1 = some limit := by
    rw [searchStep_of_pos (by omega)]
    simp [freeBlockSearch, hcur, hfound]
  simp only [allocateBlock, chooseBlock_of_found hstep]
  rw [searchStep_snd, @setUsedBlockInfo_of_lt
    { cf with freeBlockSearchCursor_ := (searchStep limit cf).2.freeBlockSearchCursor_ } _ _
    hcount (show limit < cf.usedChunkInfo_.length by omega)]
  rfl

theorem allocateBlock_at_search_limit :
    Inv { init ⟨16, "", 0, 0, 0, [], by decide⟩ with
      usedChunkInfo_ := ⟨List.replicate 1024 true ++ [false]⟩
      validChunkInfo_ := ⟨List.replicate 1025 false⟩
      freeUseBitNum_ := 1 } ∧
    (allocateBlock 1024 { init ⟨16, "", 0, 0, 0, [], by decide⟩ with
      usedChunkInfo_ := ⟨List.replicate 1024 true ++ [false]⟩
      validChunkInfo_ := ⟨List.replicate 1025 false⟩
      freeUseBitNum_ := 1 }).map Prod.fst = .ok 1024 :=
  ⟨⟨by rw [BitArray.countFalse, List.count_append, List.count_replicate]; decide,
      by simp only [BitArray.length_mk, List.length_append, List.length_replicate,
        List.length_singleton]⟩,
    allocateBlock_reaches_past_limit 1024 rfl rfl rfl⟩

end CheckpointFile
end CheckpointStore
