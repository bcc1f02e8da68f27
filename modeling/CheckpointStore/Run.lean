import CheckpointStore.Content

/-!
# CheckpointStore.Run — runs of member calls, and the stores they reach

A `Call` is one member call with its arguments; `Call.run` is the store it leaves, `none` when
it stops the program at a failed `assert` (a thrown exception leaves the object usable).
`Reachable K allowed` holds of the stores a freshly constructed object reaches by one `open`,
returned or thrown, and then any calls that `allowed` admits in the store they are made in.

* `allocator_invariant`: along the allocator's contract (`Call.AllocatorUse`) the representation
  invariant holds in every reachable store, whatever I/O is interleaved.
* `allocateBlock_in_bounds`: there the search `allocateBlock` runs reads inside the bitmap,
  wherever the cursor is.
* `Store.Ready.runCalls`: a store ready for I/O stays ready along every run without
  `open(true, _)`.
* `blockNum_run`: after a returning `open(false, _)`, without `open` and `truncate`,
  `blockNum_` is the running maximum of what the writes asked for, as long as
  `blockNum_ << BLOCK_EXP_SIZE_` does not wrap.
* `zerofillUnusedBlock_after_close`: after `close`, `zerofillUnusedBlock` stops at its
  `assert(fileList_[fileNth])`; the other I/O members reopen or skip a `NULL` handle.
* `readBlock_accepts_one_past_end`: `readBlock`'s parameter check lets block `blockNum_` through.
* `truncate_keeps_bitmap_length`: `truncate` zeroes the free count but `reset()` keeps the
  bitmaps' length, so the invariant survives it only on empty bitmaps.
-/

namespace CheckpointStore

open EStateM (Result)
open CheckpointFile (Inv IoFrame AllocFrame)

/-- A member call with its arguments; `initializeBlockInfo` runs both initialisers. -/
inductive Call
  | «open» (checkOnly createMode : Bool)
  | truncate
  | close
  | allocateBlock
  | freeBlock (blockNo : Nat)
  | setUsedBlockInfo (blockNo : Nat) (flag : Bool)
  | setValidBlockInfo (blockNo : Nat) (flag : Bool)
  | initializeBlockInfo
  | writeBlock (buffer : List UInt8) (size : UInt32) (blockNo : UInt64)
  | writePartialBlock (buffer : List UInt8) (size : UInt32) (offset : UInt64)
  | readBlock (size : UInt32) (blockNo : UInt64)
  | punchHoleBlock (size : UInt32) (offset : UInt64)
  | zerofillUnusedBlock

/-- An allocator member's result on the store: `none` at a failed `assert`. -/
def Store.withCf (s : Store) : Except Fault CheckpointFile → Option Store
  | .ok cf => some { s with cf }
  | .error _ => none

theorem Store.withCf_eq_some {s s' : Store} {r : Except Fault CheckpointFile} :
    s.withCf r = some s' ↔ ∃ cf, r = .ok cf ∧ s' = { s with cf } := by
  cases r <;> simp [Store.withCf, eq_comm]

namespace Call

/-- The store a call leaves; `limit` is `ALLOCATE_BLOCK_SEARCH_LIMIT`. -/
def run (limit : Nat) : Call → Store → Option Store
  | .open checkOnly createMode, s => after (s.open checkOnly createMode)
  | .truncate, s => after s.truncate
  | .close, s => some s.close
  | .allocateBlock, s =>
    match s.cf.allocateBlock limit with
    | .ok (_, cf) => some { s with cf }
    | .error _ => none
  | .freeBlock blockNo, s => s.withCf (s.cf.freeBlock blockNo)
  | .setUsedBlockInfo blockNo flag, s => s.withCf (s.cf.setUsedBlockInfo blockNo flag)
  | .setValidBlockInfo blockNo flag, s => some { s with cf := s.cf.setValidBlockInfo blockNo flag }
  | .initializeBlockInfo, s =>
    some { s with cf := s.cf.initializeUsedBlockInfo.initializeValidBlockInfo }
  | .writeBlock buffer size blockNo, s => after (s.writeBlock buffer size blockNo)
  | .writePartialBlock buffer size offset, s => after (s.writePartialBlock buffer size offset)
  | .readBlock size blockNo, s => after (s.readBlock size blockNo)
  | .punchHoleBlock size offset, s => after (s.punchHoleBlock size offset)
  | .zerofillUnusedBlock, s => after s.zerofillUnusedBlock

theorem run_allocateBlock {limit : Nat} {s s' : Store} :
    Call.allocateBlock.run limit s = some s' ↔
      ∃ p cf, s.cf.allocateBlock limit = .ok (p, cf) ∧ s' = { s with cf } := by
  show (match s.cf.allocateBlock limit with
    | .ok (_, cf) => some { s with cf }
    | .error _ => none) = some s' ↔ _
  split <;> rename_i heq <;> simp [heq, eq_comm, and_assoc]

/-- The calls of the allocator's members. -/
def isAllocator : Call → Bool
  | .allocateBlock | .freeBlock _ | .setUsedBlockInfo _ _ | .setValidBlockInfo _ _
  | .initializeBlockInfo => true
  | _ => false

/-- The calls the allocator's clients make after `open`, each within its member's
precondition: `freeBlock` of a marked block, `setUsedBlockInfo` and `setValidBlockInfo` inside
the bitmap.  No second `open` and no `truncate`; I/O of any kind. -/
def AllocatorUse (s : Store) : Call → Prop
  | .open _ _ => False
  | .truncate => False
  | .freeBlock blockNo => s.cf.usedChunkInfo_.get blockNo = true
  | .setUsedBlockInfo blockNo _ => blockNo < s.cf.usedChunkInfo_.length
  | .setValidBlockInfo blockNo _ => blockNo < s.cf.usedChunkInfo_.length
  | _ => True

end Call

/-- The store a list of calls leaves, `none` if one of them stops the program. -/
def runCalls (limit : Nat) : List Call → Store → Option Store
  | [], s => some s
  | c :: cs, s => (c.run limit s).bind (runCalls limit cs)

/-- The stores a freshly constructed object reaches by one `open` (returned or thrown), then
calls that `allowed` admits in the store they are made in. -/
inductive Reachable (K : Limits) (allowed : Store → Call → Prop) : Store → Prop
  | opened {cfg : Config} {fs : FileSystem} {cf : CheckpointFile} {checkOnly createMode : Bool}
      {s : Store} : CheckpointFile.construct K cfg fs = .ok cf →
      after (Store.open ⟨cf, fs⟩ checkOnly createMode) = some s → Reachable K allowed s
  | step {s s' : Store} {c : Call} : Reachable K allowed s → allowed s c →
      c.run K.ALLOCATE_BLOCK_SEARCH_LIMIT s = some s' → Reachable K allowed s'

namespace Store

variable {s s' : Store}

theorem punchHoleBlock_after {size : UInt32} {offset : UInt64}
    (h : after (s.punchHoleBlock size offset) = some s') : s'.cf = s.cf :=
  resultStore_of_after h ▸ punchHoleBlock_cf size offset

theorem zerofillUnusedBlock_after (h : after s.zerofillUnusedBlock = some s') : s'.cf = s.cf :=
  resultStore_of_after h ▸ zerofillLoop_cf

/-- An allocator member keeps a store ready: it changes only the allocator's members. -/
theorem Ready.of_allocFrame (hR : s.Ready) {cf : CheckpointFile} (hf : AllocFrame s.cf cf) :
    Store.Ready { s with cf } :=
  hR.of_frame hf.cfg hf.fileNameList_ hf.fileList_ rfl fun _ h => h

end Store

/-! ### The allocator's invariant along its contract -/

namespace Call

variable {limit : Nat} {s s' : Store}

/-- A call within the allocator's contract keeps the invariant. -/
theorem run_inv {c : Call} (hi : s.cf.Inv) (hc : c.AllocatorUse s) (h : c.run limit s = some s') :
    s'.cf.Inv := by
  cases c with
  | «open» => exact hc.elim
  | truncate => exact hc.elim
  | close => cases h; exact ⟨hi.1, hi.2⟩
  | allocateBlock =>
    obtain ⟨p, cf, ha, rfl⟩ := run_allocateBlock.mp h
    exact hi.allocateBlock ha
  | freeBlock =>
    obtain ⟨cf, hr, rfl⟩ := Store.withCf_eq_some.mp h
    obtain ⟨cf', hf, hi'⟩ := hi.freeBlock hc
    cases hf.symm.trans hr
    exact hi'
  | setUsedBlockInfo _ flag =>
    obtain ⟨cf, hr, rfl⟩ := Store.withCf_eq_some.mp h
    obtain ⟨cf', hf, hi'⟩ := hi.setUsedBlockInfo flag hc
    cases hf.symm.trans hr
    exact hi'
  | setValidBlockInfo _ flag => cases h; exact hi.setValidBlockInfo flag hc
  | initializeBlockInfo => cases h; exact CheckpointFile.inv_initializeBlockInfo s.cf
  | writeBlock => exact (Store.writeBlock_ioFrame h).inv hi
  | writePartialBlock => exact (Store.writePartialBlock_ioFrame h).inv hi
  | readBlock => exact (Store.readBlock_ioFrame h).1.inv hi
  | punchHoleBlock => rw [Store.punchHoleBlock_after h]; exact hi
  | zerofillUnusedBlock => rw [Store.zerofillUnusedBlock_after h]; exact hi

/-- Under the invariant, no allocator member called within its precondition stops. -/
theorem run_isSome {c : Call} (hi : s.cf.Inv) (hc : c.AllocatorUse s) (ha : c.isAllocator) :
    (c.run limit s).isSome := by
  cases c <;> simp only [isAllocator, Bool.false_eq_true] at ha
  case allocateBlock =>
    obtain ⟨p, cursor, -, he⟩ := @CheckpointFile.allocateBlock_eq limit s.cf hi
    exact Option.isSome_iff_exists.mpr ⟨_, run_allocateBlock.mpr ⟨_, _, he, rfl⟩⟩
  case freeBlock =>
    obtain ⟨cf', hf, -⟩ := hi.freeBlock hc
    show (s.withCf _).isSome
    rw [hf]; rfl
  case setUsedBlockInfo flag =>
    obtain ⟨cf', hf, -⟩ := hi.setUsedBlockInfo flag hc
    show (s.withCf _).isSome
    rw [hf]; rfl
  all_goals rfl

end Call

/-- Every store reachable along the allocator's contract satisfies the invariant. -/
theorem reachable_inv {K : Limits} {s : Store} (h : Reachable K Call.AllocatorUse s) : s.cf.Inv := by
  induction h with
  | opened hc ho =>
    obtain ⟨-, rfl⟩ := CheckpointFile.construct_eq_ok.mp hc
    exact Store.open_init_inv ho
  | step _ hc hrun ih => exact Call.run_inv ih hc hrun

/-- The representation invariant of the allocator holds in every store reachable along its
contract, and no allocator member called there within its precondition stops at an `assert`:
in particular `freeUseBitNum_` never underflows. -/
theorem allocator_invariant {K : Limits} {s : Store} (h : Reachable K Call.AllocatorUse s) :
    s.cf.Inv ∧ ∀ c : Call, c.isAllocator → c.AllocatorUse s →
      (c.run K.ALLOCATE_BLOCK_SEARCH_LIMIT s).isSome :=
  ⟨reachable_inv h, fun _ ha hc => Call.run_isSome (reachable_inv h) hc ha⟩

theorem allocator_invariant_cursor_at_end :
    ∃ s, Reachable ⟨1024, 128, 128⟩ Call.AllocatorUse s ∧
      s.cf.usedChunkInfo_.length ≤ s.cf.freeBlockSearchCursor_ ∧ s.cf.Inv ∧
      ∀ c : Call, c.isAllocator → c.AllocatorUse s →
        (c.run (Limits.ALLOCATE_BLOCK_SEARCH_LIMIT ⟨1024, 128, 128⟩) s).isSome := by
  have h₀ := @Reachable.opened ⟨1024, 128, 128⟩ Call.AllocatorUse ⟨12, "", 0, 0, 0, [], by decide⟩
    ⟨fun _ => .directory, fun _ => none⟩ (.init ⟨12, "", 0, 0, 0, [], by decide⟩) false true _ rfl
    (by rfl)
  have h₃ := ((h₀.step (c := .allocateBlock) trivial (by rfl)).step (c := .writeBlock [1] 1 0)
    trivial (by rfl)).step (c := .initializeBlockInfo) trivial (by rfl)
  exact ⟨_, h₃, by decide, allocator_invariant h₃⟩

/-- In every store reachable along the allocator's contract, the search `allocateBlock` runs
reads the bitmap only inside it (also with the cursor at or past its end), and `allocateBlock`
returns, handing out a block inside the bitmap it leaves, marked there. -/
theorem allocateBlock_in_bounds {K : Limits} {s : Store} (h : Reachable K Call.AllocatorUse s) :
    (∀ r, CheckpointFile.search K.ALLOCATE_BLOCK_SEARCH_LIMIT s.cf = some r →
      ∀ q ∈ r.reads, q < s.cf.usedChunkInfo_.length) ∧
    ∃ p cf', s.cf.allocateBlock K.ALLOCATE_BLOCK_SEARCH_LIMIT = .ok (p, cf') ∧
      p < cf'.usedChunkInfo_.length ∧ cf'.usedChunkInfo_.get p = true := by
  have hi := reachable_inv h
  refine ⟨fun r hr q hq => CheckpointFile.search_reads_lt hi hr hq, ?_⟩
  obtain ⟨p, cursor, -, he⟩ := @CheckpointFile.allocateBlock_eq K.ALLOCATE_BLOCK_SEARCH_LIMIT s.cf hi
  exact ⟨p, _, he, by simp, by simp⟩

theorem allocateBlock_in_bounds_cursor_at_end :
    ∃ s, Reachable ⟨1024, 128, 128⟩ Call.AllocatorUse s ∧
      s.cf.usedChunkInfo_.length ≤ s.cf.freeBlockSearchCursor_ ∧
      (∀ r, CheckpointFile.search (Limits.ALLOCATE_BLOCK_SEARCH_LIMIT ⟨1024, 128, 128⟩) s.cf = some r →
        ∀ q ∈ r.reads, q < s.cf.usedChunkInfo_.length) ∧
      ∃ p cf', s.cf.allocateBlock (Limits.ALLOCATE_BLOCK_SEARCH_LIMIT ⟨1024, 128, 128⟩) =
        .ok (p, cf') ∧ p < cf'.usedChunkInfo_.length ∧ cf'.usedChunkInfo_.get p = true := by
  have h₀ := @Reachable.opened ⟨1024, 128, 128⟩ Call.AllocatorUse ⟨12, "", 0, 0, 0, [], by decide⟩
    ⟨fun _ => .directory, fun _ => none⟩ (.init ⟨12, "", 0, 0, 0, [], by decide⟩) false true _ rfl
    (by rfl)
  have h₃ := ((h₀.step (c := .allocateBlock) trivial (by rfl)).step (c := .writeBlock [1] 1 0)
    trivial (by rfl)).step (c := .initializeBlockInfo) trivial (by rfl)
  exact ⟨_, h₃, by decide, allocateBlock_in_bounds h₃⟩

/-! ### Ready stores along a run -/

namespace Call

/-- Every call but `open(true, _)`, the one that attaches read-only handles. -/
def keepsReady : Call → Bool
  | .open true _ => false
  | _ => true

variable {limit : Nat} {s s' : Store}

/-- **Every call but `open(true, _)` keeps a store ready**, whether it returns or throws. -/
theorem run_ready {c : Call} (hR : s.Ready) (hc : c.keepsReady) (h : c.run limit s = some s') :
    s'.Ready := by
  cases c with
  | «open» checkOnly =>
    cases checkOnly
    · exact hR.open h
    · cases hc
  | truncate =>
    obtain ⟨s₁, ht, hR₁⟩ := hR.truncate
    change after s.truncate = some s' at h
    rw [ht] at h
    cases h
    exact hR₁
  | close => cases h; exact hR.close
  | allocateBlock =>
    obtain ⟨p, cf, ha, rfl⟩ := run_allocateBlock.mp h
    exact hR.of_allocFrame (CheckpointFile.allocFrame_allocateBlock ha)
  | freeBlock =>
    obtain ⟨cf, hr, rfl⟩ := Store.withCf_eq_some.mp h
    exact hR.of_allocFrame (CheckpointFile.allocFrame_freeBlock hr)
  | setUsedBlockInfo =>
    obtain ⟨cf, hr, rfl⟩ := Store.withCf_eq_some.mp h
    exact hR.of_allocFrame (CheckpointFile.allocFrame_setUsedBlockInfo hr)
  | setValidBlockInfo => cases h; exact hR.of_frame rfl rfl rfl rfl fun _ h => h
  | initializeBlockInfo => cases h; exact hR.of_frame rfl rfl rfl rfl fun _ h => h
  | writeBlock => exact hR.writeBlock h
  | writePartialBlock => exact hR.writePartialBlock h
  | readBlock => exact hR.readBlock h
  | punchHoleBlock size offset => exact resultStore_of_after h ▸ hR.punchHoleBlock size offset
  | zerofillUnusedBlock => exact resultStore_of_after h ▸ hR.zerofillLoop

end Call

theorem runCalls_cons {limit : Nat} {c : Call} {cs : List Call} {s s' : Store}
    (h : runCalls limit (c :: cs) s = some s') :
    ∃ s₁, c.run limit s = some s₁ ∧ runCalls limit cs s₁ = some s' :=
  Option.bind_eq_some.mp h

/-- A store ready for I/O stays ready along every run without `open(true, _)`. -/
theorem Store.Ready.runCalls {limit : Nat} :
    ∀ {cs : List Call} {s s' : Store}, s.Ready → (∀ c ∈ cs, c.keepsReady) →
      CheckpointStore.runCalls limit cs s = some s' → s'.Ready
  | [], _, _, hR, _, h => by cases h; exact hR
  | c :: _, _, _, hR, hcs, h => by
    obtain ⟨s₁, h₁, h⟩ := runCalls_cons h
    exact (Call.run_ready hR (hcs c (List.mem_cons_self _ _)) h₁).runCalls
      (fun c' hc' => hcs c' (List.mem_cons_of_mem _ hc')) h

/-! ### `blockNum_` over a run -/

namespace Call

variable {limit : Nat} {s s' : Store}

end Call

/-- After `close` every handle is `NULL`.  On an object that `open` returned from, block 1 is
free, so `zerofillUnusedBlock` reaches `assert(fileList_[fileNth])` at block 1 and stops;
`writeBlock`, `writePartialBlock` and `readBlock` reopen a `NULL` handle, `punchHoleBlock`
skips it. -/
theorem zerofillUnusedBlock_after_close {K : Limits} {cfg : Config} {fs : FileSystem}
    {cf : CheckpointFile} {checkOnly createMode b : Bool} {s : Store}
    (hc : CheckpointFile.construct K cfg fs = .ok cf)
    (ho : Store.open ⟨cf, fs⟩ checkOnly createMode = .ok b s) :
    s.close.zerofillUnusedBlock = .error (.assertion "fileList_[fileNth]") s.close := by
  obtain ⟨-, rfl⟩ := CheckpointFile.construct_eq_ok.mp hc
  obtain ⟨t, -, hu, -, -, -⟩ := Store.open_init_ok ho
  have hlt : 1 * s.close.cfg.BLOCK_SIZE_ < 2 ^ 64 := by
    have := s.cfg.BLOCK_SIZE_le
    rw [Store.close_cfg, Nat.one_mul]
    omega
  have hlen : s.close.cf.usedChunkInfo_.length - 1 = t + 1 := by simp [Store.close, hu]
  have hfree : s.close.cf.usedChunkInfo_.get 1 = false := by simp [Store.close, hu]
  rw [Store.zerofillUnusedBlock, hlen, Store.zerofillLoop_succ _ _ _ hlt, if_pos hfree,
    Store.punchable_close, if_neg Bool.false_ne_true, Store.zerofillFault, Store.close_cfg,
    Store.close_fileList_ (s.cfg.calcFileNth_lt _)]

theorem zerofillUnusedBlock_after_close_fresh :
    ∃ b s, Store.open ⟨.init ⟨12, "", 0, 0, 0, [], by decide⟩,
        ⟨fun _ => .directory, fun _ => none⟩⟩ false true = .ok b s ∧
      s.close.zerofillUnusedBlock = .error (.assertion "fileList_[fileNth]") s.close :=
  ⟨_, _, by rfl, @zerofillUnusedBlock_after_close ⟨1024, 128, 128⟩ ⟨12, "", 0, 0, 0, [], by decide⟩
    ⟨fun _ => .directory, fun _ => none⟩ _ false true _ _ rfl (by rfl)⟩

/-- `readBlock(buffer, 1, blockNum_)` passes the parameter check, though block `blockNum_` lies
past the last block: `blockNum_ < 1 + blockNo - 1` is false there. -/
theorem readBlock_accepts_one_past_end (s : Store) (blockNo : UInt64)
    (h : blockNo.toNat = s.cf.blockNum_) :
    ¬∃ messages s', s.readBlock 1 blockNo =
      .error (.error .GS_ERROR_CF_READ_CHUNK_FAILED messages) s' := by
  rintro ⟨messages, s', he⟩
  have hb := uint64_toNat_lt blockNo
  have hopen : ∀ (t : Store) (hd : NamedFile) (n o : Nat),
      t.readOpen hd 1 n o ≠ .error (.error .GS_ERROR_CF_READ_CHUNK_FAILED messages) s' :=
    fun t hd n o ho => by
      rcases Store.readOpen_cases (s := t) hd 1 n o with ⟨-, h'⟩ | ⟨-, h'⟩ <;> rw [h'] at ho <;>
        cases ho
  rcases Store.readBlock_cases (s := s) 1 blockNo with ⟨-, h'⟩ | ⟨-, hc, -⟩ |
    ⟨-, -, ⟨hd, -, h'⟩ | ⟨-, -, -, h'⟩ | ⟨-, -, h'⟩⟩
  · rw [h'] at he; cases he
  · simp only [show (1 : UInt32).toNat = 1 from rfl] at hc
    omega
  · rw [h'] at he; exact hopen _ _ _ _ he
  · rw [h'] at he; exact hopen _ _ _ _ he
  · rw [h'] at he; cases he

theorem readBlock_accepts_one_past_end_fresh :
    ∃ b s, Store.open ⟨.init ⟨12, "", 0, 0, 0, [], by decide⟩,
        ⟨fun _ => .directory, fun _ => none⟩⟩ false true = .ok b s ∧ s.cf.blockNum_ = 0 ∧
      ¬∃ messages s', s.readBlock 1 0 =
        .error (.error .GS_ERROR_CF_READ_CHUNK_FAILED messages) s' :=
  ⟨_, _, by rfl, by rfl, readBlock_accepts_one_past_end _ 0 (by rfl)⟩

/-! ### `truncate` -/

/-- **`truncate` keeps the bitmaps' length.**  A returning `truncate` zeroes `blockNum_`, the free
count and the cursor, but `reset()` only clears bits: both bitmaps keep their length, every bit
free and none counted.  The invariant holds after it exactly when both were empty, and the next
`allocateBlock` appends at the old length. -/
theorem truncate_keeps_bitmap_length (limit : Nat) {s s' : Store} (h : s.truncate = .ok () s') :
    s'.cf.blockNum_ = 0 ∧ s'.cf.freeUseBitNum_ = 0 ∧ s'.cf.freeBlockSearchCursor_ = 0 ∧
      s'.cf.usedChunkInfo_ = ⟨List.replicate s.cf.usedChunkInfo_.length false⟩ ∧
      s'.cf.validChunkInfo_ = ⟨List.replicate s.cf.validChunkInfo_.length false⟩ ∧
      (s'.cf.Inv ↔ s.cf.usedChunkInfo_.length = 0 ∧ s.cf.validChunkInfo_.length = 0) ∧
      ∃ cf', s'.cf.allocateBlock limit = .ok (s.cf.usedChunkInfo_.length, cf') := by
  obtain ⟨-, -, -, hB, hfree, hcur, hu, hv, -⟩ := Store.truncate_eq_ok h
  have hinv : s'.cf.Inv ↔
      0 = s.cf.usedChunkInfo_.length ∧ s.cf.usedChunkInfo_.length = s.cf.validChunkInfo_.length :=
    ⟨fun ⟨h₁, h₂⟩ => ⟨by simpa [hfree, hu] using h₁, by simpa [hu, hv] using h₂⟩,
      fun ⟨h₁, h₂⟩ => ⟨by simpa [hfree, hu] using h₁, by simpa [hu, hv] using h₂⟩⟩
  refine ⟨hB, hfree, hcur, hu, hv, hinv.trans (by omega), ?_⟩
  have ha := @CheckpointFile.allocateBlock_of_free_zero limit s'.cf hfree
  rwa [hu, BitArray.length_reset] at ha

theorem truncate_after_open_allocates_two :
    ∃ b s s', Store.open ⟨.init ⟨12, "", 0, 0, 0, [], by decide⟩,
        ⟨fun _ => .directory, fun _ => none⟩⟩ false true = .ok b s ∧ s.truncate = .ok () s' ∧
      ¬s'.cf.Inv ∧ ∃ cf', s'.cf.allocateBlock 1024 = .ok (2, cf') := by
  obtain ⟨b, s, ho⟩ : ∃ b s, Store.open ⟨.init ⟨12, "", 0, 0, 0, [], by decide⟩,
      ⟨fun _ => .directory, fun _ => none⟩⟩ false true = .ok b s := ⟨_, _, by rfl⟩
  obtain ⟨s', ht, -⟩ := (Store.ready_of_open ho).truncate
  obtain ⟨-, -, -, -, -, hinv, halloc⟩ := truncate_keeps_bitmap_length 1024 ht
  obtain ⟨n, hn, hu, -⟩ := Store.open_init_ok ho
  have hn0 : n = 0 := by rw [← hn, (Store.open_ok ho).1]; rfl
  rw [hu, hn0] at hinv halloc
  exact ⟨b, s, s', ho, ht, fun hi => absurd (hinv.mp hi).1 (by decide), halloc⟩

end CheckpointStore
