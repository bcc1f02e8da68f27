import Mathlib.Algebra.BigOperators.Group.List
import CheckpointStore.Alloc.Allocator

/-!
# CheckpointStore.Io — the members that touch the backing files

`open`, `truncate`, `close`, `getFileSize`, the block and byte I/O members and hole punching, on
a `Store` (the object and its file system).  Arguments keep their C++ widths (`UInt32`,
`UInt64`); arithmetic the C++ does in 64 bits is taken mod `2 ^ 64`, and the 32-bit
`size << BLOCK_EXP_SIZE_` is `shl32`.  A member that can throw or stop returns an
`EStateM.Result`, which keeps the state the member leaves behind.

A handle is opened on `fileNameList_[i]`, which is `""` until `open` assigns it: opening the
empty name, or creating a file in a missing directory, throws and leaves the `new NamedFile` in
the slot, closed.  The transfers go through the slot's handle and fail as `NamedFile.writeFails`,
`readFails` and `punchFails` say; each member's `catch` rethrows under its own message.

Tracing, timing and the long-I/O reports are left out, and so are `flush` and `advise`: they
only sync or advise the handles and change nothing the model holds.

* `IoFrame`: what the I/O members keep of the object (settings, bitmaps, free count, cursor).
* `Ready`: every split slot named over its directory, each handle `NULL` or open read-write;
  what a returning `open(false, _)` leaves (`Ready.open`) and what the members keep.
* `truncateLoop_ok_iff`: `truncate` returns exactly when every split slot is named and its file
  is on disk or can be created there.
-/

namespace CheckpointStore

theorem uint64_toNat_lt (n : UInt64) : n.toNat < 2 ^ 64 := n.toNat_lt_size

/-- `size << BLOCK_EXP_SIZE_` on a `uint32_t`: the bits past 32 fall off.  (From 32 on the C++
shift is undefined; the count is taken mod 32, as `UInt32.shiftLeft` and the hardware do.) -/
def shl32 (size e : Nat) : Nat := size * 2 ^ (e % 32) % 2 ^ 32

open EStateM (Result)

/-- The store a member leaves: `none` when it stops the program at a failed `assert`; a thrown
exception leaves the object usable, with what the member had changed before it. -/
def after {α : Type} : Result Fault Store α → Option Store
  | .ok _ s => some s
  | .error (.error _ _) s => some s
  | .error (.assertion _) _ => none

/-- The store a member's result carries, whether it returned or threw. -/
def resultStore {α : Type} : Result Fault Store α → Store
  | .ok _ s => s
  | .error _ s => s

@[simp] theorem after_ok {α : Type} (a : α) (s : Store) : after (.ok a s) = some s := rfl

@[simp] theorem after_error {α : Type} (c : ErrorCode) (m : List String) (s : Store) :
    after (.error (.error c m) s : Result Fault Store α) = some s := rfl

@[simp] theorem after_assertion {α : Type} (e : String) (s : Store) :
    after (.error (.assertion e) s : Result Fault Store α) = none := rfl

theorem resultStore_of_after {α : Type} {r : Result Fault Store α} {s : Store}
    (h : after r = some s) : resultStore r = s := by
  cases r with
  | ok => cases h; rfl
  | error e => cases e <;> cases h; rfl

/-- What the I/O members keep: the settings, both bitmaps, the free count and the cursor. -/
structure CheckpointFile.IoFrame (cf cf' : CheckpointFile) : Prop where
  cfg : cf'.cfg = cf.cfg
  used : cf'.usedChunkInfo_ = cf.usedChunkInfo_
  valid : cf'.validChunkInfo_ = cf.validChunkInfo_
  free : cf'.freeUseBitNum_ = cf.freeUseBitNum_
  cursor : cf'.freeBlockSearchCursor_ = cf.freeBlockSearchCursor_

namespace CheckpointFile.IoFrame

theorem refl (cf : CheckpointFile) : IoFrame cf cf := ⟨rfl, rfl, rfl, rfl, rfl⟩

theorem trans {cf₁ cf₂ cf₃ : CheckpointFile} (h₁ : IoFrame cf₁ cf₂) (h₂ : IoFrame cf₂ cf₃) :
    IoFrame cf₁ cf₃ :=
  ⟨h₂.cfg.trans h₁.cfg, h₂.used.trans h₁.used, h₂.valid.trans h₁.valid, h₂.free.trans h₁.free,
    h₂.cursor.trans h₁.cursor⟩

theorem inv {cf cf' : CheckpointFile} (h : IoFrame cf cf') (hi : cf.Inv) : cf'.Inv :=
  ⟨by rw [h.free, h.used]; exact hi.free_eq, by rw [h.used, h.valid]; exact hi.length_eq⟩

end CheckpointFile.IoFrame

/-- Below 32 bits the shift is the product. -/
theorem shl32_eq {size e : Nat} (he : e < 32) (h : size * 2 ^ e < 2 ^ 32) :
    shl32 size e = size * 2 ^ e := by
  rw [shl32, Nat.mod_eq_of_lt he, Nat.mod_eq_of_lt h]

theorem shl32_eq_mod {e : Nat} (size : Nat) (he : e < 32) :
    shl32 size e = size % 2 ^ (32 - e) * 2 ^ e := by
  rw [shl32, Nat.mod_eq_of_lt he, ← Nat.mul_mod_mul_right, ← pow_add, Nat.sub_add_cancel he.le]

namespace Store

variable (s : Store)

/-- The settings of the store's object. -/
abbrev cfg : Config := s.cf.cfg

/-- The backing file of split slot `i` on disk, empty when absent. -/
def file (i : Nat) : DiskFile := (s.fs.files (s.cfg.fileName i)).getD .empty

/-- `fileNameList_[i]` as the messages print it: its path, or `""` before `open` assigned it. -/
def nameText (i : Nat) : String := ((s.cf.fileNameList_ i).map CpFileName.path).getD ""

/-- `fileNameList_[i].assign(path)`: slot `i` named by the path `open` builds for it. -/
def assignName (i : Nat) : Store := { s with cf := s.cf.assignNames (· == i) }

/-- `fileList_[i] = h`. -/
def attach (i : Nat) (h : NamedFile) : Store :=
  { s with cf := { s.cf with fileList_ := Function.update s.cf.fileList_ i (some h) } }

/-- The file `n` created empty when absent, as `TYPE_CREATE` does. -/
def create (n : CpFileName) : Store := { s with fs := s.fs.modify n id }

/-- The file `n` created or emptied, as `TYPE_CREATE | TYPE_TRUNCATE` do. -/
def truncateFile (n : CpFileName) : Store := { s with fs := s.fs.modify n fun _ => .empty }

/-- The file of split slot `i` after `update`. -/
def modifyFile (i : Nat) (update : DiskFile → DiskFile) : Store :=
  { s with fs := s.fs.modify (s.cfg.fileName i) update }

/-- The directory check of `open` for slot `i`: split slots always, the single file only under
a non-empty `dir`.  A file of the slot can be created exactly when it passes. -/
def dirFault (i : Nat) : Option Fault :=
  let dir := s.cfg.dirList_ i
  if s.cfg.splitMode_ || !s.cfg.dir_.isEmpty then
    match s.fs.dirStatus dir with
    | .directory => none
    | .notDirectory =>
      some (.error .GS_ERROR_CF_INVALID_DIRECTORY ["Not direcotry: directoryName=" ++ dir])
    | .missing =>
      some (.error .GS_ERROR_CF_INVALID_DIRECTORY ["Directory not found: directoryName=" ++ dir])
  else none

/-- `open` with `TYPE_CREATE` of slot `i`'s file `n` succeeds: the file is there, or the
directory to create it in. -/
def canCreate (i : Nat) (n : CpFileName) : Bool := (s.fs.files n).isSome || (s.dirFault i).isNone

/-- The lazy reopen of `writeBlock` and `writePartialBlock`, and the handle the write goes
through: a `NULL` entry gets a `new NamedFile` opened on `fileNameList_[fileNth]` with
`TYPE_CREATE | TYPE_READ_WRITE` and locked. -/
def reopenForWrite (fileNth : Nat) : Result Fault Store NamedFile :=
  match s.cf.fileList_ fileNth with
  | some h => .ok h s
  | none =>
    match s.cf.fileNameList_ fileNth with
    | some n =>
      if s.canCreate fileNth n then .ok .readWrite ((s.attach fileNth .readWrite).create n)
      else .error ioError (s.attach fileNth .failed)
    | none => .error ioError (s.attach fileNth .failed)

/-! ### `open`, `truncate`, `close` -/

/-- One pass of `open`'s loop: check the directory, assign the slot's name, then attach the file
and count its blocks `ceil(size / BLOCK_SIZE)`, or create it when allowed. -/
def openSlot (checkOnly createMode : Bool) (i : Nat) : Result Fault Store Nat :=
  match s.dirFault i with
  | some e => .error e s
  | none =>
    let t := s.assignName i
    match t.fs.files (t.cfg.fileName i) with
    | some f =>
      .ok ((f.size + t.cfg.BLOCK_SIZE_ - 1) / t.cfg.BLOCK_SIZE_)
        (t.attach i ⟨false, checkOnly, !checkOnly⟩)
    | none =>
      if checkOnly then
        .error (.error .GS_ERROR_CM_FILE_NOT_FOUND ["Checkpoint file not found despite check only."]) t
      else if !createMode then
        .error (.error .GS_ERROR_CM_FILE_NOT_FOUND ["Checkpoint file not found."]) t
      else .ok 0 ((t.attach i .readWrite).create (t.cfg.fileName i))

/-- `open`'s loop over the split slots, summing their block counts into `totalBlockCount`. -/
def openLoop (checkOnly createMode : Bool) : List Nat → Nat → Store → Result Fault Store Nat
  | [], total, s => .ok total s
  | i :: rest, total, s =>
    match s.openSlot checkOnly createMode i with
    | .ok n s' => openLoop checkOnly createMode rest (total + n) s'
    | .error e s' => .error e s'

/-- The end of `open`: `blockNum_` and the two bitmaps sized `totalBlockCount + 2`, all free. -/
def openFinish (total : Nat) : Store :=
  let used := (s.cf.usedChunkInfo_.reserve (total + 1)).set (total + 1) false
  { s with cf := { s.cf with
      blockNum_ := total
      usedChunkInfo_ := used
      validChunkInfo_ := (s.cf.validChunkInfo_.reserve (total + 1)).set (total + 1) false
      freeUseBitNum_ := used.length
      freeBlockSearchCursor_ := 0 } }

/-- `open(checkOnly, createMode)`: whether the store is empty; its `assert`s always hold. -/
def «open» (checkOnly createMode : Bool) : Result Fault Store Bool :=
  match openLoop checkOnly createMode (List.range s.cfg.splitCount_) 0 s with
  | .ok total s' => .ok (total == 0) (s'.openFinish total)
  | .error e s' =>
    .error (e.rethrow ("Checkpoint file open failed. (reason=" ++ e.message ++ ")")) s'

/-- One pass of `truncate`'s loop: a `new NamedFile` opened on `fileNameList_[i]` with
`TYPE_CREATE | TYPE_TRUNCATE | TYPE_READ_WRITE` and locked, its file left empty. -/
def truncateSlot (i : Nat) : Result Fault Store Unit :=
  match s.cf.fileNameList_ i with
  | some n =>
    if s.canCreate i n then .ok () ((s.attach i .readWrite).truncateFile n)
    else .error ioError (s.attach i .failed)
  | none => .error ioError (s.attach i .failed)

/-- `truncate`'s loop over the split slots. -/
def truncateLoop : List Nat → Store → Result Fault Store Unit
  | [], s => .ok () s
  | i :: rest, s =>
    match s.truncateSlot i with
    | .ok () s' => truncateLoop rest s'
    | .error e s' => .error e s'

/-- `truncate()`: every file recreated empty, then the counts and bitmaps reset. -/
def truncate : Result Fault Store Unit :=
  match truncateLoop (List.range s.cfg.splitCount_) s with
  | .ok () t => .ok () { t with cf := { t.cf with
      blockNum_ := 0
      freeUseBitNum_ := 0
      freeBlockSearchCursor_ := 0
      usedChunkInfo_ := t.cf.usedChunkInfo_.reset
      validChunkInfo_ := t.cf.validChunkInfo_.reset } }
  | .error e t =>
    .error (e.rethrow ("Checkpoint file truncate failed. (reason=" ++ e.message ++ ")")) t

/-- `close()`: every entry of `fileList_` closed and set to `NULL`. -/
def close : Store :=
  { s with cf := { s.cf with
    fileList_ := fun i => if i < s.cfg.splitCount_ then none else s.cf.fileList_ i } }

/-- `getFileSize()`'s loop: `getStatus` of each slot with a handle, throwing on a closed one. -/
def getFileSizeLoop : List Nat → Nat → Except Fault Nat
  | [], total => .ok total
  | i :: rest, total =>
    match s.cf.fileList_ i with
    | some h => if h.isClosed then .error ioError else getFileSizeLoop rest (total + (s.file i).size)
    | none => getFileSizeLoop rest total

/-- `getFileSize()`: the sizes of the files with an entry in `fileList_`. -/
def getFileSize : Except Fault Nat :=
  match s.getFileSizeLoop (List.range s.cfg.splitCount_) 0 with
  | .ok total => .ok total
  | .error e => .error (e.rethrow ("Checkpoint file read failed. (reason=" ++ e.message ++ ")"))

/-- `getSplitFileSize(splitId)`: after `assert(splitId < splitCount_)`, the size of the slot's
file when it has a handle (`getStatus` throws on a closed one), 0 otherwise. -/
def getSplitFileSize (splitId : Nat) : Except Fault Nat :=
  if splitId < s.cfg.splitCount_ then
    match s.cf.fileList_ splitId with
    | some h => if h.isClosed then .error ioError else .ok (s.file splitId).size
    | none => .ok 0
  else .error (.assertion "splitId < splitCount_")

/-! ### Block and byte I/O -/

/-- `writeBlock(buffer, size, blockNo)`: `size << BLOCK_EXP_SIZE_` bytes at the block's place,
`blockNum_` raised to `size + blockNo`; returns `size`. -/
def writeBlock (buffer : List UInt8) (size : UInt32) (blockNo : UInt64) : Result Fault Store Nat :=
  if size.toNat = 0 then .error (.assertion "size != 0") s
  else
    let offset := blockNo.toNat * s.cfg.BLOCK_SIZE_ % 2 ^ 64
    let fileNth := s.cfg.calcFileNth offset
    let fileOffset := s.cfg.calcFileOffset offset
    let writtenSize := shl32 size.toNat s.cfg.BLOCK_EXP_SIZE_
    let failed (e : Fault) : Fault := e.rethrow ("Checkpoint file write failed. (reason=" ++
      e.message ++ s.nameText fileNth ++ ",pgId," ++ toString s.cfg.pgId_ ++ ",blockNo," ++
      toString blockNo.toNat ++ ")")
    match s.reopenForWrite fileNth with
    | .error e t => .error (failed e) t
    | .ok h t =>
      if h.writeFails fileOffset writtenSize then .error (failed ioError) t
      else
        let t₁ := t.modifyFile fileNth (·.write fileOffset writtenSize buffer)
        let last := (size.toNat + blockNo.toNat) % 2 ^ 64
        .ok size.toNat { t₁ with cf := { t₁.cf with
          blockNum_ := if t₁.cf.blockNum_ < last then last else t₁.cf.blockNum_
          writeBlockCount_ := t₁.cf.writeBlockCount_ + writtenSize / 2 ^ s.cfg.BLOCK_EXP_SIZE_ } }

/-- `writePartialBlock(buffer, size, offset)`: `size` bytes at byte `offset`, `blockNum_`
raised to cover them when `(blockNum_ << BLOCK_EXP_SIZE_) < size + offset`; returns `size`. -/
def writePartialBlock (buffer : List UInt8) (size : UInt32) (offset : UInt64) :
    Result Fault Store Nat :=
  let fileNth := s.cfg.calcFileNth offset.toNat
  let fileOffset := s.cfg.calcFileOffset offset.toNat
  let failed (e : Fault) : Fault :=
    e.rethrow ("Checkpoint file write failed. (reason=" ++ e.message ++ ")")
  match s.reopenForWrite fileNth with
  | .error e t => .error (failed e) t
  | .ok h t =>
    if h.writeFails fileOffset size.toNat then .error (failed ioError) t
    else
      let t₁ := t.modifyFile fileNth (·.write fileOffset size.toNat buffer)
      let last := (size.toNat + offset.toNat) % 2 ^ 64
      .ok size.toNat { t₁ with cf := { t₁.cf with
        blockNum_ :=
          if t₁.cf.blockNum_ * 2 ^ s.cfg.BLOCK_EXP_SIZE_ % 2 ^ 64 < last then
            (size.toNat + offset.toNat + s.cfg.BLOCK_SIZE_ - 1) % 2 ^ 64 / 2 ^ s.cfg.BLOCK_EXP_SIZE_
          else t₁.cf.blockNum_ } }

/-- The read of `readBlock` through handle `h`: `size << BLOCK_EXP_SIZE_` bytes at `fileOffset`. -/
def readOpen (h : NamedFile) (size : UInt32) (fileNth fileOffset : Nat) :
    Result Fault Store (Nat × List UInt8) :=
  let readSize := shl32 size.toNat s.cfg.BLOCK_EXP_SIZE_
  let readBlockNum := readSize / 2 ^ s.cfg.BLOCK_EXP_SIZE_
  if h.readFails (s.file fileNth) fileOffset readSize then
    let e := ioError
    .error (e.rethrow ("Checkpoint file read failed. (reason=" ++ e.message ++ ")")) s
  else
    .ok (readBlockNum, (s.file fileNth).read fileOffset readSize)
      { s with cf := { s.cf with readBlockCount_ := s.cf.readBlockCount_ + readBlockNum } }

/-- `readBlock(buffer, size, blockNo)`: the blocks read and the bytes put in `buffer`.  The
parameter check is `blockNum_ < size + blockNo - 1 || size == 0` in 64 bits.  A `NULL` entry is
reopened read-write when `fileNameList_[fileNth]` exists; otherwise the call returns 0 ("no
data"). -/
def readBlock (size : UInt32) (blockNo : UInt64) : Result Fault Store (Nat × List UInt8) :=
  if size.toNat = 0 then .error (.assertion "size != 0") s
  else if s.cf.blockNum_ < (size.toNat + blockNo.toNat + (2 ^ 64 - 1)) % 2 ^ 64 ∨ size.toNat = 0 then
    .error (.error .GS_ERROR_CF_READ_CHUNK_FAILED
      ["Checkpoint file read failed. (reason= invalid parameter. size = " ++ toString size.toNat ++
        ", blockNo = " ++ toString blockNo.toNat ++ ", blockNum = " ++ toString s.cf.blockNum_ ++
        ")"]) s
  else
    let offset := blockNo.toNat * s.cfg.BLOCK_SIZE_ % 2 ^ 64
    let fileNth := s.cfg.calcFileNth offset
    let fileOffset := s.cfg.calcFileOffset offset
    match s.cf.fileList_ fileNth with
    | some h => s.readOpen h size fileNth fileOffset
    | none =>
      match s.cf.fileNameList_ fileNth with
      | some n =>
        if (s.fs.files n).isSome then
          (s.attach fileNth .readWrite).readOpen .readWrite size fileNth fileOffset
        else .ok (0, []) s
      | none => .ok (0, []) s

/-- `punchHoleBlock(size, offset)`: a hole of `size` bytes at byte `offset` through the slot's
handle, skipped when it is `NULL` or closed or `size` is 0. -/
def punchHoleBlock (size : UInt32) (offset : UInt64) : Result Fault Store Unit :=
  let fileNth := s.cfg.calcFileNth offset.toNat
  let fileOffset := s.cfg.calcFileOffset offset.toNat
  match s.cf.fileList_ fileNth with
  | some h =>
    if !h.isClosed && decide (0 < size.toNat) then
      if h.punchFails fileOffset then
        let e := ioError
        .error (e.rethrow ("Checkpoint file fallocate failed. (reason=" ++ e.message ++
          s.nameText fileNth ++ ",pgId," ++ toString s.cfg.pgId_ ++ ",offset," ++
          toString fileOffset ++ ",size," ++ toString size.toNat ++ ")")) s
      else .ok () (s.modifyFile fileNth (·.punchHole fileOffset size.toNat))
    else .ok () s
  | none => .ok () s

/-- The loop of `zerofillUnusedBlock` over blocks `i, i + 1, …` (`n` left): a hole of one block
at each free bit of `used`, through `fileList_[fileNth]` after `assert(fileList_[fileNth])`. -/
def zerofillLoop (used : BitArray) : (n i : Nat) → Store → Result Fault Store Unit
  | 0, _, s => .ok () s
  | n + 1, i, s =>
    if !used.get i then
      let offset := i * s.cfg.BLOCK_SIZE_ % 2 ^ 64
      let fileNth := s.cfg.calcFileNth offset
      let fileOffset := s.cfg.calcFileOffset offset
      match s.cf.fileList_ fileNth with
      | none => .error (.assertion "fileList_[fileNth]") s
      | some h =>
        if h.punchFails fileOffset then
          let e := ioError
          .error (e.rethrow ("Punching holes in checkpoint file has failed. (reason=" ++
            e.message ++ s.nameText fileNth ++ ",pgId," ++ toString s.cfg.pgId_ ++ ",offset," ++
            toString fileOffset ++ ",size," ++ toString s.cfg.BLOCK_SIZE_ ++ ")")) s
        else zerofillLoop used n (i + 1) (s.modifyFile fileNth (·.punchHole fileOffset s.cfg.BLOCK_SIZE_))
    else zerofillLoop used n (i + 1) s

/-- `zerofillUnusedBlock()`: holes at the free blocks `1 … used.length - 1` (block 0 is kept). -/
def zerofillUnusedBlock : Result Fault Store Unit :=
  zerofillLoop s.cf.usedChunkInfo_ (s.cf.usedChunkInfo_.length - 1) 1 s

/-! ### The primitives -/

variable {s}

@[simp] theorem attach_cf (i : Nat) (h : NamedFile) :
    (s.attach i h).cf = { s.cf with fileList_ := Function.update s.cf.fileList_ i (some h) } := rfl

@[simp] theorem attach_fs (i : Nat) (h : NamedFile) : (s.attach i h).fs = s.fs := rfl

@[simp] theorem create_cf (n : CpFileName) : (s.create n).cf = s.cf := rfl

@[simp] theorem create_fs (n : CpFileName) : (s.create n).fs = s.fs.modify n id := rfl

@[simp] theorem modifyFile_cf (i : Nat) (u : DiskFile → DiskFile) : (s.modifyFile i u).cf = s.cf :=
  rfl

@[simp] theorem modifyFile_fs (i : Nat) (u : DiskFile → DiskFile) :
    (s.modifyFile i u).fs = s.fs.modify (s.cfg.fileName i) u := rfl

@[simp] theorem assignName_cf (i : Nat) : (s.assignName i).cf = s.cf.assignNames (· == i) := rfl

@[simp] theorem assignName_fs (i : Nat) : (s.assignName i).fs = s.fs := rfl

@[simp] theorem assignName_cfg (i : Nat) : (s.assignName i).cfg = s.cfg := rfl

@[simp] theorem file_assignName (i j : Nat) : (s.assignName i).file j = s.file j := rfl

@[simp] theorem dirFault_assignName (i j : Nat) : (s.assignName i).dirFault j = s.dirFault j := rfl

@[simp] theorem truncateFile_cf (n : CpFileName) : (s.truncateFile n).cf = s.cf := rfl

@[simp] theorem truncateFile_fs (n : CpFileName) :
    (s.truncateFile n).fs = s.fs.modify n fun _ => .empty := rfl

@[simp] theorem attach_cfg (i : Nat) (h : NamedFile) : (s.attach i h).cfg = s.cfg := rfl

@[simp] theorem truncateFile_cfg (n : CpFileName) : (s.truncateFile n).cfg = s.cfg := rfl

@[simp] theorem create_cfg (n : CpFileName) : (s.create n).cfg = s.cfg := rfl

@[simp] theorem modifyFile_cfg (i : Nat) (u : DiskFile → DiskFile) : (s.modifyFile i u).cfg = s.cfg :=
  rfl

@[simp] theorem file_attach (i j : Nat) (h : NamedFile) : (s.attach i h).file j = s.file j := rfl

@[simp] theorem close_cfg : s.close.cfg = s.cfg := rfl

@[simp] theorem close_fs : s.close.fs = s.fs := rfl

@[simp] theorem file_create (n : CpFileName) (j : Nat) : (s.create n).file j = s.file j := by
  simp only [file, create_fs, FileSystem.modify_files, create_cfg]
  split
  · next h => rw [h]; rfl
  · rfl

theorem create_of_isSome {n : CpFileName} (h : (s.fs.files n).isSome) : s.create n = s := by
  simp only [create, FileSystem.modify_id_of_isSome h]

theorem dirFault_congr {t : Store} (hcfg : t.cfg = s.cfg) (hd : t.fs.dirStatus = s.fs.dirStatus)
    (i : Nat) : t.dirFault i = s.dirFault i := by
  simp only [dirFault, hcfg, hd]

@[simp] theorem dirFault_attach (i j : Nat) (h : NamedFile) : (s.attach i h).dirFault j = s.dirFault j :=
  rfl

@[simp] theorem dirFault_create (n : CpFileName) (j : Nat) : (s.create n).dirFault j = s.dirFault j :=
  dirFault_congr rfl rfl j

@[simp] theorem dirFault_modifyFile (i j : Nat) (u : DiskFile → DiskFile) :
    (s.modifyFile i u).dirFault j = s.dirFault j :=
  dirFault_congr rfl rfl j

@[simp] theorem dirFault_truncateFile (n : CpFileName) (j : Nat) :
    (s.truncateFile n).dirFault j = s.dirFault j :=
  dirFault_congr rfl rfl j

theorem fileNameList_eq_some {i : Nat} {n : CpFileName} (h : s.cf.fileNameList_ i = some n) :
    n = s.cfg.fileName i :=
  s.cf.fileNameList_eq i n h

open CheckpointFile (IoFrame)

theorem ioFrame_attach (i : Nat) (h : NamedFile) : IoFrame s.cf (s.attach i h).cf :=
  ⟨rfl, rfl, rfl, rfl, rfl⟩

/-- Every outcome of the lazy reopen: the old handle, a read-write one, or an I/O error. -/
theorem reopenForWrite_cases (n : Nat) :
    (∃ h, s.cf.fileList_ n = some h ∧ s.reopenForWrite n = .ok h s) ∨
    (s.cf.fileList_ n = none ∧ s.cf.fileNameList_ n = some (s.cfg.fileName n) ∧
      s.canCreate n (s.cfg.fileName n) ∧
      s.reopenForWrite n = .ok .readWrite ((s.attach n .readWrite).create (s.cfg.fileName n))) ∨
    (s.cf.fileList_ n = none ∧
      (s.cf.fileNameList_ n = none ∨ s.canCreate n (s.cfg.fileName n) = false) ∧
      s.reopenForWrite n = .error ioError (s.attach n .failed)) := by
  unfold reopenForWrite
  rcases hh : s.cf.fileList_ n with _ | h
  · rcases hn : s.cf.fileNameList_ n with _ | m
    · exact .inr (.inr ⟨rfl, .inl rfl, rfl⟩)
    · obtain rfl := fileNameList_eq_some hn
      dsimp only
      split_ifs with hc
      · exact .inr (.inl ⟨rfl, rfl, hc, rfl⟩)
      · exact .inr (.inr ⟨rfl, .inr (by simpa using hc), rfl⟩)
  · exact .inl ⟨h, rfl, rfl⟩

/-- The lazy reopen keeps the allocator's members, `blockNum_` and the counters. -/
theorem reopenForWrite_ioFrame {n : Nat} {r : Result Fault Store NamedFile}
    (he : s.reopenForWrite n = r) :
    IoFrame s.cf (resultStore r).cf ∧ (resultStore r).cf.blockNum_ = s.cf.blockNum_ ∧
      (resultStore r).cf.writeBlockCount_ = s.cf.writeBlockCount_ := by
  subst he
  rcases reopenForWrite_cases (s := s) n with ⟨h, -, he⟩ | ⟨-, -, -, he⟩ | ⟨-, -, he⟩ <;> rw [he] <;>
    exact ⟨⟨rfl, rfl, rfl, rfl, rfl⟩, rfl, rfl⟩

/-! ### Stores ready for I/O -/

/-- A store ready for I/O: every split slot named over a directory that is there, and each of
its handles `NULL` or open read-write and locked over a file on disk. -/
structure Ready (s : Store) : Prop where
  named : ∀ i < s.cfg.splitCount_, s.cf.fileNameList_ i = some (s.cfg.fileName i)
  dir : ∀ i < s.cfg.splitCount_, s.dirFault i = none
  handle : ∀ i < s.cfg.splitCount_, ∀ h, s.cf.fileList_ i = some h →
    h = .readWrite ∧ (s.fs.files (s.cfg.fileName i)).isSome

namespace Ready

/-- A store that keeps what `Ready` reads of a ready store is ready. -/
theorem of_frame (hR : s.Ready) {t : Store} (hcfg : t.cfg = s.cfg)
    (hn : t.cf.fileNameList_ = s.cf.fileNameList_) (hfl : t.cf.fileList_ = s.cf.fileList_)
    (hd : t.fs.dirStatus = s.fs.dirStatus)
    (hf : ∀ n, (s.fs.files n).isSome → (t.fs.files n).isSome) : t.Ready where
  named i hi := by rw [hn, hcfg]; exact hR.named i (hcfg ▸ hi)
  dir i hi := by rw [dirFault_congr hcfg hd]; exact hR.dir i (hcfg ▸ hi)
  handle i hi h hh := by
    rw [hfl] at hh
    obtain ⟨rfl, hfile⟩ := hR.handle i (hcfg ▸ hi) h hh
    exact ⟨rfl, by rw [hcfg]; exact hf _ hfile⟩

theorem modifyFile (hR : s.Ready) (i : Nat) (u : DiskFile → DiskFile) : (s.modifyFile i u).Ready :=
  hR.of_frame rfl rfl rfl rfl fun n hn => by
    simp only [modifyFile_fs, FileSystem.modify_files]
    split
    · rfl
    · exact hn

theorem attach_create (hR : s.Ready) {n : Nat} (hn : n < s.cfg.splitCount_) :
    ((s.attach n .readWrite).create (s.cfg.fileName n)).Ready where
  named := hR.named
  dir i hi := by rw [dirFault_congr rfl rfl]; exact hR.dir i hi
  handle i hi h hh := by
    simp only [create_cf, attach_cf, Function.update_apply] at hh
    simp only [create_fs, create_cfg, attach_cfg, attach_fs, FileSystem.modify_files]
    split_ifs at hh with hin
    · cases hh; subst hin; simp
    · obtain ⟨rfl, hf⟩ := hR.handle i hi h hh
      refine ⟨rfl, ?_⟩
      split
      · rfl
      · exact hf

end Ready

/-- In a ready store the lazy reopen yields a read-write handle over the slot's file. -/
theorem Ready.reopenForWrite (hR : s.Ready) {n : Nat} (hn : n < s.cfg.splitCount_) :
    s.reopenForWrite n = .ok .readWrite ((s.attach n .readWrite).create (s.cfg.fileName n)) := by
  rcases reopenForWrite_cases (s := s) n with ⟨h, hh, he⟩ | ⟨-, -, -, he⟩ | ⟨hh, hc, -⟩
  · obtain ⟨rfl, hf⟩ := hR.handle n hn h hh
    rw [he, create_of_isSome (by simpa using hf)]
    congr
    simp only [attach, ← hh, Function.update_eq_self]
  · exact he
  · exfalso
    rcases hc with hc | hc
    · rw [hR.named n hn] at hc; cases hc
    · simp [canCreate, hR.dir n hn] at hc

theorem Ready.attach (hR : s.Ready) {n : Nat} (hn : n < s.cfg.splitCount_)
    (hf : (s.fs.files (s.cfg.fileName n)).isSome) : (s.attach n .readWrite).Ready := by
  have h := hR.attach_create hn
  rwa [create_of_isSome (by simpa using hf)] at h

theorem Ready.close (hR : s.Ready) : s.close.Ready where
  named := hR.named
  dir := hR.dir
  handle i hi h hh := by
    simp only [Store.close, cfg] at hh hi
    simp only [if_pos hi, reduceCtorEq] at hh

/-! ### `truncate` and `getFileSize` -/

/-- Every outcome of one pass of `truncate`: an emptied read-write file, or an I/O error. -/
theorem truncateSlot_cases (i : Nat) :
    (s.cf.fileNameList_ i = some (s.cfg.fileName i) ∧ s.canCreate i (s.cfg.fileName i) ∧
      s.truncateSlot i = .ok () ((s.attach i .readWrite).truncateFile (s.cfg.fileName i))) ∨
    ((s.cf.fileNameList_ i = none ∨ s.canCreate i (s.cfg.fileName i) = false) ∧
      s.truncateSlot i = .error ioError (s.attach i .failed)) := by
  unfold truncateSlot
  rcases hn : s.cf.fileNameList_ i with _ | m
  · exact .inr ⟨.inl rfl, rfl⟩
  · obtain rfl := fileNameList_eq_some hn
    dsimp only
    split_ifs with hc
    · exact .inl ⟨rfl, hc, rfl⟩
    · exact .inr ⟨.inr (by simpa using hc), rfl⟩

theorem canCreate_truncated (i j : Nat) :
    ((s.attach i .readWrite).truncateFile (s.cfg.fileName i)).canCreate j (s.cfg.fileName j) =
      (decide (s.cfg.fileName j = s.cfg.fileName i) || s.canCreate j (s.cfg.fileName j)) := by
  unfold canCreate
  by_cases h : s.cfg.fileName j = s.cfg.fileName i <;> simp [h]

/-- **`truncate`'s loop returns exactly when** each slot it visits is named and creatable. -/
theorem truncateLoop_ok_iff : ∀ {l : List Nat} {t : Store}, (∀ i ∈ l, i < t.cfg.splitCount_) →
    ((∃ t', truncateLoop l t = .ok () t') ↔
      ∀ i ∈ l, t.cf.fileNameList_ i = some (t.cfg.fileName i) ∧ t.canCreate i (t.cfg.fileName i))
  | [], _, _ => by simp [truncateLoop]
  | i :: l, t, hl => by
    rcases truncateSlot_cases (s := t) i with ⟨hn, hc, he⟩ | ⟨hbad, he⟩
    · have ih := truncateLoop_ok_iff (l := l)
        (t := (t.attach i .readWrite).truncateFile (t.cfg.fileName i)) fun j hj => hl j (.tail _ hj)
      simp only [truncateLoop, he, List.forall_mem_cons]
      rw [ih]
      simp only [truncateFile_cf, truncateFile_cfg, attach_cf, attach_cfg, canCreate_truncated,
        Bool.or_eq_true, decide_eq_true_eq]
      refine ⟨fun h => ⟨⟨hn, hc⟩, fun j hj => ⟨(h j hj).1, ?_⟩⟩, fun h j hj => ⟨(h.2 j hj).1, .inr (h.2 j hj).2⟩⟩
      rcases (h j hj).2 with hji | hjc
      · rwa [t.cfg.fileName_injective_on (hl j (.tail _ hj)) (hl i (.head _)) hji]
      · exact hjc
    · simp only [truncateLoop, he, List.forall_mem_cons]
      refine ⟨(fun ⟨_, h⟩ => nomatch h), fun ⟨⟨hn, hc⟩, _⟩ => ?_⟩
      rcases hbad with hbad | hbad
      · rw [hn] at hbad; cases hbad
      · rw [hbad] at hc; cases hc

/-- A returning loop of `truncate` empties each slot it visits and changes nothing else. -/
theorem truncateLoop_ok : ∀ {l : List Nat} {t t' : Store}, truncateLoop l t = .ok () t' →
    IoFrame t.cf t'.cf ∧ t'.cf.blockNum_ = t.cf.blockNum_ ∧ t'.cf.fileNameList_ = t.cf.fileNameList_ ∧
    (∀ j, t'.cf.fileList_ j = if j ∈ l then some .readWrite else t.cf.fileList_ j) ∧
    t'.fs.dirStatus = t.fs.dirStatus ∧
    ∀ n, t'.fs.files n = if ∃ i ∈ l, n = t.cfg.fileName i then some .empty else t.fs.files n
  | [], t, t', h => by cases h; simp [IoFrame.refl]
  | i :: l, t, t', h => by
    rcases truncateSlot_cases (s := t) i with ⟨-, -, he⟩ | ⟨-, he⟩ <;>
      simp only [truncateLoop, he, reduceCtorEq] at h
    obtain ⟨hio, hb, hn, hl, hd, hf⟩ := truncateLoop_ok h
    refine ⟨(ioFrame_attach _ _).trans hio, hb, hn, fun j => ?_, hd, fun n => ?_⟩
    · rw [hl j]
      by_cases hj : j = i <;> simp [hj, Function.update_apply]
    · rw [hf n]
      by_cases hn : n = t.cfg.fileName i <;> simp [hn]

/-- A thrown loop of `truncate` throws an I/O error and changes only the handles and the files. -/
theorem truncateLoop_error : ∀ {l : List Nat} {t t' : Store} {e : Fault},
    truncateLoop l t = .error e t' → e = ioError ∧ IoFrame t.cf t'.cf ∧
      t'.cf.blockNum_ = t.cf.blockNum_ ∧ t'.cf.fileNameList_ = t.cf.fileNameList_
  | [], _, _, _, h => nomatch h
  | i :: l, t, t', e, h => by
    rcases truncateSlot_cases (s := t) i with ⟨-, -, he⟩ | ⟨-, he⟩ <;>
      simp only [truncateLoop, he, reduceCtorEq] at h
    · obtain ⟨rfl, hf, hb, hn⟩ := truncateLoop_error h
      exact ⟨rfl, (ioFrame_attach _ _).trans hf, hb, hn⟩
    · cases h
      exact ⟨rfl, ioFrame_attach _ _, rfl, rfl⟩

/-- `truncate()` returns exactly when every split slot is named and its file can be opened. -/
theorem truncate_ok_iff : (∃ s', s.truncate = .ok () s') ↔
    ∀ i < s.cfg.splitCount_, s.cf.fileNameList_ i = some (s.cfg.fileName i) ∧
      s.canCreate i (s.cfg.fileName i) := by
  have h := truncateLoop_ok_iff (l := List.range s.cfg.splitCount_) (t := s)
    fun i hi => List.mem_range.mp hi
  simp only [List.mem_range] at h
  rw [← h]
  unfold truncate
  constructor
  · rintro ⟨s', hs⟩
    split at hs
    · exact ⟨_, ‹_›⟩
    · cases hs
  · rintro ⟨t, ht⟩
    exact ⟨_, by rw [ht]⟩

/-- A returning `truncate()` empties every split file and resets the allocator. -/
theorem truncate_eq_ok {s' : Store} (h : s.truncate = .ok () s') :
    s'.cfg = s.cfg ∧ s'.cf.fileNameList_ = s.cf.fileNameList_ ∧
    (∀ j, s'.cf.fileList_ j = if j < s.cfg.splitCount_ then some .readWrite else s.cf.fileList_ j) ∧
    s'.cf.blockNum_ = 0 ∧ s'.cf.freeUseBitNum_ = 0 ∧ s'.cf.freeBlockSearchCursor_ = 0 ∧
    s'.cf.usedChunkInfo_ = s.cf.usedChunkInfo_.reset ∧
    s'.cf.validChunkInfo_ = s.cf.validChunkInfo_.reset ∧
    s'.fs.dirStatus = s.fs.dirStatus ∧
    ∀ n, s'.fs.files n =
      if ∃ i < s.cfg.splitCount_, n = s.cfg.fileName i then some .empty else s.fs.files n := by
  unfold truncate at h
  split at h
  · rename_i t ht
    cases h
    obtain ⟨hio, -, hn, hl, hd, hf⟩ := truncateLoop_ok ht
    simp only [List.mem_range] at hl hf
    exact ⟨hio.cfg, hn, hl, rfl, rfl, rfl, by rw [hio.used], by rw [hio.valid], hd, hf⟩
  · cases h

/-- A thrown `truncate()` changes only handles and files. -/
theorem truncate_eq_error {e : Fault} {s' : Store} (h : s.truncate = .error e s') :
    e = .error .GS_ERROR_CM_IO_ERROR ["Checkpoint file truncate failed. (reason=)"] ∧
      IoFrame s.cf s'.cf ∧ s'.cf.blockNum_ = s.cf.blockNum_ ∧
      s'.cf.fileNameList_ = s.cf.fileNameList_ := by
  unfold truncate at h
  split at h
  · cases h
  · rename_i e₀ t ht
    cases h
    obtain ⟨rfl, hio, hb, hn⟩ := truncateLoop_error ht
    exact ⟨rfl, hio, hb, hn⟩

/-- In a ready store `truncate()` returns, and the store stays ready. -/
theorem Ready.truncate (hR : s.Ready) : ∃ s', s.truncate = .ok () s' ∧ s'.Ready := by
  obtain ⟨s', hs⟩ := truncate_ok_iff.mpr fun i hi =>
    ⟨hR.named i hi, by simp [canCreate, hR.dir i hi]⟩
  obtain ⟨hcfg, hn, hl, -, -, -, -, -, hd, hf⟩ := truncate_eq_ok hs
  refine ⟨s', hs, fun i hi => ?_, fun i hi => ?_, fun i hi h hh => ?_⟩
  · rw [hn, hcfg]; exact hR.named i (hcfg ▸ hi)
  · rw [dirFault_congr hcfg hd]; exact hR.dir i (hcfg ▸ hi)
  · rw [hcfg] at hi ⊢
    rw [hl, if_pos hi] at hh
    cases hh
    rw [hf, if_pos ⟨i, hi, rfl⟩]
    exact ⟨rfl, rfl⟩

theorem getFileSizeLoop_eq : ∀ (l : List Nat) (total : Nat),
    (∀ i ∈ l, ∀ h, s.cf.fileList_ i = some h → h.isClosed = false) →
    s.getFileSizeLoop l total = .ok (total + (l.map fun i =>
      if (s.cf.fileList_ i).isSome then (s.file i).size else 0).sum)
  | [], total, _ => rfl
  | i :: l, total, hl => by
    have ih := getFileSizeLoop_eq l
    unfold getFileSizeLoop
    rcases hh : s.cf.fileList_ i with _ | h
    · simp only [List.map_cons, hh, Option.isSome_none, Bool.false_eq_true, ↓reduceIte,
        List.sum_cons, Nat.zero_add]
      exact ih total fun j hj => hl j (List.mem_cons_of_mem _ hj)
    · simp only [hl i (List.mem_cons_self _ _) h hh, Bool.false_eq_true, ↓reduceIte,
        ih _ fun j hj => hl j (List.mem_cons_of_mem _ hj), List.map_cons, hh, Option.isSome_some,
        List.sum_cons, Nat.add_assoc]

/-- With no closed split handle, `getFileSize()` sums the sizes of the files with a handle. -/
theorem getFileSize_eq (h : ∀ i < s.cfg.splitCount_, ∀ hd, s.cf.fileList_ i = some hd → hd.isClosed = false) :
    s.getFileSize = .ok ((List.range s.cfg.splitCount_).map fun i =>
      if (s.cf.fileList_ i).isSome then (s.file i).size else 0).sum := by
  rw [getFileSize, getFileSizeLoop_eq _ 0 fun i hi => h i (List.mem_range.mp hi), Nat.zero_add]

end Store

end CheckpointStore
