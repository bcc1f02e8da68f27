import CheckpointStore.Layout

/-!
# CheckpointStore.Disk — backing files, their handles, and the file system they live in

The operating system's side of the store.  A `DiskFile` is a byte array whose never-written
bytes read as zero, with its logical size; writes extend the size, hole punches keep it
(`FALLOC_FL_KEEP_SIZE`).  A `NamedFile` is an entry of `fileList_`: open or closed (a handle
whose `open` threw), read-only or read-write, locked or not.

`GS_FILE_WRITE_ALL`, `GS_FILE_READ_ALL` and `preAllocate` are outside the repository's files, so
they are modelled from the spec (§4.6, §7): a transfer moves every byte, retrying short
transfers, or ends in an I/O error (`writeFails`, `readFails`, `punchFails`).  A system call
fails on a closed descriptor, a write or a hole on a read-only one, any of them at an offset
past `off_t`, and a read that runs past the end of the file, whose short read is retried until
it fails.

A file is named by its parts, `<dir>/gs_cp_<pgId>_<splitId>.dat` (`CpFileName`): the directory
part ends in `/` or is empty and the rest has no `/`, so distinct parts make distinct paths.
-/

namespace CheckpointStore

/-- A backing file: its bytes (those never written read as zero) and its size in bytes. -/
structure DiskFile where
  data : Nat → UInt8
  size : Nat

namespace DiskFile

/-- A file just created, or truncated by `TYPE_TRUNCATE`. -/
def empty : DiskFile := ⟨fun _ => 0, 0⟩

/-- Modelled from the spec: `GS_FILE_WRITE_ALL`, the first `len` bytes of `buffer` at `offset`. -/
def write (f : DiskFile) (offset len : Nat) (buffer : List UInt8) : DiskFile where
  data i := if offset ≤ i ∧ i < offset + len then buffer.getD (i - offset) 0 else f.data i
  size := if len = 0 then f.size else max f.size (offset + len)

/-- Modelled from the spec: what `GS_FILE_READ_ALL` reads, the `len` bytes at `offset`. -/
def read (f : DiskFile) (offset len : Nat) : List UInt8 :=
  (List.range len).map fun j => f.data (offset + j)

/-- Modelled from the spec: what `preAllocate(FALLOC_FL_KEEP_SIZE | FALLOC_FL_PUNCH_HOLE, offset,
len)` leaves. -/
def punchHole (f : DiskFile) (offset len : Nat) : DiskFile where
  data i := if offset ≤ i ∧ i < offset + len then 0 else f.data i
  size := f.size

@[simp] theorem empty_data (i : Nat) : empty.data i = 0 := rfl

@[simp] theorem empty_size : empty.size = 0 := rfl

@[simp] theorem write_data (f : DiskFile) (offset len : Nat) (buffer : List UInt8) (i : Nat) :
    (f.write offset len buffer).data i =
      if offset ≤ i ∧ i < offset + len then buffer.getD (i - offset) 0 else f.data i := rfl

@[simp] theorem punchHole_data (f : DiskFile) (offset len i : Nat) :
    (f.punchHole offset len).data i = if offset ≤ i ∧ i < offset + len then 0 else f.data i := rfl

@[simp] theorem length_read (f : DiskFile) (offset len : Nat) : (f.read offset len).length = len := by
  simp [read]

end DiskFile

/-- An entry of `fileList_`: a `util::NamedFile`. -/
structure NamedFile where
  isClosed : Bool
  readOnly : Bool
  locked : Bool
  deriving DecidableEq, Repr

namespace NamedFile

/-- Opened `TYPE_READ_WRITE` (with `TYPE_CREATE` or not) and locked. -/
def readWrite : NamedFile := ⟨false, false, true⟩

/-- A `new util::NamedFile()` whose `open` threw: not `NULL`, but closed. -/
def failed : NamedFile := ⟨true, false, false⟩

/-- Modelled from the spec: `GS_FILE_WRITE_ALL` of `len` bytes at `offset` fails.  It writes
while bytes are left, so with `len = 0` it makes no system call. -/
def writeFails (h : NamedFile) (offset len : Nat) : Bool :=
  decide (0 < len) && (h.isClosed || h.readOnly || decide (2 ^ 63 ≤ offset))

/-- Modelled from the spec: `GS_FILE_READ_ALL` of `len` bytes at `offset` of `f` fails. -/
def readFails (h : NamedFile) (f : DiskFile) (offset len : Nat) : Bool :=
  decide (0 < len) && (h.isClosed || decide (2 ^ 63 ≤ offset) || decide (f.size < offset + len))

/-- Modelled from the spec: `preAllocate` of a hole at `offset` fails. -/
def punchFails (h : NamedFile) (offset : Nat) : Bool :=
  h.isClosed || h.readOnly || decide (2 ^ 63 ≤ offset)

@[simp] theorem writeFails_readWrite (offset len : Nat) :
    readWrite.writeFails offset len = (decide (0 < len) && decide (2 ^ 63 ≤ offset)) := by
  simp [writeFails, readWrite]

@[simp] theorem punchFails_readWrite (offset : Nat) :
    readWrite.punchFails offset = decide (2 ^ 63 ≤ offset) := by
  simp [punchFails, readWrite]

end NamedFile

/-- What `exists` and `isDirectory` report of a directory path. -/
inductive DirStatus
  | missing
  | directory
  | notDirectory
  deriving DecidableEq, Repr

/-- A checkpoint file's name: its directory part (ending in `/`, or empty), `pgId`, split id. -/
structure CpFileName where
  dirPart : String
  pgId : Nat
  splitId : Nat
  deriving DecidableEq, Repr

/-- `gsCpFileBaseName`, `gsCpFileSeparator`, `gsCpFileExtension`. -/
def gsCpFileBaseName : String := "gs_cp_"
def gsCpFileSeparator : String := "_"
def gsCpFileExtension : String := ".dat"

/-- The path `open` builds from the parts. -/
def CpFileName.path (n : CpFileName) : String :=
  n.dirPart ++ gsCpFileBaseName ++ toString n.pgId ++ gsCpFileSeparator ++ toString n.splitId ++
    gsCpFileExtension

/-- The directories and checkpoint files on disk. -/
structure FileSystem where
  dirStatus : String → DirStatus
  files : CpFileName → Option DiskFile

namespace FileSystem

/-- The file at `n` after `update`, created empty first if it is absent. -/
def modify (fs : FileSystem) (n : CpFileName) (update : DiskFile → DiskFile) : FileSystem :=
  { fs with files := Function.update fs.files n (some (update ((fs.files n).getD .empty))) }

@[simp] theorem modify_dirStatus (fs : FileSystem) (n : CpFileName) (u : DiskFile → DiskFile) :
    (fs.modify n u).dirStatus = fs.dirStatus := rfl

@[simp] theorem modify_files (fs : FileSystem) (n m : CpFileName) (u : DiskFile → DiskFile) :
    (fs.modify n u).files m = if m = n then some (u ((fs.files n).getD .empty)) else fs.files m := by
  simp [modify, Function.update_apply]

theorem modify_id_of_isSome {fs : FileSystem} {n : CpFileName} (h : (fs.files n).isSome) :
    fs.modify n id = fs := by
  obtain ⟨f, hf⟩ := Option.isSome_iff_exists.mp h
  unfold modify
  rw [hf, Option.getD_some, id, ← hf, Function.update_eq_self]

theorem modify_modify_id (fs : FileSystem) (n : CpFileName) (u : DiskFile → DiskFile) :
    (fs.modify n id).modify n u = fs.modify n u := by
  simp only [modify, Function.update_same, Option.getD_some, id, Function.update_idem]

/-- `fs'` keeps the directories and every file of `fs` as it was, and may hold more files,
created empty: what opening with `TYPE_CREATE` and writing nothing does. -/
structure Grows (fs fs' : FileSystem) : Prop where
  dirStatus : fs'.dirStatus = fs.dirStatus
  files : ∀ n, fs'.files n = fs.files n ∨ (fs.files n = none ∧ fs'.files n = some .empty)

theorem Grows.refl (fs : FileSystem) : Grows fs fs := ⟨rfl, fun _ => .inl rfl⟩

theorem Grows.trans {fs₁ fs₂ fs₃ : FileSystem} (h₁ : Grows fs₁ fs₂) (h₂ : Grows fs₂ fs₃) :
    Grows fs₁ fs₃ := by
  refine ⟨h₂.dirStatus.trans h₁.dirStatus, fun n => ?_⟩
  rcases h₁.files n with h | ⟨h0, h⟩ <;> rcases h₂.files n with h' | ⟨h0', h'⟩
  · exact .inl (h'.trans h)
  · exact .inr ⟨h ▸ h0', h'⟩
  · exact .inr ⟨h0, h'.trans h⟩
  · rw [h] at h0'; cases h0'

theorem Grows.eq_of_isSome {fs fs' : FileSystem} (h : Grows fs fs') {n : CpFileName}
    (hn : (fs.files n).isSome) : fs'.files n = fs.files n :=
  (h.files n).resolve_right fun ⟨h0, _⟩ => by simp [h0] at hn

theorem Grows.isSome {fs fs' : FileSystem} (h : Grows fs fs') {n : CpFileName}
    (hn : (fs.files n).isSome) : (fs'.files n).isSome := by
  rwa [h.eq_of_isSome hn]

theorem Grows.getD {fs fs' : FileSystem} (h : Grows fs fs') (n : CpFileName) :
    (fs'.files n).getD .empty = (fs.files n).getD .empty := by
  rcases h.files n with h | ⟨h0, h⟩
  · rw [h]
  · rw [h, h0]; rfl

theorem grows_modify_id (fs : FileSystem) (n : CpFileName) : Grows fs (fs.modify n id) := by
  refine ⟨rfl, fun m => ?_⟩
  rw [modify_files]
  split
  · subst_vars
    cases h : fs.files m <;> simp [h]
  · exact .inl rfl

end FileSystem

namespace Config

variable (c : Config)

/-- `fileNameList_[i]` as `open` builds it: `dirList_[i]/gs_cp_<pgId>_<i>.dat` in split mode,
`[dir/]gs_cp_<pgId>_1.dat` otherwise (the literal `1` kept for older files). -/
def fileName (i : Nat) : CpFileName :=
  if c.splitMode_ then ⟨c.dirList_ i ++ "/", c.pgId_, i⟩
  else ⟨if c.dir_.isEmpty then "" else c.dir_ ++ "/", c.pgId_, 1⟩

/-- Distinct split slots have distinct files. -/
theorem fileName_injective_on {i j : Nat} (hi : i < c.splitCount_) (hj : j < c.splitCount_)
    (h : c.fileName i = c.fileName j) : i = j := by
  unfold fileName at h
  split at h
  · simpa using congrArg CpFileName.splitId h
  · have := c.splitCount_eq_one (by simpa using ‹¬c.splitMode_ = true›)
    omega

theorem fileName_of_single (h : c.splitMode_ = false) (i : Nat) : c.fileName i = c.fileName 0 := by
  simp [fileName, h]

end Config

end CheckpointStore
