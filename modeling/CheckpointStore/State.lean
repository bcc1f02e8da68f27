import CheckpointStore.BitArray
import CheckpointStore.Disk

/-!
# CheckpointStore.State — the `CheckpointFile` object, its faults and its constructor

`CheckpointFile` holds the members of the C++ class the `.cpp` reads or writes, over the
settings `cfg`.  `dirList_` is determined by the settings (`Config.dirList_`); `fileNameList_[i]`
is `""` (`none`) until `open` assigns it the path built from them, `Config.fileName i`, and it
can hold nothing else (`fileNameList_eq`).  Left out: `blockCountList_` (written, never read),
`ioWarningThresholdMillis_` and the retry counters (they only feed tracing and the missing
I/O macros).

A member either returns, throws (`Fault.error`, after which the object is still usable and
keeps what the member had changed), or stops the program at a failed `assert`
(`Fault.assertion`; the model is the debug build, where `assert` is checked).

`construct_spec`: the constructor returns exactly when its configuration checks pass, its loop
over the split slots checking every configured directory (`dirList_[i]` runs over all of them,
`forall_dirList_iff`), and otherwise throws one of two codes under `"Invalid configure found."`.
-/

namespace CheckpointStore

/-- The error codes this file throws. -/
inductive ErrorCode
  | GS_ERROR_CF_INVALID_DIRECTORY
  | GS_ERROR_CM_IO_ERROR
  | GS_ERROR_CM_FILE_NOT_FOUND
  | GS_ERROR_CF_READ_CHUNK_FAILED
  deriving DecidableEq, Repr

/-- How a member call can end other than by returning. -/
inductive Fault
  /-- A thrown exception: its code and its messages, the outermost (rethrow) first. -/
  | error (code : ErrorCode) (messages : List String)
  /-- `assert(expr)` failed. -/
  | assertion (expr : String)
  deriving DecidableEq, Repr

/-- `GS_EXCEPTION_MESSAGE(e)`: the outermost message of a thrown exception. -/
def Fault.message : Fault → String
  | .error _ (message :: _) => message
  | _ => ""

/-- `GS_RETHROW_SYSTEM_ERROR(e, message)`: the same code, one more message. -/
def Fault.rethrow (message : String) : Fault → Fault
  | .error code messages => .error code (message :: messages)
  | f => f

/-- What `util` throws when a system call fails: `GS_ERROR_CM_IO_ERROR`, with a message outside
the repository's files. -/
def ioError : Fault := .error .GS_ERROR_CM_IO_ERROR []

/-- The constants of `checkpoint_file.h` the `.cpp` uses; that header is not among the
repository's files, so they are parameters. -/
structure Limits where
  ALLOCATE_BLOCK_SEARCH_LIMIT : Nat
  FILE_SPLIT_COUNT_LIMIT : Nat
  FILE_SPLIT_STRIPE_SIZE_LIMIT : Nat

/-- The members of `CheckpointFile` the `.cpp` uses. -/
@[ext] structure CheckpointFile where
  cfg : Config
  fileNameList_ : Nat → Option CpFileName
  fileNameList_eq : ∀ i n, fileNameList_ i = some n → n = cfg.fileName i
  fileList_ : Nat → Option NamedFile
  usedChunkInfo_ : BitArray
  validChunkInfo_ : BitArray
  blockNum_ : Nat
  freeUseBitNum_ : Nat
  freeBlockSearchCursor_ : Nat
  readBlockCount_ : Nat
  writeBlockCount_ : Nat

/-- The object together with the file system it works on. -/
structure Store where
  cf : CheckpointFile
  fs : FileSystem

namespace CheckpointFile

/-- The member initialisers: no name, no file open, empty bitmaps, all counters 0. -/
def init (cfg : Config) : CheckpointFile where
  cfg := cfg
  fileNameList_ := fun _ => none
  fileNameList_eq _ _ h := nomatch h
  fileList_ := fun _ => none
  usedChunkInfo_ := .empty
  validChunkInfo_ := .empty
  blockNum_ := 0
  freeUseBitNum_ := 0
  freeBlockSearchCursor_ := 0
  readBlockCount_ := 0
  writeBlockCount_ := 0

/-- `fileNameList_[i].assign(path)` for the slots `i` that `p` picks. -/
def assignNames (cf : CheckpointFile) (p : Nat → Bool) : CheckpointFile :=
  { cf with
    fileNameList_ := fun i => if p i then some (cf.cfg.fileName i) else cf.fileNameList_ i
    fileNameList_eq := fun i n h => by
      dsimp only at h
      split at h
      · exact (Option.some.inj h).symm
      · exact cf.fileNameList_eq i n h }

section AssignNames

variable (cf : CheckpointFile) (p : Nat → Bool)

@[simp] theorem assignNames_cfg : (cf.assignNames p).cfg = cf.cfg := rfl

@[simp] theorem assignNames_fileNameList_ (i : Nat) :
    (cf.assignNames p).fileNameList_ i = if p i then some (cf.cfg.fileName i) else cf.fileNameList_ i :=
  rfl

@[simp] theorem assignNames_fileList_ : (cf.assignNames p).fileList_ = cf.fileList_ := rfl

@[simp] theorem assignNames_usedChunkInfo_ : (cf.assignNames p).usedChunkInfo_ = cf.usedChunkInfo_ :=
  rfl

@[simp] theorem assignNames_validChunkInfo_ :
    (cf.assignNames p).validChunkInfo_ = cf.validChunkInfo_ := rfl

@[simp] theorem assignNames_blockNum_ : (cf.assignNames p).blockNum_ = cf.blockNum_ := rfl

@[simp] theorem assignNames_freeUseBitNum_ : (cf.assignNames p).freeUseBitNum_ = cf.freeUseBitNum_ :=
  rfl

@[simp] theorem assignNames_freeBlockSearchCursor_ :
    (cf.assignNames p).freeBlockSearchCursor_ = cf.freeBlockSearchCursor_ := rfl

@[simp] theorem assignNames_readBlockCount_ : (cf.assignNames p).readBlockCount_ = cf.readBlockCount_ :=
  rfl

@[simp] theorem assignNames_writeBlockCount_ :
    (cf.assignNames p).writeBlockCount_ = cf.writeBlockCount_ := rfl

end AssignNames

/-- The constructor body's loop over the split slots: a path that exists must be a directory. -/
def checkDirs (cfg : Config) (fs : FileSystem) : List Nat → Except Fault Unit
  | [] => .ok ()
  | i :: rest =>
    if fs.dirStatus (cfg.dirList_ i) = .notDirectory then
      .error (.error .GS_ERROR_CM_IO_ERROR ["Specified file path is exist, but path=\"" ++
        cfg.dirList_ i ++ "\" is not directory"])
    else checkDirs cfg fs rest

/-- The constructor's checks of its arguments, before the rethrow. -/
def checkConfig (K : Limits) (cfg : Config) (fs : FileSystem) : Except Fault Unit :=
  let configDirCount := cfg.configDirList.length
  if cfg.splitMode_ then
    if configDirCount > cfg.splitCount_ then
      .error (.error .GS_ERROR_CF_INVALID_DIRECTORY
        ["Config error: dbFilePathList.size() > dbFileSplitCount"])
    else if configDirCount = 0 then
      .error (.error .GS_ERROR_CF_INVALID_DIRECTORY ["Config error: dbFilePathList is empty"])
    else if cfg.splitCount_ > K.FILE_SPLIT_COUNT_LIMIT then
      .error (.error .GS_ERROR_CF_INVALID_DIRECTORY ["Config error: dbFileSplitCount is too large"])
    else if cfg.stripeSize_ > K.FILE_SPLIT_STRIPE_SIZE_LIMIT then
      .error (.error .GS_ERROR_CF_INVALID_DIRECTORY
        ["Config error: dbFileSplitStripeSize is too large"])
    else checkDirs cfg fs (List.range cfg.splitCount_)
  else if configDirCount ≠ 0 then
    .error (.error .GS_ERROR_CF_INVALID_DIRECTORY
      ["dbFilePathList.size() > 0, but dbFileSplitCount == 0"])
  else .ok ()

/-- `CheckpointFile::CheckpointFile(...)`: the initialised object, or the rethrown error. -/
def construct (K : Limits) (cfg : Config) (fs : FileSystem) : Except Fault CheckpointFile :=
  match checkConfig K cfg fs with
  | .ok () => .ok (init cfg)
  | .error e => .error (e.rethrow "Invalid configure found.")

@[simp] theorem construct_eq_ok {K : Limits} {cfg : Config} {fs : FileSystem} {cf : CheckpointFile} :
    construct K cfg fs = .ok cf ↔ checkConfig K cfg fs = .ok () ∧ cf = init cfg := by
  unfold construct
  cases checkConfig K cfg fs <;> simp [eq_comm]

/-! ### What the constructor accepts -/

variable {K : Limits} {cfg : Config} {fs : FileSystem}

theorem checkDirs_ok_iff : ∀ l : List Nat,
    checkDirs cfg fs l = .ok () ↔ ∀ i ∈ l, fs.dirStatus (cfg.dirList_ i) ≠ .notDirectory
  | [] => iff_of_true rfl fun _ h => nomatch h
  | i :: l => by
    rw [checkDirs]
    split_ifs with h
    · exact iff_of_false (fun h => nomatch h) fun hl => hl i (List.mem_cons_self _ _) h
    · rw [checkDirs_ok_iff l, List.forall_mem_cons]
      exact (and_iff_right h).symm

theorem checkDirs_error {e : Fault} : ∀ {l : List Nat}, checkDirs cfg fs l = .error e →
    ∃ m, e = .error .GS_ERROR_CM_IO_ERROR [m]
  | [], h => nomatch h
  | i :: l, h => by
    rw [checkDirs] at h
    split_ifs at h
    · cases h; exact ⟨_, rfl⟩
    · exact checkDirs_error h

theorem forall_dirList_iff {P : String → Prop} (hs : cfg.splitMode_ = true)
    (hne : cfg.configDirList ≠ []) (hle : cfg.configDirList.length ≤ cfg.splitCount_) :
    (∀ i < cfg.splitCount_, P (cfg.dirList_ i)) ↔ ∀ d ∈ cfg.configDirList, P d := by
  have hlen : 0 < cfg.configDirList.length := List.length_pos.mpr hne
  simp only [Config.dirList_, hs, if_true]
  constructor
  · intro h d hd
    obtain ⟨k, hk, rfl⟩ := List.getElem_of_mem hd
    have := h k (by omega)
    rwa [Nat.mod_eq_of_lt hk, List.getD_eq_getElem _ _ hk] at this
  · intro h i _
    rw [List.getD_eq_getElem _ _ (Nat.mod_lt _ hlen)]
    exact h _ (List.getElem_mem _)

theorem checkConfig_ok_iff : checkConfig K cfg fs = .ok () ↔
    if cfg.splitMode_ then
      cfg.configDirList ≠ [] ∧ cfg.configDirList.length ≤ cfg.splitCount_ ∧
        cfg.splitCount_ ≤ K.FILE_SPLIT_COUNT_LIMIT ∧
        cfg.stripeSize_ ≤ K.FILE_SPLIT_STRIPE_SIZE_LIMIT ∧
        ∀ d ∈ cfg.configDirList, fs.dirStatus d ≠ .notDirectory
    else cfg.configDirList = [] := by
  unfold checkConfig
  dsimp only
  split_ifs with hs h1 h2 h3 h4 h5
  · exact iff_of_false (fun h => nomatch h) fun h => absurd h.2.1 (by omega)
  · exact iff_of_false (fun h => nomatch h) fun h => h.1 (List.length_eq_zero.mp h2)
  · exact iff_of_false (fun h => nomatch h) fun h => absurd h.2.2.1 (by omega)
  · exact iff_of_false (fun h => nomatch h) fun h => absurd h.2.2.2.1 (by omega)
  · have hne : cfg.configDirList ≠ [] := fun h => h2 (by rw [h]; rfl)
    rw [checkDirs_ok_iff, ← forall_dirList_iff hs hne (by omega)]
    simp only [List.mem_range]
    exact ⟨fun h => ⟨hne, by omega, by omega, by omega, h⟩, fun h => h.2.2.2.2⟩
  · exact iff_of_false (fun h => nomatch h) fun h => h5 (by rw [h]; rfl)
  · exact iff_of_true rfl (List.length_eq_zero.mp (not_not.mp h5))

theorem checkConfig_error {e : Fault} (h : checkConfig K cfg fs = .error e) :
    ∃ code m, e = .error code [m] ∧
      (code = .GS_ERROR_CF_INVALID_DIRECTORY ∨ code = .GS_ERROR_CM_IO_ERROR) := by
  unfold checkConfig at h
  dsimp only at h
  split_ifs at h
  all_goals first
    | (cases h <;> exact ⟨_, _, rfl, .inl rfl⟩)
    | (obtain ⟨m, rfl⟩ := checkDirs_error h; exact ⟨_, _, rfl, .inr rfl⟩)

/-- **When the constructor returns, and what it throws.**  `CheckpointFile(...)` returns exactly
when, split, between 1 and `splitCount` directories are configured, `splitCount` and
`stripeSize` are within their limits and no configured directory exists as something other than
a directory; not split, when no directory is configured.  Otherwise it throws
`GS_ERROR_CF_INVALID_DIRECTORY` or `GS_ERROR_CM_IO_ERROR` with one message, under the rethrow's
`"Invalid configure found."`. -/
theorem construct_spec :
    ((∃ cf, construct K cfg fs = .ok cf) ↔
      if cfg.splitMode_ then
        cfg.configDirList ≠ [] ∧ cfg.configDirList.length ≤ cfg.splitCount_ ∧
          cfg.splitCount_ ≤ K.FILE_SPLIT_COUNT_LIMIT ∧
          cfg.stripeSize_ ≤ K.FILE_SPLIT_STRIPE_SIZE_LIMIT ∧
          ∀ d ∈ cfg.configDirList, fs.dirStatus d ≠ .notDirectory
      else cfg.configDirList = []) ∧
    ∀ e, construct K cfg fs = .error e → ∃ code m,
      e = .error code ["Invalid configure found.", m] ∧
        (code = .GS_ERROR_CF_INVALID_DIRECTORY ∨ code = .GS_ERROR_CM_IO_ERROR) := by
  refine ⟨⟨fun ⟨cf, h⟩ => checkConfig_ok_iff.mp (construct_eq_ok.mp h).1,
    fun h => ⟨_, construct_eq_ok.mpr ⟨checkConfig_ok_iff.mpr h, rfl⟩⟩⟩, fun e h => ?_⟩
  unfold construct at h
  split at h
  · cases h
  · rename_i e' he
    cases h
    obtain ⟨code, m, rfl, hc⟩ := checkConfig_error he
    exact ⟨code, m, rfl, hc⟩

end CheckpointFile

end CheckpointStore
