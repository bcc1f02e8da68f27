import CheckpointStore.Io

/-!
# CheckpointStore.Open — what `open` leaves behind

One pass of `open`'s loop names its slot once the directory check passes, then attaches the
slot's file or creates it (`openSlot_cases` lists every outcome).  The loop only names slots,
attaches handles and creates files (`openLoop_frame`, `grows_openLoop`).  On a freshly
constructed object `open` then sizes both bitmaps to `totalBlockCount + 2` free bits and sets
the free count to their length, the allocator's invariant (`open_init_inv`).

A thrown `open` stops at the first slot that throws and keeps the names and handles it set
before it (`open_error_keeps_handles`): its `catch` only rethrows.

Over every split slot (`slotOk`: its directory check passes, and its file is on disk or may be
created), `open` returns exactly when every slot passes (`open_returns_iff`).  A returning `open`
names and attaches every slot, only creates files (`FileSystem.Grows`), and counts
`Σ ceil(size / BLOCK_SIZE)` blocks (`open_counts_blocks`), which hold every byte on disk with
less than one block to spare per slot (`open_blockNum_covers`).  A thrown `open` throws a
failing slot's directory or missing-file fault under its rethrow message (`open_error_spec`).
A returning `open(false, _)` leaves a `Ready` store, and any `open(false, _)` keeps one ready
(`ready_of_open`, `Ready.open`).
-/

namespace CheckpointStore

open CheckpointFile (IoFrame)
open EStateM (Result)

namespace Store

variable {s : Store}

/-- Every outcome of one pass of `open`'s loop. -/
theorem openSlot_cases (checkOnly createMode : Bool) (i : Nat) :
    (∃ f, s.dirFault i = some f ∧ s.openSlot checkOnly createMode i = .error f s) ∨
    (s.dirFault i = none ∧ ∃ f, s.fs.files (s.cfg.fileName i) = some f ∧
      s.openSlot checkOnly createMode i = .ok ((f.size + s.cfg.BLOCK_SIZE_ - 1) / s.cfg.BLOCK_SIZE_)
        ((s.assignName i).attach i ⟨false, checkOnly, !checkOnly⟩)) ∨
    (s.dirFault i = none ∧ s.fs.files (s.cfg.fileName i) = none ∧ checkOnly = true ∧
      s.openSlot checkOnly createMode i = .error (.error .GS_ERROR_CM_FILE_NOT_FOUND
        ["Checkpoint file not found despite check only."]) (s.assignName i)) ∨
    (s.dirFault i = none ∧ s.fs.files (s.cfg.fileName i) = none ∧ checkOnly = false ∧
      createMode = false ∧ s.openSlot checkOnly createMode i = .error
        (.error .GS_ERROR_CM_FILE_NOT_FOUND ["Checkpoint file not found."]) (s.assignName i)) ∨
    (s.dirFault i = none ∧ s.fs.files (s.cfg.fileName i) = none ∧ checkOnly = false ∧
      createMode = true ∧ s.openSlot checkOnly createMode i =
        .ok 0 (((s.assignName i).attach i .readWrite).create (s.cfg.fileName i))) := by
  unfold openSlot
  rcases hd : s.dirFault i with _ | f
  · dsimp only
    rw [assignName_fs, assignName_cfg]
    rcases hf : s.fs.files (s.cfg.fileName i) with _ | f
    · cases checkOnly <;> cases createMode
      · exact .inr (.inr (.inr (.inl ⟨rfl, rfl, rfl, rfl, rfl⟩)))
      · exact .inr (.inr (.inr (.inr ⟨rfl, rfl, rfl, rfl, rfl⟩)))
      all_goals exact .inr (.inr (.inl ⟨rfl, rfl, rfl, rfl⟩))
    · exact .inr (.inl ⟨rfl, f, rfl, rfl⟩)
  · exact .inl ⟨f, rfl, rfl⟩

theorem openSlot_frame (checkOnly createMode : Bool) (i : Nat) :
    IoFrame s.cf (resultStore (s.openSlot checkOnly createMode i)).cf := by
  rcases openSlot_cases (s := s) checkOnly createMode i with ⟨_, -, he⟩ | ⟨-, _, -, he⟩ |
    ⟨-, -, -, he⟩ | ⟨-, -, -, -, he⟩ | ⟨-, -, -, -, he⟩ <;> rw [he] <;> exact ⟨rfl, rfl, rfl, rfl, rfl⟩

theorem openLoop_frame (checkOnly createMode : Bool) :
    ∀ (l : List Nat) (total : Nat) (t : Store),
      IoFrame t.cf (resultStore (openLoop checkOnly createMode l total t)).cf
  | [], _, _ => .refl _
  | i :: rest, total, t => by
    have h := openSlot_frame (s := t) checkOnly createMode i
    unfold openLoop
    split <;> rename_i heq <;> rw [heq] at h
    · exact h.trans (openLoop_frame checkOnly createMode rest _ _)
    · exact h

/-- From a fresh object a returning `open` sets `blockNum_` and both bitmaps from the files. -/
theorem open_init_ok {cfg : Config} {fs : FileSystem} {checkOnly createMode b : Bool} {s' : Store}
    (h : Store.open ⟨.init cfg, fs⟩ checkOnly createMode = .ok b s') :
    ∃ t, s'.cf.blockNum_ = t ∧ s'.cf.usedChunkInfo_ = ⟨List.replicate (t + 2) false⟩ ∧
      s'.cf.validChunkInfo_ = ⟨List.replicate (t + 2) false⟩ ∧ s'.cf.freeUseBitNum_ = t + 2 ∧
      s'.cfg = cfg := by
  have hf := openLoop_frame checkOnly createMode
    (List.range (Store.cfg ⟨.init cfg, fs⟩).splitCount_) 0 ⟨.init cfg, fs⟩
  unfold Store.open at h
  split at h <;> rename_i t s₁ heq <;> rw [heq] at hf
  · cases h
    have hu : s₁.cf.usedChunkInfo_ = .empty := hf.used
    have hv : s₁.cf.validChunkInfo_ = .empty := hf.valid
    exact ⟨t, rfl, by simp [openFinish, hu], by simp [openFinish, hv], by simp [openFinish, hu],
      hf.cfg⟩
  · cases h

/-- After `open` on a fresh object, returned or thrown, the allocator's invariant holds. -/
theorem open_init_inv {cfg : Config} {fs : FileSystem} {checkOnly createMode : Bool} {s' : Store}
    (h : after (Store.open ⟨.init cfg, fs⟩ checkOnly createMode) = some s') : s'.cf.Inv := by
  cases ho : Store.open ⟨.init cfg, fs⟩ checkOnly createMode with
  | ok b s₁ =>
    rw [ho] at h
    cases h
    obtain ⟨t, -, hu, hv, hfree, -⟩ := open_init_ok ho
    exact ⟨by simp [hu, hfree], by simp [hu, hv]⟩
  | error e s₁ =>
    have hf := openLoop_frame checkOnly createMode
      (List.range (Store.cfg ⟨.init cfg, fs⟩).splitCount_) 0 ⟨.init cfg, fs⟩
    have hs := resultStore_of_after (ho ▸ h)
    unfold Store.open at ho
    split at ho <;> rename_i heq <;> rw [heq] at hf
    · cases ho
    · cases ho
      subst hs
      exact hf.inv ⟨rfl, rfl⟩

@[simp] theorem openFinish_fs (t : Nat) : (s.openFinish t).fs = s.fs := rfl

@[simp] theorem openFinish_cfg (t : Nat) : (s.openFinish t).cfg = s.cfg := rfl

@[simp] theorem openFinish_blockNum_ (t : Nat) : (s.openFinish t).cf.blockNum_ = t := rfl

@[simp] theorem openFinish_fileList_ (t : Nat) : (s.openFinish t).cf.fileList_ = s.cf.fileList_ :=
  rfl

@[simp] theorem openFinish_fileNameList_ (t : Nat) :
    (s.openFinish t).cf.fileNameList_ = s.cf.fileNameList_ := rfl

@[simp] theorem file_openFinish (t i : Nat) : (s.openFinish t).file i = s.file i := rfl

theorem assignName_assignName (i : Nat) : (s.assignName i).assignName i = s.assignName i := by
  refine congrArg (Store.mk · s.fs) (CheckpointFile.ext rfl (funext fun j => ?_) rfl rfl rfl rfl rfl rfl
    rfl rfl)
  simp only [assignName_cf, CheckpointFile.assignNames_fileNameList_, CheckpointFile.assignNames_cfg]
  split <;> rfl

theorem openSlot_error_again {checkOnly createMode : Bool} {i : Nat} {e : Fault} {s' : Store}
    (h : s.openSlot checkOnly createMode i = .error e s') :
    s'.openSlot checkOnly createMode i = .error e s' := by
  rcases openSlot_cases (s := s) checkOnly createMode i with ⟨_, -, he⟩ | ⟨-, _, -, he⟩ |
    ⟨hd, hf, hco, he⟩ | ⟨hd, hf, hco, hcm, he⟩ | ⟨-, -, -, -, he⟩ <;> rw [he] at h <;> cases h
  · rw [he]
  · rcases openSlot_cases (s := s.assignName i) checkOnly createMode i with ⟨_, hd', -⟩ |
      ⟨hd', _, hf', -⟩ | ⟨-, -, -, he'⟩ | ⟨-, -, hco', -⟩ | ⟨-, -, hco', -⟩
    · simp [hd] at hd'
    · simp [hf] at hf'
    · rw [he', assignName_assignName]
    all_goals simp [hco] at hco'
  · rcases openSlot_cases (s := s.assignName i) checkOnly createMode i with ⟨_, hd', -⟩ |
      ⟨hd', _, hf', -⟩ | ⟨-, -, hco', -⟩ | ⟨-, -, -, -, he'⟩ | ⟨-, -, -, hcm', -⟩
    · simp [hd] at hd'
    · simp [hf] at hf'
    · simp [hco] at hco'
    · rw [he', assignName_assignName]
    · simp [hcm] at hcm'

theorem openSlot_ok {checkOnly createMode : Bool} {i n : Nat} {s' : Store}
    (h : s.openSlot checkOnly createMode i = .ok n s') :
    s'.cf = { s.cf.assignNames (· == i) with
      fileList_ := Function.update s.cf.fileList_ i (some ⟨false, checkOnly, !checkOnly⟩) } ∧
      s'.fs.dirStatus = s.fs.dirStatus := by
  rcases openSlot_cases (s := s) checkOnly createMode i with ⟨_, -, he⟩ | ⟨-, _, -, he⟩ |
    ⟨-, -, -, he⟩ | ⟨-, -, -, -, he⟩ | ⟨-, -, rfl, -, he⟩ <;> rw [he] at h <;> cases h
  · exact ⟨rfl, rfl⟩
  · exact ⟨rfl, rfl⟩

/-- A thrown loop throws at a slot `i`, which throws again from the store it leaves. -/
theorem openLoop_error {checkOnly createMode : Bool} {e : Fault} {s' : Store} :
    ∀ (n k total : Nat) (s : Store),
      openLoop checkOnly createMode (List.range' k n) total s = .error e s' →
      ∃ i, k ≤ i ∧ i < k + n ∧ s'.openSlot checkOnly createMode i = .error e s' ∧
        s'.cf = { s.cf.assignNames (fun j => decide (k ≤ j ∧ j < i) || (j == i && (s.dirFault i).isNone)) with
          fileList_ := fun j => if k ≤ j ∧ j < i then some ⟨false, checkOnly, !checkOnly⟩
            else s.cf.fileList_ j }
  | 0, _, _, _, h => by cases h
  | n + 1, k, total, s, h => by
    rw [List.range'_succ, openLoop] at h
    split at h <;> rename_i t heq
    · obtain ⟨i, hki, hin, hi, hcf⟩ := openLoop_error n (k + 1) _ t h
      obtain ⟨htcf, htd⟩ := openSlot_ok heq
      have hdi : t.dirFault i = s.dirFault i :=
        dirFault_congr (by show t.cf.cfg = _; rw [htcf]; rfl) htd i
      refine ⟨i, by omega, by omega, hi, ?_⟩
      rw [hcf, hdi]
      refine CheckpointFile.ext (by rw [htcf]; rfl) (funext fun j => ?_) (funext fun j => ?_)
        (by rw [htcf]; rfl) (by rw [htcf]; rfl) (by rw [htcf]; rfl) (by rw [htcf]; rfl)
        (by rw [htcf]; rfl) (by rw [htcf]; rfl) (by rw [htcf]; rfl)
      · simp only [CheckpointFile.assignNames_fileNameList_, htcf, CheckpointFile.assignNames_cfg]
        by_cases hjk : j = k
        · subst hjk; simp [show j < i by omega]
        · by_cases hj : k + 1 ≤ j ∧ j < i
          · simp [hj, show k ≤ j ∧ j < i by omega]
          · simp [hj, hjk, show ¬(k ≤ j ∧ j < i) by omega]
      · simp only [htcf, Function.update_apply]
        by_cases hjk : j = k
        · subst hjk; simp [show j < i by omega]
        · by_cases hj : k + 1 ≤ j ∧ j < i
          · simp [hj, show k ≤ j ∧ j < i by omega]
          · simp [hj, hjk, show ¬(k ≤ j ∧ j < i) by omega]
    · cases h
      refine ⟨k, le_rfl, by omega, openSlot_error_again heq, ?_⟩
      have hk : ∀ j, ¬(k ≤ j ∧ j < k) := fun j => by omega
      refine CheckpointFile.ext ?_ (funext fun j => ?_) (funext fun j => ?_) ?_ ?_ ?_ ?_ ?_ ?_ ?_ <;>
        rcases openSlot_cases (s := s) checkOnly createMode k with ⟨_, hd, he⟩ | ⟨-, _, -, he⟩ |
          ⟨hd, -, -, he⟩ | ⟨hd, -, -, -, he⟩ | ⟨-, -, -, -, he⟩ <;> rw [he] at heq <;> cases heq <;>
        simp [hd, hk]

/-- **A thrown `open` keeps what it opened.**  `open` throws at a split slot `i` where `openSlot`
throws (a missing or non-directory path, or a missing file it may not create), rethrown as "open
failed".  The slots before `i` stay named, their handles in `fileList_`, read-only under
`checkOnly` and read-write and locked otherwise; slot `i` is named when its directory check
passed.  Nothing else of the object changes, so `blockNum_`, both bitmaps, the free count and the
cursor are as before. -/
theorem open_error_keeps_handles {checkOnly createMode : Bool} {e : Fault} {s' : Store}
    (h : s.open checkOnly createMode = .error e s') :
    ∃ i < s.cfg.splitCount_, ∃ e₀, s'.openSlot checkOnly createMode i = .error e₀ s' ∧
      e = e₀.rethrow ("Checkpoint file open failed. (reason=" ++ e₀.message ++ ")") ∧
      s'.cf = { s.cf.assignNames (fun j => decide (j < i) || (j == i && (s.dirFault i).isNone)) with
        fileList_ := fun j => if j < i then some ⟨false, checkOnly, !checkOnly⟩ else s.cf.fileList_ j } := by
  unfold Store.open at h
  split at h <;> rename_i e₀ t heq
  · cases h
  · cases h
    rw [List.range_eq_range'] at heq
    obtain ⟨i, -, hi, hslot, hcf⟩ := openLoop_error _ 0 0 s heq
    simp only [Nat.zero_le, true_and] at hcf
    exact ⟨i, by omega, e₀, hslot, rfl, hcf⟩

theorem open_error_keeps_handles_split :
    ∃ e s', Store.open ⟨.init ⟨12, "", 0, 2, 1, ["d0", "d1"], by decide⟩,
        ⟨fun d => if d = "d0" then .directory else .missing, fun _ => some ⟨fun _ => 0, 0⟩⟩⟩
        false false = .error e s' ∧
      ∃ i < 2, ∃ e₀, s'.openSlot false false i = .error e₀ s' ∧
        e = e₀.rethrow ("Checkpoint file open failed. (reason=" ++ e₀.message ++ ")") ∧
        s'.cf = { (CheckpointFile.init ⟨12, "", 0, 2, 1, ["d0", "d1"], by decide⟩).assignNames
            (fun j => decide (j < i) || (j == i && (Store.dirFault
              ⟨.init ⟨12, "", 0, 2, 1, ["d0", "d1"], by decide⟩,
                ⟨fun d => if d = "d0" then .directory else .missing, fun _ => some ⟨fun _ => 0, 0⟩⟩⟩
              i).isNone)) with
          fileList_ := fun j => if j < i then some ⟨false, false, true⟩ else none } :=
  ⟨_, _, rfl, @open_error_keeps_handles ⟨.init ⟨12, "", 0, 2, 1, ["d0", "d1"], by decide⟩,
    ⟨fun d => if d = "d0" then .directory else .missing, fun _ => some ⟨fun _ => 0, 0⟩⟩⟩
    false false _ _ rfl⟩

/-- The same `open`: after the error, slot 0's file is still open read-write and locked. -/
theorem open_error_leaves_locked :
    ∃ e s', Store.open ⟨.init ⟨12, "", 0, 2, 1, ["d0", "d1"], by decide⟩,
        ⟨fun d => if d = "d0" then .directory else .missing, fun _ => some ⟨fun _ => 0, 0⟩⟩⟩
        false false = .error e s' ∧
      s'.cf.fileList_ 0 = some ⟨false, false, true⟩ :=
  ⟨_, _, rfl, rfl⟩

/-! ### Every split slot -/

/-- Slot `i` passes `open`'s loop: its directory check passes and its file is there or creatable. -/
def slotOk (t : Store) (checkOnly createMode : Bool) (i : Nat) : Prop :=
  t.dirFault i = none ∧
    ((t.fs.files (t.cfg.fileName i)).isSome ∨ (checkOnly = false ∧ createMode = true))

instance (t : Store) (checkOnly createMode : Bool) (i : Nat) :
    Decidable (t.slotOk checkOnly createMode i) :=
  inferInstanceAs (Decidable (_ ∧ _))

theorem grows_openSlot (checkOnly createMode : Bool) (i : Nat) :
    s.fs.Grows (resultStore (s.openSlot checkOnly createMode i)).fs := by
  rcases openSlot_cases (s := s) checkOnly createMode i with ⟨_, -, he⟩ | ⟨-, _, -, he⟩ |
    ⟨-, -, -, he⟩ | ⟨-, -, -, -, he⟩ | ⟨-, -, -, -, he⟩ <;> rw [he]
  any_goals exact .refl _
  exact FileSystem.grows_modify_id _ _

/-- `open`'s loop, returned or thrown, only creates empty files. -/
theorem grows_openLoop {checkOnly createMode : Bool} : ∀ (l : List Nat) (total : Nat) (t : Store),
    t.fs.Grows (resultStore (openLoop checkOnly createMode l total t)).fs
  | [], _, t => .refl _
  | i :: l, total, t => by
    have h₁ := grows_openSlot (s := t) checkOnly createMode i
    unfold openLoop
    split <;> rename_i heq <;> rw [heq] at h₁
    · exact h₁.trans (grows_openLoop l _ _)
    · exact h₁

theorem grows_open (checkOnly createMode : Bool) :
    s.fs.Grows (resultStore (s.open checkOnly createMode)).fs := by
  have h := @grows_openLoop checkOnly createMode (List.range s.cfg.splitCount_) 0 s
  unfold Store.open
  split <;> rename_i heq <;> rw [heq] at h <;> exact h

theorem openSlot_fs {checkOnly createMode : Bool} (h : checkOnly = true ∨ createMode = false)
    (i : Nat) : (resultStore (s.openSlot checkOnly createMode i)).fs = s.fs := by
  rcases openSlot_cases (s := s) checkOnly createMode i with ⟨_, -, he⟩ | ⟨-, _, -, he⟩ |
    ⟨-, -, -, he⟩ | ⟨-, -, -, -, he⟩ | ⟨-, -, rfl, rfl, -⟩ <;> try (rw [he]; rfl)
  simp at h

theorem openLoop_fs {checkOnly createMode : Bool} (h : checkOnly = true ∨ createMode = false) :
    ∀ (l : List Nat) (total : Nat) (t : Store),
      (resultStore (openLoop checkOnly createMode l total t)).fs = t.fs
  | [], _, _ => rfl
  | i :: l, total, t => by
    have h₁ := openSlot_fs (s := t) h i
    unfold openLoop
    split <;> rename_i heq <;> rw [heq] at h₁
    · exact (openLoop_fs h l _ _).trans h₁
    · exact h₁

/-- A slot that passes opens: it counts, names and attaches its file. -/
theorem openSlot_of_slotOk {checkOnly createMode : Bool} {i : Nat}
    (h : s.slotOk checkOnly createMode i) :
    s.openSlot checkOnly createMode i =
      .ok (((s.file i).size + s.cfg.BLOCK_SIZE_ - 1) / s.cfg.BLOCK_SIZE_)
        (((s.assignName i).attach i ⟨false, checkOnly, !checkOnly⟩).create (s.cfg.fileName i)) := by
  obtain ⟨hd, hf⟩ := h
  rcases openSlot_cases (s := s) checkOnly createMode i with ⟨_, hd', -⟩ | ⟨-, f, hff, he⟩ |
    ⟨-, hff, rfl, -⟩ | ⟨-, hff, -, rfl, -⟩ | ⟨-, hff, rfl, rfl, he⟩
  · rw [hd] at hd'; cases hd'
  · rw [he, create_of_isSome (by simp [hff]), file, hff]; rfl
  · simp [hff] at hf
  · simp [hff] at hf
  · have hBS := s.cfg.BLOCK_SIZE_pos
    rw [he, file, hff, Option.getD_none, DiskFile.empty_size, Nat.zero_add,
      Nat.div_eq_of_lt (by omega)]
    rfl

theorem openSlot_of_not_slotOk {checkOnly createMode : Bool} {i : Nat}
    (h : ¬s.slotOk checkOnly createMode i) :
    ∃ e s', s.openSlot checkOnly createMode i = .error e s' := by
  rcases openSlot_cases (s := s) checkOnly createMode i with ⟨_, -, he⟩ | ⟨hd, _, hff, -⟩ |
    ⟨-, -, -, he⟩ | ⟨-, -, -, -, he⟩ | ⟨hd, -, hco, hcm, -⟩
  · exact ⟨_, _, he⟩
  · exact absurd ⟨hd, .inl (by simp [hff])⟩ h
  · exact ⟨_, _, he⟩
  · exact ⟨_, _, he⟩
  · exact absurd ⟨hd, .inr ⟨hco, hcm⟩⟩ h

theorem slotOk_opened {checkOnly createMode : Bool} {k i : Nat} (hk : s.slotOk checkOnly createMode k)
    (h : NamedFile) :
    (((s.assignName k).attach k h).create (s.cfg.fileName k)).slotOk checkOnly createMode i ↔
      s.slotOk checkOnly createMode i := by
  unfold slotOk
  simp only [dirFault_create, dirFault_attach, dirFault_assignName, create_fs, create_cfg, attach_fs,
    attach_cfg, assignName_fs, assignName_cfg, FileSystem.modify_files]
  by_cases hn : s.cfg.fileName i = s.cfg.fileName k
  · rw [if_pos hn, hn]
    simpa using fun _ => hk.2
  · rw [if_neg hn]

/-- `open`'s loop over slots `k, …, k + n - 1` returns exactly when each of them passes. -/
theorem openLoop_returns_iff {checkOnly createMode : Bool} : ∀ (n k total : Nat) (s : Store),
    (∃ t s', openLoop checkOnly createMode (List.range' k n) total s = .ok t s') ↔
      ∀ i, k ≤ i → i < k + n → s.slotOk checkOnly createMode i
  | 0, _, _, _ => ⟨fun _ i h1 h2 => absurd h2 (by omega), fun _ => ⟨_, _, rfl⟩⟩
  | n + 1, k, total, s => by
    rw [List.range'_succ, openLoop]
    by_cases hk : s.slotOk checkOnly createMode k
    · rw [openSlot_of_slotOk hk]
      dsimp only
      rw [openLoop_returns_iff n (k + 1)]
      constructor
      · intro h i h1 h2
        rcases Nat.eq_or_lt_of_le h1 with rfl | h1
        · exact hk
        · exact (slotOk_opened hk _).mp (h i h1 (by omega))
      · intro h i h1 h2
        exact (slotOk_opened hk _).mpr (h i (by omega) (by omega))
    · obtain ⟨e, s', he⟩ := openSlot_of_not_slotOk hk
      rw [he]
      exact ⟨fun ⟨_, _, h⟩ => (by cases h), fun h => absurd (h k le_rfl (by omega)) hk⟩

/-- A returning loop of `open` counts, names and attaches every slot it visits. -/
theorem openLoop_ok {checkOnly createMode : Bool} : ∀ (n k total : Nat) (s : Store) {t : Nat}
    {s' : Store}, openLoop checkOnly createMode (List.range' k n) total s = .ok t s' →
    t = total + ((List.range' k n).map fun i =>
        ((s.file i).size + s.cfg.BLOCK_SIZE_ - 1) / s.cfg.BLOCK_SIZE_).sum ∧
      s'.cf = { s.cf.assignNames (fun j => decide (k ≤ j ∧ j < k + n)) with
        fileList_ := fun j => if k ≤ j ∧ j < k + n then some ⟨false, checkOnly, !checkOnly⟩
          else s.cf.fileList_ j } ∧
      s.fs.Grows s'.fs ∧ ∀ i, k ≤ i → i < k + n → (s'.fs.files (s.cfg.fileName i)).isSome
  | 0, k, total, s, _, _, h => by
    cases h
    have hk : ∀ j, ¬(k ≤ j ∧ j < k) := fun j => by omega
    exact ⟨rfl, CheckpointFile.ext rfl (funext fun j => by simp [hk]) (funext fun j => by simp [hk])
      rfl rfl rfl rfl rfl rfl rfl, .refl _, fun i h1 h2 => by omega⟩
  | n + 1, k, total, s, t, s', h => by
    rw [List.range'_succ, openLoop] at h
    have hk : s.slotOk checkOnly createMode k := by
      by_contra hk
      obtain ⟨e, s₁, he⟩ := openSlot_of_not_slotOk hk
      rw [he] at h
      cases h
    rw [openSlot_of_slotOk hk] at h
    obtain ⟨ht, hcf, hgrow, hfiles⟩ := openLoop_ok n (k + 1) _ _ h
    have hk_file : ((((s.assignName k).attach k ⟨false, checkOnly, !checkOnly⟩).create
        (s.cfg.fileName k)).fs.files (s.cfg.fileName k)).isSome := by
      simp
    refine ⟨?_, ?_, (FileSystem.grows_modify_id _ _).trans hgrow, fun i h1 h2 => ?_⟩
    · rw [ht, List.range'_succ, List.map_cons, List.sum_cons]
      simp only [file_create, file_attach, file_assignName, create_cfg, attach_cfg, assignName_cfg]
      omega
    · rw [hcf]
      refine CheckpointFile.ext rfl (funext fun j => ?_) (funext fun j => ?_) rfl rfl rfl rfl rfl rfl rfl
      · simp only [CheckpointFile.assignNames_fileNameList_, create_cf, attach_cf, assignName_cf,
          CheckpointFile.assignNames_cfg]
        by_cases hjk : j = k
        · subst hjk; simp
        · by_cases hj : k + 1 ≤ j ∧ j < k + 1 + n
          · simp [hj, show k ≤ j ∧ j < k + (n + 1) by omega]
          · simp [hj, hjk, show ¬(k ≤ j ∧ j < k + (n + 1)) by omega]
      · simp only [create_cf, attach_cf, assignName_cf, CheckpointFile.assignNames_fileList_,
          Function.update_apply]
        by_cases hjk : j = k
        · subst hjk; simp
        · by_cases hj : k + 1 ≤ j ∧ j < k + 1 + n
          · simp [hj, show k ≤ j ∧ j < k + (n + 1) by omega]
          · simp [hj, hjk, show ¬(k ≤ j ∧ j < k + (n + 1)) by omega]
    · rcases Nat.eq_or_lt_of_le h1 with rfl | h1
      · rw [hgrow.eq_of_isSome hk_file]
        exact hk_file
      · exact hfiles i h1 (by omega)

/-! ### What a returning `open` counts -/

theorem file_of_grows {t : Store} (hcfg : t.cfg = s.cfg) (h : s.fs.Grows t.fs) (i : Nat) :
    t.file i = s.file i := by
  simp only [file, hcfg, h.getD]

/-- **When `open` returns.**  `open(checkOnly, createMode)` returns exactly when every split slot
passes: its directory check, and its file on disk or `checkOnly` false and `createMode` true;
otherwise it throws. -/
theorem open_returns_iff {checkOnly createMode : Bool} :
    (∃ e s', s.open checkOnly createMode = .ok e s') ↔
      ∀ i < s.cfg.splitCount_, s.slotOk checkOnly createMode i := by
  have h := @openLoop_returns_iff checkOnly createMode s.cfg.splitCount_ 0 0 s
  rw [← List.range_eq_range'] at h
  unfold Store.open
  constructor
  · rintro ⟨e, s', hs⟩
    split at hs
    · rename_i heq
      exact fun i hi => h.mp ⟨_, _, heq⟩ i (Nat.zero_le i) (by omega)
    · cases hs
  · intro hall
    obtain ⟨t, s₁, hs⟩ := h.mpr fun i _ hi => hall i (by omega)
    rw [hs]
    exact ⟨_, _, rfl⟩

/-- The store a returning `open` leaves, from its loop. -/
theorem open_ok {checkOnly createMode e : Bool} {s' : Store}
    (h : s.open checkOnly createMode = .ok e s') :
    s'.cf.blockNum_ = ((List.range s.cfg.splitCount_).map fun i =>
        ((s.file i).size + s.cfg.BLOCK_SIZE_ - 1) / s.cfg.BLOCK_SIZE_).sum ∧
      e = (s'.cf.blockNum_ == 0) ∧ s'.cfg = s.cfg ∧ s.fs.Grows s'.fs ∧
      ∀ i < s.cfg.splitCount_, s.dirFault i = none ∧
        s'.cf.fileNameList_ i = some (s.cfg.fileName i) ∧
        s'.cf.fileList_ i = some ⟨false, checkOnly, !checkOnly⟩ ∧
        (s'.fs.files (s.cfg.fileName i)).isSome := by
  have hok := open_returns_iff.mp ⟨e, s', h⟩
  unfold Store.open at h
  split at h
  · rename_i t s₁ heq
    rw [List.range_eq_range'] at heq
    obtain ⟨ht, hcf, hgrow, hfiles⟩ := openLoop_ok _ 0 0 s heq
    cases h
    have hcfg : s₁.cfg = s.cfg := by show s₁.cf.cfg = _; rw [hcf]; rfl
    refine ⟨by rw [openFinish_blockNum_, ht, Nat.zero_add, List.range_eq_range'], rfl,
      by rw [openFinish_cfg, hcfg], hgrow, fun i hi => ⟨(hok i hi).1, ?_, ?_,
        hfiles i (Nat.zero_le i) (by omega)⟩⟩
    · rw [openFinish_fileNameList_, hcf, CheckpointFile.assignNames_fileNameList_,
        if_pos (by simpa using hi)]
    · rw [openFinish_fileList_, hcf]
      exact if_pos ⟨Nat.zero_le i, by omega⟩
  · cases h

/-- A returning `open` clears bit `blockNum_ + 1` of both bitmaps and counts every bit free. -/
theorem open_ok_used {checkOnly createMode e : Bool} {s' : Store}
    (h : s.open checkOnly createMode = .ok e s') :
    s'.cf.usedChunkInfo_ = s.cf.usedChunkInfo_.set (s'.cf.blockNum_ + 1) false ∧
      s'.cf.validChunkInfo_ = s.cf.validChunkInfo_.set (s'.cf.blockNum_ + 1) false ∧
      s'.cf.freeUseBitNum_ = s'.cf.usedChunkInfo_.length ∧ s'.cf.freeBlockSearchCursor_ = 0 := by
  have hf := openLoop_frame checkOnly createMode (List.range s.cfg.splitCount_) 0 s
  unfold Store.open at h
  split at h <;> rename_i t s₁ heq <;> rw [heq] at hf
  · cases h
    have hu : s₁.cf.usedChunkInfo_ = s.cf.usedChunkInfo_ := hf.used
    have hv : s₁.cf.validChunkInfo_ = s.cf.validChunkInfo_ := hf.valid
    exact ⟨by simp only [openFinish, hu, BitArray.reserve_eq],
      by simp only [openFinish, hv, BitArray.reserve_eq], rfl, rfl⟩
  · cases h

/-- **What a returning `open` counts and opens.**  `blockNum_` is the sum over the split slots of
`ceil(size / BLOCK_SIZE)` of each slot's file as it was (0 for an absent one), and the result
says whether that sum is 0.  Every split slot is named and attached, read-only under `checkOnly`
and locked otherwise, with its file on disk; the settings stay, and no file's bytes or size
change: the absent ones are created empty.  Both bitmaps keep their bits but bit
`blockNum_ + 1`, cleared, all of them counted free, and the cursor is 0. -/
theorem open_counts_blocks {checkOnly createMode e : Bool} {s' : Store}
    (h : s.open checkOnly createMode = .ok e s') :
    s'.cf.blockNum_ = ((List.range s.cfg.splitCount_).map fun i =>
        ((s.file i).size + s.cfg.BLOCK_SIZE_ - 1) / s.cfg.BLOCK_SIZE_).sum ∧
      e = (s'.cf.blockNum_ == 0) ∧ s'.cfg = s.cfg ∧ s.fs.Grows s'.fs ∧
      (∀ i < s.cfg.splitCount_, s'.cf.fileNameList_ i = some (s.cfg.fileName i) ∧
        s'.cf.fileList_ i = some ⟨false, checkOnly, !checkOnly⟩ ∧
        (s'.fs.files (s.cfg.fileName i)).isSome) ∧
      s'.cf.usedChunkInfo_ = s.cf.usedChunkInfo_.set (s'.cf.blockNum_ + 1) false ∧
      s'.cf.validChunkInfo_ = s.cf.validChunkInfo_.set (s'.cf.blockNum_ + 1) false ∧
      s'.cf.freeUseBitNum_ = s'.cf.usedChunkInfo_.length ∧ s'.cf.freeBlockSearchCursor_ = 0 := by
  obtain ⟨hb, he, hcfg, hg, hall⟩ := open_ok h
  exact ⟨hb, he, hcfg, hg, fun i hi => (hall i hi).2, open_ok_used h⟩

theorem open_counts_blocks_split :
    ∃ e s', Store.open ⟨.init ⟨12, "", 0, 2, 1, ["d"], by decide⟩,
        ⟨fun _ => .directory, fun n => if n.splitId = 0 then some ⟨fun _ => 0, 5000⟩ else none⟩⟩
        false true = .ok e s' ∧ s'.cf.blockNum_ = 2 ∧ e = false ∧
      (∀ i < 2, s'.cf.fileNameList_ i = some (Config.fileName ⟨12, "", 0, 2, 1, ["d"], by decide⟩ i) ∧
        s'.cf.fileList_ i = some ⟨false, false, true⟩ ∧
        (s'.fs.files (Config.fileName ⟨12, "", 0, 2, 1, ["d"], by decide⟩ i)).isSome) ∧
      s'.cf.usedChunkInfo_.length = 4 := by
  obtain ⟨e, s', h⟩ : ∃ e s', Store.open ⟨.init ⟨12, "", 0, 2, 1, ["d"], by decide⟩,
      ⟨fun _ => .directory, fun n => if n.splitId = 0 then some ⟨fun _ => 0, 5000⟩ else none⟩⟩
      false true = .ok e s' := ⟨_, _, by rfl⟩
  obtain ⟨hb, he, -, -, hall, hu, -⟩ := open_counts_blocks h
  have h2 : s'.cf.blockNum_ = 2 := hb.trans (by decide)
  refine ⟨e, s', h, h2, by rw [he, h2]; rfl, hall, ?_⟩
  rw [hu, h2]
  rfl

theorem sum_ceil_mul_bounds {b : Nat} (hb : 0 < b) (x : Nat → Nat) : ∀ l : List Nat,
    (l.map x).sum ≤ (l.map fun i => (x i + b - 1) / b).sum * b ∧
      (l.map fun i => (x i + b - 1) / b).sum * b + l.length ≤ (l.map x).sum + l.length * b
  | [] => by simp
  | i :: l => by
    obtain ⟨h1, h2⟩ := sum_ceil_mul_bounds hb x l
    have h3 := Nat.div_mul_le_self (x i + b - 1) b
    have h4 := Nat.lt_div_mul_add (a := x i + b - 1) hb
    simp only [List.map_cons, List.sum_cons, List.length_cons, Nat.add_mul]
    omega

/-- **`blockNum_` after `open` covers the files.**  When `open` returns, `getFileSize()` returns,
and the blocks `open` counts hold every byte of the files it adds up, with less than one block to
spare per split slot: `getFileSize ≤ blockNum_ · BLOCK_SIZE < getFileSize + splitCount ·
BLOCK_SIZE`. -/
theorem open_blockNum_covers {checkOnly createMode e : Bool} {s' : Store}
    (h : s.open checkOnly createMode = .ok e s') :
    ∃ n, s'.getFileSize = .ok n ∧ n ≤ s'.cf.blockNum_ * s'.cfg.BLOCK_SIZE_ ∧
      s'.cf.blockNum_ * s'.cfg.BLOCK_SIZE_ < n + s'.cfg.splitCount_ * s'.cfg.BLOCK_SIZE_ := by
  obtain ⟨hb, -, hcfg, hgrow, hall⟩ := open_ok h
  have hopen : ∀ i < s'.cfg.splitCount_, ∀ hd, s'.cf.fileList_ i = some hd → hd.isClosed = false :=
    fun i hi hd hh => by
      rw [(hall i (hcfg ▸ hi)).2.2.1] at hh
      cases hh; rfl
  refine ⟨_, getFileSize_eq hopen, ?_⟩
  have hsize : ((List.range s'.cfg.splitCount_).map fun i =>
      if (s'.cf.fileList_ i).isSome then (s'.file i).size else 0).sum =
      ((List.range s.cfg.splitCount_).map fun i => (s.file i).size).sum := by
    rw [hcfg]
    congr 1
    refine List.map_congr_left fun i hi => ?_
    rw [(hall i (List.mem_range.mp hi)).2.2.1, Option.isSome_some, if_pos rfl]
    exact congrArg DiskFile.size (file_of_grows hcfg hgrow i)
  obtain ⟨h1, h2⟩ := sum_ceil_mul_bounds s.cfg.BLOCK_SIZE_pos (fun i => (s.file i).size)
    (List.range s.cfg.splitCount_)
  have hS := s.cfg.splitCount_pos
  rw [List.length_range] at h2
  rw [hsize, hb, hcfg]
  exact ⟨h1, by omega⟩

theorem open_blockNum_covers_split :
    ∃ e s', Store.open ⟨.init ⟨12, "", 0, 2, 1, ["d"], by decide⟩,
        ⟨fun _ => .directory, fun n => if n.splitId = 0 then some ⟨fun _ => 0, 5000⟩ else none⟩⟩
        false true = .ok e s' ∧ ∃ n, s'.getFileSize = .ok n ∧
      n ≤ s'.cf.blockNum_ * s'.cfg.BLOCK_SIZE_ ∧
      s'.cf.blockNum_ * s'.cfg.BLOCK_SIZE_ < n + s'.cfg.splitCount_ * s'.cfg.BLOCK_SIZE_ :=
  ⟨_, _, rfl, @open_blockNum_covers ⟨.init ⟨12, "", 0, 2, 1, ["d"], by decide⟩,
    ⟨fun _ => .directory, fun n => if n.splitId = 0 then some ⟨fun _ => 0, 5000⟩ else none⟩⟩
    false true _ _ rfl⟩

/-! ### What a thrown `open` throws -/

theorem dirFault_eq_some {i : Nat} {f : Fault} (h : s.dirFault i = some f) :
    ∃ m, f = .error .GS_ERROR_CF_INVALID_DIRECTORY [m] ∧
      (s.fs.dirStatus (s.cfg.dirList_ i) = .notDirectory ∧
          m = "Not direcotry: directoryName=" ++ s.cfg.dirList_ i ∨
        s.fs.dirStatus (s.cfg.dirList_ i) = .missing ∧
          m = "Directory not found: directoryName=" ++ s.cfg.dirList_ i) := by
  unfold dirFault at h
  dsimp only at h
  split at h
  · split at h <;> cases h
    · exact ⟨_, rfl, .inl ⟨‹_›, rfl⟩⟩
    · exact ⟨_, rfl, .inr ⟨‹_›, rfl⟩⟩
  · cases h

/-- **What a thrown `open` throws.**  Its fault is a failing split slot's, under
`"Checkpoint file open failed. (reason=<message>)"`: `GS_ERROR_CF_INVALID_DIRECTORY` when the
slot's directory is not a directory or is missing, or `GS_ERROR_CM_FILE_NOT_FOUND` when its file
is missing under `checkOnly`, or without `createMode`. -/
theorem open_error_spec {checkOnly createMode : Bool} {e : Fault} {s' : Store}
    (h : s.open checkOnly createMode = .error e s') :
    ∃ code m, e = .error code ["Checkpoint file open failed. (reason=" ++ m ++ ")", m] ∧
      ((∃ i < s.cfg.splitCount_, code = .GS_ERROR_CF_INVALID_DIRECTORY ∧
          (s.fs.dirStatus (s.cfg.dirList_ i) = .notDirectory ∧
              m = "Not direcotry: directoryName=" ++ s.cfg.dirList_ i ∨
            s.fs.dirStatus (s.cfg.dirList_ i) = .missing ∧
              m = "Directory not found: directoryName=" ++ s.cfg.dirList_ i)) ∨
        code = .GS_ERROR_CM_FILE_NOT_FOUND ∧
          (checkOnly = true ∧ m = "Checkpoint file not found despite check only." ∨
            checkOnly = false ∧ createMode = false ∧ m = "Checkpoint file not found.")) := by
  have hg := @grows_openLoop checkOnly createMode (List.range s.cfg.splitCount_) 0 s
  have hf := openLoop_frame checkOnly createMode (List.range s.cfg.splitCount_) 0 s
  unfold Store.open at h
  split at h
  · cases h
  · rename_i e' s₁ heq
    rw [heq] at hf hg
    rw [List.range_eq_range'] at heq
    obtain ⟨i, -, hiS, hslot, -⟩ := openLoop_error _ 0 0 s heq
    obtain ⟨rfl, rfl⟩ := EStateM.Result.error.inj h
    rcases openSlot_cases (s := s₁) checkOnly createMode i with ⟨f, hd, he⟩ | ⟨-, _, -, he⟩ |
      ⟨-, -, hco, he⟩ | ⟨-, -, hco, hcm, he⟩ | ⟨-, -, -, -, he⟩ <;> rw [he] at hslot <;>
      first | (obtain ⟨rfl, -⟩ := EStateM.Result.error.inj hslot) | cases hslot
    · -- the directory check
      rw [dirFault_congr (s := s) (t := s₁) hf.cfg hg.dirStatus] at hd
      obtain ⟨m, rfl, hm⟩ := dirFault_eq_some hd
      exact ⟨_, m, rfl, .inl ⟨i, by omega, rfl, hm⟩⟩
    · exact ⟨_, _, rfl, .inr ⟨rfl, .inl ⟨hco, rfl⟩⟩⟩
    · exact ⟨_, _, rfl, .inr ⟨rfl, .inr ⟨hco, hcm, rfl⟩⟩⟩

theorem open_error_spec_missing_dir :
    ∃ e s', Store.open ⟨.init ⟨12, "", 0, 2, 1, ["a", "b"], by decide⟩,
        ⟨fun d => if d = "a" then .directory else .missing, fun _ => none⟩⟩ false true =
        .error e s' ∧
      ∃ code m, e = .error code ["Checkpoint file open failed. (reason=" ++ m ++ ")", m] ∧
      ((∃ i < 2, code = .GS_ERROR_CF_INVALID_DIRECTORY ∧
          ((if (⟨12, "", 0, 2, 1, ["a", "b"], by decide⟩ : Config).dirList_ i = "a" then
              DirStatus.directory else .missing) = .notDirectory ∧
              m = "Not direcotry: directoryName=" ++
                (⟨12, "", 0, 2, 1, ["a", "b"], by decide⟩ : Config).dirList_ i ∨
            (if (⟨12, "", 0, 2, 1, ["a", "b"], by decide⟩ : Config).dirList_ i = "a" then
              DirStatus.directory else .missing) = .missing ∧
              m = "Directory not found: directoryName=" ++
                (⟨12, "", 0, 2, 1, ["a", "b"], by decide⟩ : Config).dirList_ i)) ∨
        code = .GS_ERROR_CM_FILE_NOT_FOUND ∧
          (false = true ∧ m = "Checkpoint file not found despite check only." ∨
            false = false ∧ true = false ∧ m = "Checkpoint file not found.")) :=
  ⟨_, _, by rfl, @open_error_spec ⟨.init ⟨12, "", 0, 2, 1, ["a", "b"], by decide⟩,
    ⟨fun d => if d = "a" then .directory else .missing, fun _ => none⟩⟩ false true _ _ (by rfl)⟩

/-! ### `open(false, _)` and ready stores -/

theorem Ready.assignName (hR : s.Ready) (i : Nat) : (s.assignName i).Ready where
  named j hj := by
    simp only [assignName_cf, CheckpointFile.assignNames_fileNameList_, assignName_cfg] at hj ⊢
    split
    · rfl
    · exact hR.named j hj
  dir j hj := by rw [dirFault_assignName]; exact hR.dir j hj
  handle j hj h hh := hR.handle j hj h hh

theorem Ready.openSlot (hR : s.Ready) {createMode : Bool} {i : Nat} (hi : i < s.cfg.splitCount_) :
    (resultStore (s.openSlot false createMode i)).Ready := by
  rcases openSlot_cases (s := s) false createMode i with ⟨_, -, he⟩ | ⟨-, _, hf, he⟩ |
    ⟨-, -, hco, -⟩ | ⟨-, -, -, -, he⟩ | ⟨-, -, -, -, he⟩
  · rw [he]; exact hR
  · rw [he]; exact (hR.assignName i).attach hi (by simp [hf])
  · cases hco
  · rw [he]; exact hR.assignName i
  · rw [he]; exact (hR.assignName i).attach_create hi

theorem Ready.openLoop {createMode : Bool} : ∀ (l : List Nat) (total : Nat) {t : Store}, t.Ready →
    (∀ i ∈ l, i < t.cfg.splitCount_) → (resultStore (openLoop false createMode l total t)).Ready
  | [], _, _, hR, _ => hR
  | i :: l, total, t, hR, hl => by
    have h₁ : (resultStore (t.openSlot false createMode i)).Ready := hR.openSlot (hl i (.head _))
    have hcfg := (openSlot_frame (s := t) false createMode i).cfg
    unfold CheckpointStore.Store.openLoop
    split
    · rename_i n t₁ heq
      rw [heq] at h₁ hcfg
      exact Ready.openLoop l _ h₁ fun j hj => by
        show j < t₁.cf.cfg.splitCount_
        rw [show t₁.cf.cfg = t.cf.cfg from hcfg]; exact hl j (.tail _ hj)
    · rename_i e t₁ heq
      rw [heq] at h₁
      exact h₁

/-- **`open(false, _)` keeps a store ready**, whether it returns or throws. -/
theorem Ready.open (hR : s.Ready) {createMode : Bool} {s' : Store}
    (h : after (s.open false createMode) = some s') : s'.Ready := by
  have hl : (resultStore (Store.openLoop false createMode (List.range s.cfg.splitCount_) 0 s)).Ready :=
    hR.openLoop _ 0 fun i hi => List.mem_range.mp hi
  rw [← resultStore_of_after h]
  unfold Store.open
  split <;> rename_i heq <;> rw [heq] at hl
  · exact hl.of_frame rfl rfl rfl rfl fun _ h => h
  · exact hl

/-- **A returning `open(false, _)` leaves a ready store**, whatever it was opened on. -/
theorem ready_of_open {createMode e : Bool} {s' : Store} (h : s.open false createMode = .ok e s') :
    s'.Ready := by
  obtain ⟨-, -, hcfg, hg, hall⟩ := open_ok h
  refine ⟨fun i hi => ?_, fun i hi => ?_, fun i hi hd hh => ?_⟩
  · rw [hcfg] at hi ⊢; exact (hall i hi).2.1
  · rw [dirFault_congr hcfg hg.dirStatus]; exact (hall i (hcfg ▸ hi)).1
  · rw [hcfg] at hi ⊢
    rw [(hall i hi).2.2.1] at hh
    cases hh
    exact ⟨rfl, (hall i hi).2.2.2⟩

end Store

end CheckpointStore
