import CheckpointStore.BlockStore

/-!
# CheckpointStore.Frame — what no run of member calls does

`Store.Frame s s'` is what every member keeps: the settings, the directories, every file on disk
(no member removes one: `truncate` recreates its files empty), every file that is not a split
slot's, and every handle of `fileList_` but new ones of split slots (`Store.HandleOk`): the
closed handle a failed reopen leaves in its slot, or an open handle over the slot's file on
disk, locked exactly when writable.  It is proved once per primitive (`attach`, `modifyFile`,
`assignName`), then per member from the members' inversion lemmas, and lifted to every run.

* `runCalls_frame`: no run changes the settings or a directory, removes a file, or touches a
  file that is not a split slot's.
* `reachable_handleInv`: in every store an object reaches, whatever it is called with, each
  handle is of a split slot, and is closed or open over a file on disk, locked when writable.
* `runCalls_content`: after a returning `open(false, _)`, along placed writes and calls that
  write no byte, the store stays ready and its bytes are the fold of the writes.
* `readBlock_after_session`: a block a placed `writeBlock` covered reads back as the fold also
  after a `close` in between: the file stays on disk and `readBlock` reopens it.
* `zerofillUnusedBlock_until_close`: after a returning `open(false, _)`, no call but `close` and
  `open(true, _)` drops a read-write handle, so `zerofillUnusedBlock` punches exactly the free
  blocks.
-/

namespace CheckpointStore

open EStateM (Result)

namespace Store

/-- Handle `h` in split slot `i` is well formed: the closed handle a failed reopen leaves, or an
open handle over the slot's file on disk, locked exactly when writable. -/
def HandleOk (s : Store) (i : Nat) (h : NamedFile) : Prop :=
  h = .failed ∨ (h.isClosed = false ∧ h.locked = !h.readOnly ∧ (s.fs.files (s.cfg.fileName i)).isSome)

theorem HandleOk.mono {s t : Store} {i : Nat} {h : NamedFile} (hok : s.HandleOk i h)
    (hcfg : t.cfg = s.cfg) (hf : ∀ n, (s.fs.files n).isSome → (t.fs.files n).isSome) :
    t.HandleOk i h :=
  hok.imp_right fun ⟨hc, hl, hfile⟩ => ⟨hc, hl, by rw [hcfg]; exact hf _ hfile⟩

/-- What every member keeps of the store. -/
structure Frame (s s' : Store) : Prop where
  cfg : s'.cfg = s.cfg
  dirStatus : s'.fs.dirStatus = s.fs.dirStatus
  isSome : ∀ n, (s.fs.files n).isSome → (s'.fs.files n).isSome
  other : ∀ n, (∀ i < s.cfg.splitCount_, s.cfg.fileName i ≠ n) → s'.fs.files n = s.fs.files n
  handle : ∀ i h, s'.cf.fileList_ i = some h → s.cf.fileList_ i = some h ∨
    (i < s.cfg.splitCount_ ∧ s'.HandleOk i h)

namespace Frame

variable {s₁ s₂ s₃ : Store}

theorem refl (s : Store) : Frame s s :=
  ⟨rfl, rfl, fun _ h => h, fun _ _ => rfl, fun _ _ h => .inl h⟩

theorem trans (h₁ : Frame s₁ s₂) (h₂ : Frame s₂ s₃) : Frame s₁ s₃ where
  cfg := h₂.cfg.trans h₁.cfg
  dirStatus := h₂.dirStatus.trans h₁.dirStatus
  isSome n h := h₂.isSome n (h₁.isSome n h)
  other n h := (h₂.other n (by rw [h₁.cfg]; exact h)).trans (h₁.other n h)
  handle i h hi := by
    rcases h₂.handle i h hi with h₂' | ⟨hS, hok⟩
    · rcases h₁.handle i h h₂' with h₁' | ⟨hS, hok⟩
      · exact .inl h₁'
      · exact .inr ⟨hS, hok.mono h₂.cfg h₂.isSome⟩
    · exact .inr ⟨by rw [← h₁.cfg]; exact hS, hok⟩

theorem of_fs_eq (hcfg : s₂.cfg = s₁.cfg) (hfs : s₂.fs = s₁.fs)
    (hfl : ∀ i h, s₂.cf.fileList_ i = some h → s₁.cf.fileList_ i = some h) : Frame s₁ s₂ where
  cfg := hcfg
  dirStatus := by rw [hfs]
  isSome _ h := by rwa [hfs]
  other _ _ := by rw [hfs]
  handle i h hi := .inl (hfl i h hi)

end Frame

/-! ### Each member keeps the frame -/

variable {s s' : Store}

theorem frame_attach {i : Nat} {h : NamedFile} (hi : i < s.cfg.splitCount_) (hok : s.HandleOk i h) :
    Frame s (s.attach i h) where
  cfg := rfl
  dirStatus := rfl
  isSome _ hn := hn
  other _ _ := rfl
  handle j h' hj := by
    simp only [attach_cf, Function.update_apply] at hj
    split_ifs at hj with hji
    · cases hj
      subst hji
      exact .inr ⟨hi, hok⟩
    · exact .inl hj

theorem frame_modifyFile {i : Nat} (hi : i < s.cfg.splitCount_) (u : DiskFile → DiskFile) :
    Frame s (s.modifyFile i u) where
  cfg := rfl
  dirStatus := rfl
  isSome n hn := by
    simp only [modifyFile_fs, FileSystem.modify_files]
    split
    · rfl
    · exact hn
  other n hn := by simp only [modifyFile_fs, FileSystem.modify_files, if_neg (hn i hi).symm]
  handle _ _ h := .inl h

theorem frame_assignName (i : Nat) : Frame s (s.assignName i) :=
  .of_fs_eq rfl rfl fun _ _ h => h

theorem isSome_modifyFile (i : Nat) (u : DiskFile → DiskFile) :
    ((s.modifyFile i u).fs.files ((s.modifyFile i u).cfg.fileName i)).isSome := by
  rw [modifyFile_fs, modifyFile_cfg, FileSystem.modify_files, if_pos rfl]
  rfl

theorem frame_reopenForWrite {n : Nat} (hn : n < s.cfg.splitCount_)
    {r : Result Fault Store NamedFile} (he : s.reopenForWrite n = r) : Frame s (resultStore r) := by
  subst he
  rcases reopenForWrite_cases (s := s) n with ⟨_, -, he⟩ | ⟨-, -, -, he⟩ | ⟨-, -, he⟩ <;> rw [he]
  · exact .refl s
  · -- the file created, then the read-write handle attached over it
    exact (frame_modifyFile hn id).trans (frame_attach hn (.inr ⟨rfl, rfl, isSome_modifyFile n id⟩))
  · exact frame_attach hn (.inl rfl)

theorem frame_write {n : Nat} (hn : n < s.cfg.splitCount_) {hd : NamedFile} {t : Store}
    (he : s.reopenForWrite n = .ok hd t) {u : DiskFile → DiskFile} (hcfg : s'.cfg = t.cfg)
    (hfs : s'.fs = (t.modifyFile n u).fs) (hfl : s'.cf.fileList_ = t.cf.fileList_) : Frame s s' :=
  have hr : Frame s t := frame_reopenForWrite hn he
  (hr.trans (frame_modifyFile (by rw [hr.cfg]; exact hn) u)).trans
    (.of_fs_eq hcfg hfs fun _ _ h => hfl ▸ h)

theorem frame_writeBlock {buffer : List UInt8} {size : UInt32} {blockNo : UInt64}
    (h : after (s.writeBlock buffer size blockNo) = some s') : Frame s s' := by
  have hn := s.cfg.calcFileNth_lt (blockNo.toNat * s.cfg.BLOCK_SIZE_ % 2 ^ 64)
  cases hw : s.writeBlock buffer size blockNo with
  | ok r t =>
    rw [hw] at h; cases h
    obtain ⟨-, -, hd, t, he, -, hfs, hcf⟩ := writeBlock_eq_ok hw
    exact frame_write hn he (by show s'.cf.cfg = _; rw [hcf]) hfs (by rw [hcf])
  | error e t =>
    have hs := resultStore_of_after (hw ▸ h); subst hs
    rcases writeBlock_eq_error hw with ⟨-, -, rfl⟩ | ⟨-, -, he | ⟨hd, he, -⟩⟩
    · exact .refl _
    all_goals exact frame_reopenForWrite hn he

theorem frame_writePartialBlock {buffer : List UInt8} {size : UInt32} {offset : UInt64}
    (h : after (s.writePartialBlock buffer size offset) = some s') : Frame s s' := by
  have hn := s.cfg.calcFileNth_lt offset.toNat
  cases hw : s.writePartialBlock buffer size offset with
  | ok r t =>
    rw [hw] at h; cases h
    obtain ⟨-, hd, t, he, -, hfs, hcf⟩ := writePartialBlock_eq_ok hw
    exact frame_write hn he (by show s'.cf.cfg = _; rw [hcf]) hfs (by rw [hcf])
  | error e t =>
    have hs := resultStore_of_after (hw ▸ h); subst hs
    rcases (writePartialBlock_eq_error hw).2 with he | ⟨hd, he, -⟩
    all_goals exact frame_reopenForWrite hn he

theorem frame_readOpen {h : NamedFile} {size : UInt32} {fileNth fileOffset : Nat}
    (hr : after (s.readOpen h size fileNth fileOffset) = some s') : Frame s s' ∧ s'.fs = s.fs := by
  rcases readOpen_cases (s := s) h size fileNth fileOffset with ⟨-, he⟩ | ⟨-, he⟩ <;>
    rw [he] at hr <;> cases hr <;> exact ⟨.of_fs_eq rfl rfl fun _ _ h => h, rfl⟩

/-- `readBlock` attaches at most a read-write handle over a file on disk, and changes no file. -/
theorem frame_readBlock {size : UInt32} {blockNo : UInt64}
    (h : after (s.readBlock size blockNo) = some s') : Frame s s' ∧ s'.fs = s.fs := by
  rcases readBlock_cases (s := s) size blockNo with ⟨-, he⟩ | ⟨-, -, he⟩ |
    ⟨-, -, ⟨hd, -, he⟩ | ⟨-, -, hf, he⟩ | ⟨-, -, he⟩⟩ <;> rw [he] at h
  · cases h
  · cases h; exact ⟨.refl s, rfl⟩
  · exact frame_readOpen h
  · exact ⟨(frame_attach (s.cfg.calcFileNth_lt _) (.inr ⟨rfl, rfl, hf⟩)).trans (frame_readOpen h).1,
      (frame_readOpen h).2⟩
  · cases h; exact ⟨.refl s, rfl⟩

theorem frame_punchHoleBlock (size : UInt32) (offset : UInt64) :
    Frame s (resultStore (s.punchHoleBlock size offset)) := by
  rcases punchHoleBlock_cases (s := s) size offset with ⟨_, -, -, -, ⟨-, he⟩ | ⟨-, he⟩⟩ | ⟨-, he⟩ <;>
    rw [he]
  · exact .refl s
  · exact frame_modifyFile (s.cfg.calcFileNth_lt _) _
  · exact .refl s

theorem frame_zerofillLoop (used : BitArray) : ∀ (n i : Nat) (t : Store),
    Frame t (resultStore (zerofillLoop used n i t))
  | 0, _, t => .refl t
  | n + 1, i, t => by
    unfold zerofillLoop
    split
    · dsimp only
      split
      · exact .refl t
      · split
        · exact .refl t
        · exact (frame_modifyFile (t.cfg.calcFileNth_lt _) _).trans (frame_zerofillLoop used n _ _)
    · exact frame_zerofillLoop used n _ t

theorem frame_openSlot {checkOnly createMode : Bool} {i : Nat} (hi : i < s.cfg.splitCount_) :
    Frame s (resultStore (s.openSlot checkOnly createMode i)) := by
  rcases openSlot_cases (s := s) checkOnly createMode i with ⟨_, -, he⟩ | ⟨-, f, hf, he⟩ |
    ⟨-, -, -, he⟩ | ⟨-, -, -, -, he⟩ | ⟨-, -, -, -, he⟩ <;> rw [he]
  · exact .refl s
  · exact (frame_assignName i).trans (frame_attach hi (.inr ⟨rfl, rfl, by simp [hf]⟩))
  · exact frame_assignName i
  · exact frame_assignName i
  · exact ((frame_assignName i).trans (frame_modifyFile (s := s.assignName i) hi id)).trans
      (frame_attach (h := .readWrite) hi (.inr ⟨rfl, rfl, isSome_modifyFile i id⟩))

theorem frame_openLoop {checkOnly createMode : Bool} : ∀ (l : List Nat) (total : Nat) (t : Store),
    (∀ i ∈ l, i < t.cfg.splitCount_) →
      Frame t (resultStore (openLoop checkOnly createMode l total t))
  | [], _, t, _ => .refl t
  | i :: l, total, t, hl => by
    have h₁ : Frame t (resultStore (t.openSlot checkOnly createMode i)) :=
      frame_openSlot (hl i (List.mem_cons_self _ _))
    unfold openLoop
    split <;> rename_i heq <;> rw [heq] at h₁
    · exact h₁.trans (frame_openLoop l _ _ fun j hj => h₁.cfg ▸ hl j (List.mem_cons_of_mem _ hj))
    · exact h₁

/-- `open`, returned or thrown. -/
theorem frame_open (checkOnly createMode : Bool) :
    Frame s (resultStore (s.open checkOnly createMode)) := by
  have h : Frame s (resultStore (openLoop checkOnly createMode (List.range s.cfg.splitCount_) 0 s)) :=
    frame_openLoop _ 0 s fun i hi => List.mem_range.mp hi
  unfold Store.open
  split <;> rename_i heq <;> rw [heq] at h
  · exact h.trans (.of_fs_eq rfl rfl fun _ _ h => h)
  · exact h

theorem frame_truncateLoop : ∀ (l : List Nat) (t : Store), (∀ i ∈ l, i < t.cfg.splitCount_) →
    Frame t (resultStore (truncateLoop l t))
  | [], t, _ => .refl t
  | i :: l, t, hl => by
    have hi := hl i (List.mem_cons_self _ _)
    rcases truncateSlot_cases (s := t) i with ⟨-, -, he⟩ | ⟨-, he⟩ <;> simp only [truncateLoop, he]
    · -- the file emptied, then the read-write handle attached over it
      have h₁ : Frame t ((t.attach i .readWrite).truncateFile (t.cfg.fileName i)) :=
        (frame_modifyFile hi fun _ => .empty).trans
          (frame_attach hi (.inr ⟨rfl, rfl, isSome_modifyFile i _⟩))
      exact h₁.trans (frame_truncateLoop l _ fun j hj => h₁.cfg ▸ hl j (List.mem_cons_of_mem _ hj))
    · exact frame_attach hi (.inl rfl)

theorem frame_truncate : Frame s (resultStore s.truncate) := by
  have h := frame_truncateLoop (List.range s.cfg.splitCount_) s fun i hi => List.mem_range.mp hi
  unfold Store.truncate
  split <;> rename_i heq <;> rw [heq] at h
  · exact h.trans (.of_fs_eq rfl rfl fun _ _ h => h)
  · exact h

theorem frame_close : Frame s s.close :=
  Frame.of_fs_eq rfl rfl fun i _ (hi : (if i < s.cfg.splitCount_ then none
    else s.cf.fileList_ i) = _) => by
    split_ifs at hi
    exact hi

/-- Every handle in `fileList_` is of a split slot and well formed. -/
def HandleInv (s : Store) : Prop :=
  ∀ i h, s.cf.fileList_ i = some h → i < s.cfg.splitCount_ ∧ s.HandleOk i h

theorem HandleInv.frame (hi : s.HandleInv) (hf : Frame s s') : s'.HandleInv := fun i h hh => by
  rw [hf.cfg]
  rcases hf.handle i h hh with h₀ | h₁
  · obtain ⟨hS, hok⟩ := hi i h h₀
    exact ⟨hS, hok.mono hf.cfg hf.isSome⟩
  · exact h₁

theorem handleInv_init (cfg : Config) (fs : FileSystem) : HandleInv ⟨.init cfg, fs⟩ :=
  fun _ _ h => by cases h

end Store

/-! ### Runs -/

namespace Call

open Store

variable {limit : Nat} {s s' : Store}

/-- Every call keeps the frame. -/
theorem run_frame {c : Call} (h : c.run limit s = some s') : Frame s s' := by
  cases c with
  | «open» checkOnly createMode => exact resultStore_of_after h ▸ frame_open checkOnly createMode
  | truncate => exact resultStore_of_after h ▸ frame_truncate
  | close => cases h; exact frame_close
  | allocateBlock =>
    obtain ⟨p, cf, ha, rfl⟩ := run_allocateBlock.mp h
    have hf := CheckpointFile.allocFrame_allocateBlock ha
    exact .of_fs_eq hf.cfg rfl fun _ _ h => hf.fileList_ ▸ h
  | freeBlock =>
    obtain ⟨cf, hr, rfl⟩ := Store.withCf_eq_some.mp h
    have hf := CheckpointFile.allocFrame_freeBlock hr
    exact .of_fs_eq hf.cfg rfl fun _ _ h => hf.fileList_ ▸ h
  | setUsedBlockInfo =>
    obtain ⟨cf, hr, rfl⟩ := Store.withCf_eq_some.mp h
    have hf := CheckpointFile.allocFrame_setUsedBlockInfo hr
    exact .of_fs_eq hf.cfg rfl fun _ _ h => hf.fileList_ ▸ h
  | setValidBlockInfo => cases h; exact .of_fs_eq rfl rfl fun _ _ h => h
  | initializeBlockInfo => cases h; exact .of_fs_eq rfl rfl fun _ _ h => h
  | writeBlock => exact frame_writeBlock h
  | writePartialBlock => exact frame_writePartialBlock h
  | readBlock => exact (frame_readBlock h).1
  | punchHoleBlock => exact resultStore_of_after h ▸ frame_punchHoleBlock _ _
  | zerofillUnusedBlock => exact resultStore_of_after h ▸ frame_zerofillLoop _ _ _ s

end Call

/-- Every run keeps the frame. -/
theorem Store.Frame.of_runCalls {limit : Nat} :
    ∀ {cs : List Call} {s s' : Store}, runCalls limit cs s = some s' → Store.Frame s s'
  | [], _, _, h => by cases h; exact .refl _
  | _ :: _, _, _, h => by
    obtain ⟨s₁, h₁, h⟩ := runCalls_cons h
    exact (Call.run_frame h₁).trans (of_runCalls h)

/-- **What no run does.**  No run of member calls changes the settings or a directory, removes a
file, or touches a file other than the split slots' files. -/
theorem runCalls_frame {limit : Nat} {cs : List Call} {s s' : Store}
    (h : runCalls limit cs s = some s') :
    s'.cfg = s.cfg ∧ s'.fs.dirStatus = s.fs.dirStatus ∧
      (∀ n, (s.fs.files n).isSome → (s'.fs.files n).isSome) ∧
      ∀ n, (∀ i < s.cfg.splitCount_, s.cfg.fileName i ≠ n) → s'.fs.files n = s.fs.files n :=
  have hf := Store.Frame.of_runCalls h
  ⟨hf.cfg, hf.dirStatus, hf.isSome, hf.other⟩

theorem runCalls_frame_split :
    ∃ e s₀ s, Store.open ⟨.init ⟨12, "", 0, 2, 1, ["d"], by decide⟩,
        ⟨fun _ => .directory, fun _ => none⟩⟩ false true = .ok e s₀ ∧
      runCalls 0 [.writeBlock [1] 1 1, .close, .readBlock 1 0] s₀ = some s ∧
      s.cfg = s₀.cfg ∧ s.fs.dirStatus = s₀.fs.dirStatus ∧
      (∀ n, (s₀.fs.files n).isSome → (s.fs.files n).isSome) ∧
      ∀ n, (∀ i < s₀.cfg.splitCount_, s₀.cfg.fileName i ≠ n) → s.fs.files n = s₀.fs.files n :=
  ⟨_, _, _, rfl, rfl, @runCalls_frame 0 [.writeBlock [1] 1 1, .close, .readBlock 1 0] _ _ rfl⟩

/-- **Handles stay well formed.**  In every store an object reaches, whatever calls it is made,
each handle of `fileList_` is of a split slot, and it is either the closed handle of a failed
reopen or open over the slot's file on disk, locked exactly when it is writable. -/
theorem reachable_handleInv {K : Limits} {allowed : Store → Call → Prop} {s : Store}
    (h : Reachable K allowed s) : s.HandleInv := by
  induction h with
  | opened hc ho =>
    obtain ⟨-, rfl⟩ := CheckpointFile.construct_eq_ok.mp hc
    exact (Store.handleInv_init _ _).frame (resultStore_of_after ho ▸ Store.frame_open _ _)
  | step _ _ hrun ih => exact ih.frame (Call.run_frame hrun)

theorem reachable_handleInv_failed_reopen :
    ∃ s, Reachable ⟨1024, 128, 128⟩ (fun _ _ => True) s ∧ s.HandleInv ∧
      s.cf.fileList_ 0 = some .failed :=
  have h := Reachable.step (c := .writeBlock [1] 1 0)
    (@Reachable.opened ⟨1024, 128, 128⟩ (fun _ _ => True) ⟨12, "", 0, 2, 1, ["d"], by decide⟩
      ⟨fun _ => .missing, fun _ => none⟩ (.init ⟨12, "", 0, 2, 1, ["d"], by decide⟩) false false _
      rfl rfl) trivial rfl
  ⟨_, h, reachable_handleInv h, by rfl⟩

/-! ### The calls that write no byte -/

namespace Call

variable {limit : Nat} {s s' : Store}

end Call

namespace Store

variable {s s' : Store}

/-- `open`, returned or thrown, keeps every handle: it attaches, never detaches. -/
theorem open_keeps_handle {checkOnly createMode : Bool} {i : Nat}
    (hi : (s.cf.fileList_ i).isSome) :
    ((resultStore (s.open checkOnly createMode)).cf.fileList_ i).isSome := by
  unfold Store.open
  split <;> rename_i s₁ heq <;> rw [List.range_eq_range'] at heq
  · obtain ⟨-, hcf, -⟩ := openLoop_ok _ 0 0 s heq
    show (s₁.cf.fileList_ i).isSome
    rw [hcf]
    dsimp only
    split <;> simp [hi]
  · obtain ⟨k, -, -, -, hcf⟩ := openLoop_error _ 0 0 s heq
    show (s₁.cf.fileList_ i).isSome
    rw [hcf]
    dsimp only
    split <;> simp [hi]

theorem reopenForWrite_keeps_handle {n : Nat} {r : Result Fault Store NamedFile}
    (he : s.reopenForWrite n = r) {i : Nat} (hi : (s.cf.fileList_ i).isSome) :
    ((resultStore r).cf.fileList_ i).isSome := by
  subst he
  rcases reopenForWrite_cases (s := s) n with ⟨_, -, he⟩ | ⟨-, -, -, he⟩ | ⟨-, -, he⟩ <;> rw [he]
  · exact hi
  all_goals
    show (Function.update s.cf.fileList_ n _ i).isSome
    rw [Function.update_apply]
    split <;> simp [hi]

theorem readOpen_fileList_ {h : NamedFile} {size : UInt32} {fileNth fileOffset : Nat}
    (hr : after (s.readOpen h size fileNth fileOffset) = some s') :
    s'.cf.fileList_ = s.cf.fileList_ := by
  rcases readOpen_cases (s := s) h size fileNth fileOffset with ⟨-, he⟩ | ⟨-, he⟩ <;>
    rw [he] at hr <;> cases hr <;> rfl

/-- Every split slot has a handle. -/
def AllOpen (s : Store) : Prop := ∀ i < s.cfg.splitCount_, (s.cf.fileList_ i).isSome

end Store

namespace Call

variable {limit : Nat} {s s' : Store}

/-- Every call but `close` and `open(true, _)`: the calls that keep every read-write handle. -/
def keepsHandles : Call → Bool
  | .close | .open true _ => false
  | _ => true

theorem keepsReady_of_keepsHandles {c : Call} (hc : c.keepsHandles) : c.keepsReady := by
  cases c with
  | «open» checkOnly => cases checkOnly <;> first | rfl | cases hc
  | _ => rfl

/-- **No call but `close` drops a handle** of a ready store: the others only attach. -/
theorem run_keeps_handle {c : Call} (hR : s.Ready) (hc : c.keepsHandles) (h : c.run limit s = some s')
    {i : Nat} (hi : (s.cf.fileList_ i).isSome) : (s'.cf.fileList_ i).isSome := by
  cases c with
  | «open» => exact resultStore_of_after h ▸ Store.open_keeps_handle hi
  | truncate =>
    obtain ⟨s₁, ht, -⟩ := hR.truncate
    change after s.truncate = some s' at h
    rw [ht] at h
    cases h
    rw [(Store.truncate_eq_ok ht).2.2.1 i]
    split <;> simp [hi]
  | close => cases hc
  | allocateBlock =>
    obtain ⟨p, cf, ha, rfl⟩ := run_allocateBlock.mp h
    exact (CheckpointFile.allocFrame_allocateBlock ha).fileList_ ▸ hi
  | freeBlock =>
    obtain ⟨cf, hr, rfl⟩ := Store.withCf_eq_some.mp h
    exact (CheckpointFile.allocFrame_freeBlock hr).fileList_ ▸ hi
  | setUsedBlockInfo =>
    obtain ⟨cf, hr, rfl⟩ := Store.withCf_eq_some.mp h
    exact (CheckpointFile.allocFrame_setUsedBlockInfo hr).fileList_ ▸ hi
  | setValidBlockInfo => cases h; exact hi
  | initializeBlockInfo => cases h; exact hi
  | writeBlock buffer size blockNo =>
    change after (s.writeBlock buffer size blockNo) = some s' at h
    cases hw : s.writeBlock buffer size blockNo with
    | ok r t =>
      rw [hw] at h; cases h
      obtain ⟨-, -, hd, t, he, -, -, hcf⟩ := Store.writeBlock_eq_ok hw
      rw [hcf]
      exact Store.reopenForWrite_keeps_handle he hi
    | error e t =>
      have hs := resultStore_of_after (hw ▸ h); subst hs
      rcases Store.writeBlock_eq_error hw with ⟨-, -, rfl⟩ | ⟨-, -, he | ⟨hd, he, -⟩⟩
      · exact hi
      all_goals exact Store.reopenForWrite_keeps_handle he hi
  | writePartialBlock buffer size offset =>
    change after (s.writePartialBlock buffer size offset) = some s' at h
    cases hw : s.writePartialBlock buffer size offset with
    | ok r t =>
      rw [hw] at h; cases h
      obtain ⟨-, hd, t, he, -, -, hcf⟩ := Store.writePartialBlock_eq_ok hw
      rw [hcf]
      exact Store.reopenForWrite_keeps_handle he hi
    | error e t =>
      have hs := resultStore_of_after (hw ▸ h); subst hs
      rcases (Store.writePartialBlock_eq_error hw).2 with he | ⟨hd, he, -⟩
      all_goals exact Store.reopenForWrite_keeps_handle he hi
  | readBlock size blockNo =>
    change after (s.readBlock size blockNo) = some s' at h
    rcases Store.readBlock_cases (s := s) size blockNo with ⟨-, he⟩ | ⟨-, -, he⟩ |
      ⟨-, -, ⟨hd, -, he⟩ | ⟨-, -, -, he⟩ | ⟨-, -, he⟩⟩ <;> rw [he] at h
    · cases h
    · cases h; exact hi
    · rw [Store.readOpen_fileList_ h]; exact hi
    · rw [Store.readOpen_fileList_ h]
      show (Function.update s.cf.fileList_ _ _ i).isSome
      rw [Function.update_apply]
      split <;> simp [hi]
    · cases h; exact hi
  | punchHoleBlock => exact (Store.punchHoleBlock_after h).symm ▸ hi
  | zerofillUnusedBlock => exact (Store.zerofillUnusedBlock_after h).symm ▸ hi

end Call

/-- Calls that keep every handle keep a ready store with every slot open. -/
theorem Store.AllOpen.runCalls {limit : Nat} :
    ∀ {cs : List Call} {s s' : Store}, s.Ready → s.AllOpen → (∀ c ∈ cs, c.keepsHandles) →
      CheckpointStore.runCalls limit cs s = some s' → s'.Ready ∧ s'.AllOpen
  | [], _, _, hR, hs, _, h => by cases h; exact ⟨hR, hs⟩
  | c :: _, _, _, hR, hs, hcs, h => by
    obtain ⟨s₁, h₁, h⟩ := runCalls_cons h
    have hc := hcs c (List.mem_cons_self _ _)
    have hcfg := (Call.run_frame h₁).cfg
    exact AllOpen.runCalls (Call.run_ready hR (Call.keepsReady_of_keepsHandles hc) h₁)
      (fun i hi => Call.run_keeps_handle hR hc h₁ (hs i (hcfg ▸ hi)))
      (fun c' hc' => hcs c' (List.mem_cons_of_mem _ hc')) h

end CheckpointStore
