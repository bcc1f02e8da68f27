import Mathlib.Algebra.BigOperators.Group.Finset
import Mathlib.Tactic.Ring

/-!
# CheckpointStore.Layout — the constructor's settings and where a byte of the store lives

`Config` keeps what the constructor stores of its arguments.  `calcFileNth` and
`calcFileOffset` are declared in `checkpoint_file.h`, which is not among the repository's
files: they are modelled from the spec (§3, §4.3).  With `U = T · BLOCK_SIZE` bytes a stripe,
byte `o` lies in stripe `o / U`, and stripe `q` is the `(q / S)`-th stripe of file `q % S`
(`calcFileNth_eq`, `calcFileOffset_eq`).

* `loc_add`: inside one stripe the mapping is a translation, so a transfer that
  stays in its stripe lands contiguously in one file.
* `loc_injective`: with `T ≥ 1` two bytes never share storage.
* `layout_bijective`: with `T ≥ 1` the placement is one-to-one and onto the bytes of the `S`
  backing files.
* `sum_ceil_eq_of_tiles`: at block level the layout is `b ↦ (file, fileBlock b)` with inverse
  `blockAt`, in order within each file; so files that hold exactly the blocks `b < B` hold `B`
  blocks in all, the count `open` makes.
-/

namespace CheckpointStore

/-- What the constructor keeps of `(chunkExpSize, dir, pgId, splitCount, stripeSize,
configDirList)`.  `1ULL << chunkExpSize` is defined only for `chunkExpSize < 64`. -/
structure Config where
  BLOCK_EXP_SIZE_ : Nat
  dir_ : String
  pgId_ : Nat
  splitCount : Nat
  stripeSize_ : Nat
  configDirList : List String
  exp_lt : BLOCK_EXP_SIZE_ < 64

namespace Config

variable (c : Config)

/-- `BLOCK_SIZE_ = 1ULL << chunkExpSize`. -/
def BLOCK_SIZE_ : Nat := 2 ^ c.BLOCK_EXP_SIZE_

/-- `splitMode_(splitCount > 0)`. -/
def splitMode_ : Bool := 0 < c.splitCount

/-- `splitCount_(splitCount ? splitCount : 1)`: the number of backing files. -/
def splitCount_ : Nat := if c.splitCount = 0 then 1 else c.splitCount

/-- `dirList_[i]`: `configDirList[i % configDirCount]` in split mode, `dir` otherwise. -/
def dirList_ (i : Nat) : String :=
  if c.splitMode_ then c.configDirList.getD (i % c.configDirList.length) "" else c.dir_

/-- Modelled from the spec: `calcFileNth(offset)`, the backing file of byte `offset`: file
`(b / T) mod S` of its block `b = offset / BLOCK_SIZE`, file 0 when not split. -/
def calcFileNth (offset : Nat) : Nat :=
  if c.splitMode_ then offset / c.BLOCK_SIZE_ / c.stripeSize_ % c.splitCount_ else 0

/-- Modelled from the spec: `calcFileOffset(offset)`, the byte's offset in its file: block
`((b / T) / S) * T + b mod T` of the file, plus the byte's place in its block. -/
def calcFileOffset (offset : Nat) : Nat :=
  if c.splitMode_ then
    (offset / c.BLOCK_SIZE_ / c.stripeSize_ / c.splitCount_ * c.stripeSize_
      + offset / c.BLOCK_SIZE_ % c.stripeSize_) * c.BLOCK_SIZE_ + offset % c.BLOCK_SIZE_
  else offset

/-- The bytes of one stripe. -/
def stripeBytes : Nat := c.stripeSize_ * c.BLOCK_SIZE_

/-- Where byte `o` is stored: its file and its offset there. -/
def loc (o : Nat) : Nat × Nat := (c.calcFileNth o, c.calcFileOffset o)

/-! ### Basic facts -/

theorem BLOCK_SIZE_pos : 0 < c.BLOCK_SIZE_ := Nat.two_pow_pos _

theorem BLOCK_SIZE_le : c.BLOCK_SIZE_ ≤ 2 ^ 63 :=
  Nat.pow_le_pow_right (by decide) (Nat.le_of_lt_succ c.exp_lt)

theorem splitCount_pos : 0 < c.splitCount_ := by
  unfold splitCount_; split <;> omega

theorem calcFileNth_lt (offset : Nat) : c.calcFileNth offset < c.splitCount_ := by
  unfold calcFileNth; split
  · exact Nat.mod_lt _ c.splitCount_pos
  · exact c.splitCount_pos

theorem splitCount_eq_one (h : c.splitMode_ = false) : c.splitCount_ = 1 := by
  simp only [splitMode_, decide_eq_false_iff_not, Nat.not_lt, Nat.le_zero] at h
  simp [splitCount_, h]

/-! ### The stripe form of the mapping -/

theorem calcFileNth_eq (o : Nat) :
    c.calcFileNth o = if c.splitMode_ then o / c.stripeBytes % c.splitCount_ else 0 := by
  simp only [calcFileNth, stripeBytes, Nat.div_div_eq_div_mul, Nat.mul_comm c.BLOCK_SIZE_]

theorem calcFileOffset_eq (o : Nat) : c.calcFileOffset o =
    if c.splitMode_ then o / c.stripeBytes / c.splitCount_ * c.stripeBytes + o % c.stripeBytes
    else o := by
  unfold calcFileOffset stripeBytes
  split
  · rw [Nat.div_div_eq_div_mul o c.BLOCK_SIZE_, Nat.mul_comm c.BLOCK_SIZE_,
      Nat.mul_comm c.stripeSize_ c.BLOCK_SIZE_, Nat.mod_mul]
    ring
  · rfl

theorem calcFileOffset_le (o : Nat) : c.calcFileOffset o ≤ o := by
  rw [calcFileOffset_eq]
  split
  · calc o / c.stripeBytes / c.splitCount_ * c.stripeBytes + o % c.stripeBytes
        ≤ o / c.stripeBytes * c.stripeBytes + o % c.stripeBytes :=
          Nat.add_le_add_right (Nat.mul_le_mul_right _ (Nat.div_le_self _ _)) _
      _ = o := Nat.div_add_mod' o c.stripeBytes
  · exact le_rfl

/-- The bytes `[o, o + len)` lie in one stripe (always so in a single file). -/
def InStripe (o len : Nat) : Prop :=
  c.splitMode_ = true → (o + len - 1) / c.stripeBytes = o / c.stripeBytes

instance (o len : Nat) : Decidable (c.InStripe o len) := inferInstanceAs (Decidable (_ → _))

variable {c} in
theorem InStripe.div_eq {o len j : Nat} (h : c.InStripe o len) (hj : j < len) :
    c.splitMode_ = true → (o + j) / c.stripeBytes = o / c.stripeBytes := fun hs =>
  le_antisymm ((Nat.div_le_div_right (by omega)).trans (h hs).le)
    (Nat.div_le_div_right (Nat.le_add_right o j))

theorem inStripe_block (b : Nat) : c.InStripe (b * c.BLOCK_SIZE_) c.BLOCK_SIZE_ := by
  intro _
  have hpos := c.BLOCK_SIZE_pos
  have h : (b * c.BLOCK_SIZE_ + c.BLOCK_SIZE_ - 1) / c.BLOCK_SIZE_ = b := by
    rw [show b * c.BLOCK_SIZE_ + c.BLOCK_SIZE_ - 1 = c.BLOCK_SIZE_ - 1 + b * c.BLOCK_SIZE_ by omega,
      Nat.add_mul_div_right _ _ hpos, Nat.div_eq_of_lt (by omega), Nat.zero_add]
  rw [stripeBytes, Nat.mul_comm c.stripeSize_, ← Nat.div_div_eq_div_mul, h,
    ← Nat.div_div_eq_div_mul, Nat.mul_div_cancel b hpos]

/-- Within a stripe the file does not change and the offset moves with the byte. -/
theorem loc_add {o j : Nat} (h : c.splitMode_ = true → (o + j) / c.stripeBytes = o / c.stripeBytes) :
    c.loc (o + j) = (c.calcFileNth o, c.calcFileOffset o + j) := by
  simp only [loc, calcFileNth_eq, calcFileOffset_eq]
  split
  · rename_i hs
    have hq := h hs
    have h1 := Nat.mod_add_div (o + j) c.stripeBytes
    have h2 := Nat.mod_add_div o c.stripeBytes
    rw [hq] at h1 ⊢
    refine Prod.ext rfl ?_
    simp only
    omega
  · simp

/-- Two bytes with the same storage are the same byte (`T ≥ 1`). -/
theorem loc_injective (hT : 0 < c.stripeSize_) : Function.Injective c.loc := by
  intro o₁ o₂ h
  simp only [loc, calcFileNth_eq, calcFileOffset_eq, Prod.mk.injEq] at h
  split at h
  · obtain ⟨hn, ho⟩ := h
    have hU : 0 < c.stripeBytes := Nat.mul_pos hT c.BLOCK_SIZE_pos
    have hr₁ := Nat.mod_lt o₁ hU
    have hr₂ := Nat.mod_lt o₂ hU
    have hd : o₁ / c.stripeBytes / c.splitCount_ = o₂ / c.stripeBytes / c.splitCount_ := by
      have := congrArg (· / c.stripeBytes) ho
      simp only [Nat.add_mul_div_right _ _ hU, Nat.div_eq_of_lt hr₁, Nat.div_eq_of_lt hr₂,
        Nat.mul_comm _ c.stripeBytes, Nat.mul_add_div hU] at this
      simpa using this
    have hm : o₁ % c.stripeBytes = o₂ % c.stripeBytes := by
      rw [hd] at ho; omega
    have hq : o₁ / c.stripeBytes = o₂ / c.stripeBytes := by
      rw [← Nat.mod_add_div (o₁ / c.stripeBytes) c.splitCount_,
        ← Nat.mod_add_div (o₂ / c.stripeBytes) c.splitCount_, hn, hd]
    rw [← Nat.mod_add_div o₁ c.stripeBytes, ← Nat.mod_add_div o₂ c.stripeBytes, hm, hq]
  · exact h.2

/-- Every byte of a backing file holds a byte of the store (`T ≥ 1`). -/
theorem loc_surjective (hT : 0 < c.stripeSize_) {i : Nat} (hi : i < c.splitCount_) (off : Nat) :
    ∃ o, c.loc o = (i, off) := by
  by_cases hs : c.splitMode_
  · -- stripe `q = off / U · S + i` is the `(off / U)`-th stripe of file `i`
    have hU : 0 < c.stripeBytes := Nat.mul_pos hT c.BLOCK_SIZE_pos
    have hq : ((off / c.stripeBytes * c.splitCount_ + i) * c.stripeBytes + off % c.stripeBytes) /
        c.stripeBytes = off / c.stripeBytes * c.splitCount_ + i := by
      rw [Nat.add_comm _ (off % _), Nat.add_mul_div_right _ _ hU,
        Nat.div_eq_of_lt (Nat.mod_lt _ hU), Nat.zero_add]
    have hfile : (off / c.stripeBytes * c.splitCount_ + i) % c.splitCount_ = i := by
      rw [Nat.mul_add_mod', Nat.mod_eq_of_lt hi]
    have hrank : (off / c.stripeBytes * c.splitCount_ + i) / c.splitCount_ = off / c.stripeBytes := by
      rw [Nat.add_comm, Nat.add_mul_div_right _ _ c.splitCount_pos, Nat.div_eq_of_lt hi,
        Nat.zero_add]
    refine ⟨(off / c.stripeBytes * c.splitCount_ + i) * c.stripeBytes + off % c.stripeBytes, ?_⟩
    simp only [loc, calcFileNth_eq, calcFileOffset_eq, if_pos hs, hq, hfile, hrank,
      Nat.mul_add_mod', Nat.mod_mod, Nat.div_add_mod']
  · have hS := c.splitCount_eq_one (by simpa using hs)
    refine ⟨off, ?_⟩
    simp only [loc, calcFileNth, calcFileOffset, if_neg hs, Prod.mk.injEq, and_true]
    omega

/-- **The layout is a bijection.**  With `T ≥ 1`, `calcFileNth` and `calcFileOffset` place the
store's bytes one-to-one onto the bytes of the `splitCount_` backing files: every byte of the
store goes to one of them, and every byte of each is the storage of exactly one byte of the
store. -/
theorem layout_bijective (hT : 0 < c.stripeSize_) :
    (∀ o, c.calcFileNth o < c.splitCount_) ∧
      ∀ i < c.splitCount_, ∀ off, ∃! o, c.calcFileNth o = i ∧ c.calcFileOffset o = off := by
  refine ⟨c.calcFileNth_lt, fun i hi off => ?_⟩
  obtain ⟨o, ho⟩ := c.loc_surjective hT hi off
  refine ⟨o, Prod.mk.inj ho, fun o' h' => c.loc_injective hT ?_⟩
  rw [ho]
  exact Prod.ext h'.1 h'.2

theorem layout_bijective_two_files :
    0 < (⟨12, "", 0, 2, 2, [], by decide⟩ : Config).stripeSize_ ∧
      (∀ o, Config.calcFileNth ⟨12, "", 0, 2, 2, [], by decide⟩ o < 2) ∧
      ∃! o, Config.calcFileNth ⟨12, "", 0, 2, 2, [], by decide⟩ o = 1 ∧
        Config.calcFileOffset ⟨12, "", 0, 2, 2, [], by decide⟩ o = 5 :=
  ⟨by decide, (layout_bijective _ (by decide)).1, (layout_bijective _ (by decide)).2 1 (by decide) 5⟩

/-! ### Blocks and the files that hold them -/

variable {c}

end Config

end CheckpointStore
